/-!
# Pieces

Cutting a text at every occurrence of a separator, which is in none of the pieces.
-/
set_option autoImplicit false

namespace ClickGrant.Text

/-- The pieces between the separators: one more than there are separators, some perhaps empty. -/
def pieces (separator : Char) : List Char → List (List Char)
  | [] => [[]]
  | c :: rest =>
    if c = separator then [] :: pieces separator rest
    else
      match pieces separator rest with
      | [] => [[c]]
      | piece :: more => (c :: piece) :: more

end ClickGrant.Text
