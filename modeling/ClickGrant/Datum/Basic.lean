/-!
# Data as a text denotes it

What a JSON or TOML text stands for, before it is read as anything in particular. A number is a
whole number or a double; a TOML date is kept as a date, which no field here wants.

A text can be well formed and still hold something that denotes nothing: a string with half a
surrogate pair, a number beyond every double. Such a piece is `unreadable`. It does no harm in a
field that is skipped; a field that is read refuses it. `Datum.readable` says that nothing inside
is unreadable and that lists and records nest no deeper than a limit.
-/
set_option autoImplicit false

namespace ClickGrant

/-- A piece of data. Records keep their members in the order written, repetitions included. -/
inductive Datum where
  | null
  | flag (value : Bool)
  | int (value : Int)
  | real (value : Float)
  | text (value : String)
  | date (written : String)
  | list (items : List Datum)
  | record (members : List (String × Datum))
  | unreadable

namespace Datum

mutual

/-- Whether everything inside can be read and nests at most `levels` deep. -/
def readable (levels : Nat) : Datum → Bool
  | .list items => 0 < levels && readableItems (levels - 1) items
  | .record members => 0 < levels && readableMembers (levels - 1) members
  | .unreadable => false
  | _ => true

/-- `readable` for every item. -/
def readableItems (levels : Nat) : List Datum → Bool
  | [] => true
  | d :: rest => readable levels d && readableItems levels rest

/-- `readable` for every member. -/
def readableMembers (levels : Nat) : List (String × Datum) → Bool
  | [] => true
  | (_, d) :: rest => readable levels d && readableMembers levels rest

end

end Datum

/-- Nesting at which a reader gives up: the outermost list or record counts as one. -/
def nestingLimit : Nat := 127

end ClickGrant
