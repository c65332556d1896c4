import ClickGrant.Text.Pieces

/-!
# Paths

A path is written as names between slashes. Two paths are equal if they start at the same place
and take the same steps: slashes in a row count as one, a slash at the end is nothing, and neither
is the name `.`, unless a relative path starts with it. The name `..` is a step like any other.
-/
set_option autoImplicit false

namespace ClickGrant

/-- A path as it is written. -/
structure Path where
  text : String
  deriving Repr

namespace Path

/-- Whether the path starts at the root. -/
def isAbsolute (p : Path) : Bool := p.text.toList.head? = some '/'

/-- Whether a name between slashes leads anywhere. -/
def isStep (name : List Char) : Bool := !name.isEmpty && name ≠ ['.']

/-- The steps a path takes from where it starts. -/
def steps (p : Path) : List (List Char) :=
  match Text.pieces '/' p.text.toList with
  | ['.'] :: names => ['.'] :: names.filter isStep
  | names => names.filter isStep

/-- Equality of start and steps. -/
instance : BEq Path where
  beq p q := p.isAbsolute = q.isAbsolute && p.steps = q.steps

theorem beq_iff {p q : Path} : (p == q) = true ↔ p.isAbsolute = q.isAbsolute ∧ p.steps = q.steps := by
  simp [BEq.beq]

instance : ReflBEq Path where
  rfl := beq_iff.2 ⟨rfl, rfl⟩

end Path

end ClickGrant
