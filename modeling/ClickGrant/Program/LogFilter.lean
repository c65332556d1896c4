import ClickGrant.Program.LogRule
import ClickGrant.Text.Pieces

/-!
# Log filters

A filter is a list of rules between commas. Of the rules that fit a line the highest in rank
decides, and of two with the same rank the later one; a line that no rule fits is not selected.
-/
set_option autoImplicit false

namespace ClickGrant

/-- The rules of a filter, in the order they are stated. -/
structure LogFilter where
  rules : List LogRule
  deriving DecidableEq, Repr

namespace LogFilter

/-- The filter that selects every line of a level or less detail. -/
def upTo (level : LogLevel) : LogFilter :=
  { rules := [{ target := none, span := none, field := none, level }] }

/-- The filter that a text states. Without any rule errors are selected. -/
def ofText (text : String) : Except LogRuleFault LogFilter := do
  let stated := (Text.pieces ',' text.toList).filter (!·.isEmpty)
  if stated.isEmpty then return upTo .error
  else return { rules := ← stated.mapM LogRule.ofChars }

/-- The filter in force when a text is set. A malformed one stands for `info`; with a part that
splits a character there is no filter at all. -/
def inForce? (text : String) : Option LogFilter :=
  match ofText text with
  | .ok filter => some filter
  | .error .malformed => some (upTo .info)
  | .error .splitsCharacter => none

/-- The rule that decides on a line. -/
def ruleFor? (f : LogFilter) (l : LogLine) : Option LogRule :=
  (f.rules.filter (·.fits l)).foldl (fun best r => if best.any (·.outranks r) then best else some r) none

/-- Whether a line is selected. -/
def selects (f : LogFilter) (l : LogLine) : Bool :=
  (f.ruleFor? l).any fun r => l.level.detail ≤ r.level.detail

end LogFilter

end ClickGrant
