import ClickGrant.Assoc
import ClickGrant.Text.Starts

/-!
# Metrics

Counters of what the service does, by labels, and a gauge of what it holds. A label's value is cut
to a length; a series exists as soon as it has been counted or looked at.

The cells are natural numbers. They stand for doubles, which count exactly by one as long as they are
below 2^53; nothing here says what a cell shows after that many counts.
-/
set_option autoImplicit false

namespace ClickGrant

/-- Most bytes of a label's value. -/
def labelLimit : Nat := 64

/-- Where a value that is too long is cut: at the last start of a character within the limit. -/
def cutPlace (value : String) : Nat :=
  ((Text.starts 0 value.toList).takeWhile (· ≤ labelLimit)).getLastD 0

theorem cutPlace_eq_zero_or (value : String) :
    cutPlace value = 0 ∨ cutPlace value ∈ Text.starts 0 value.toList ∧ cutPlace value ≤ labelLimit := by
  have listed : cutPlace value ∈ 0 :: (Text.starts 0 value.toList).takeWhile (· ≤ labelLimit) :=
    List.getLastD_mem_cons
  refine (List.mem_cons.mp listed).imp_right fun seen => ⟨List.takeWhile_subset _ seen, ?_⟩
  simpa using List.all_eq_true.mp List.all_takeWhile _ seen

theorem isValid_cutPlace (value : String) : String.Pos.Raw.IsValid value ⟨cutPlace value⟩ := by
  rcases cutPlace_eq_zero_or value with first | ⟨listed, -⟩
  · rw [first]
    exact String.Pos.Raw.isValid_zero
  · exact Text.isValid_iff_mem_starts.mpr (.inl listed)

/-- A label's value: the whole if it fits, else the slice up to where it is cut. A slice can only be
taken up to a place between characters, hence the proof. -/
def cutLabel (value : String) : String :=
  if value.utf8ByteSize ≤ labelLimit then value
  else (value.sliceTo (value.pos ⟨cutPlace value⟩ (isValid_cutPlace value))).copy

/-- A counter for each combination of label values. Combinations whose values run together to the
same text share a counter, which goes by the labels of the one that came first. -/
abbrev Series := Assoc String (List String × Nat)

namespace Series

/-- The labels of a combination. -/
def labels (values : List String) : List String := values.map cutLabel

/-- The text that a combination's counter is found by. -/
def key (values : List String) : String := String.join (labels values)

/-- How often a combination was counted. -/
def count (s : Series) (values : List String) : Nat := ((s.get? (key values)).map (·.2)).getD 0

/-- The series with a combination's counter set. -/
def put (s : Series) (values : List String) (n : Nat) : Series :=
  s.set (key values) (((s.get? (key values)).map (·.1)).getD (labels values), n)

/-- The series with this combination in it. -/
def touch (s : Series) (values : List String) : Series := s.put values (s.count values)

/-- One more of a combination. -/
def add (s : Series) (values : List String) : Series := s.put values (s.count values + 1)

end Series

/-- The service's metrics. Each number stands for a double that counts by one from zero, and is the
same number below 2^53. -/
structure Metrics where
  /-- Attempts to register, by kind and result. -/
  registrations : Series
  /-- Reports of clicks, by kind and result. -/
  clicks : Series
  /-- Permissions granted, by kind. -/
  grants : Series
  /-- Processes newly quarantined. -/
  quarantined : Nat
  /-- Components registered now. -/
  active : Nat
  deriving DecidableEq, Repr

/-- Nothing has been counted. -/
def Metrics.empty : Metrics :=
  { registrations := .empty, clicks := .empty, grants := .empty, quarantined := 0, active := 0 }

end ClickGrant
