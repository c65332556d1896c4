import Mathlib.Order.Bounds.Defs
import ClickGrant.Metrics.Basic

/-!
# Labels within their limit

A label's value is cut at the last start of a character within the limit, once it is longer than
that. What is proved:
  1. `le_cutPlace` — no place between characters that lies within the limit is behind the cut.
  2. `isGreatest_utf8ByteSize_cutLabel`, `toByteArray_cutLabel` — what is left of a label: its bytes up
     to the last such place.
  3. `exists_cutLabel_eq_append_iff` — the texts that a label starts with and that fit are those that
     what is left of it starts with.
  4. `cutLabel_longest` — all of it together, with the labels that are left as they are.
-/
set_option autoImplicit false

namespace ClickGrant

variable {value : String} {n : Nat}

/-! ## The place of the cut -/

/-- In an ascending list nothing within a limit stands behind the last that the scan up to the limit
has seen. -/
theorem le_getLastD_takeWhile {places : List Nat} {limit seen : Nat} (ascending : places.Pairwise (· < ·))
    (listed : n ∈ places) (within : n ≤ limit) : n ≤ (places.takeWhile (· ≤ limit)).getLastD seen := by
  induction places generalizing seen with
  | nil => cases listed
  | cons first rest ih =>
    obtain ⟨before, ascending⟩ := List.pairwise_cons.mp ascending
    have notLater : first ≤ n := by
      rcases List.mem_cons.mp listed with rfl | later
      · exact Nat.le_refl _
      · exact Nat.le_of_lt (before n later)
    rw [List.takeWhile_cons_of_pos (by simpa using Nat.le_trans notLater within), List.getLastD_cons]
    rcases List.mem_cons.mp listed with rfl | later
    · -- the scan goes on from here and sees nothing smaller
      rcases List.mem_cons.mp List.getLastD_mem_cons with last | last
      · exact Nat.le_of_eq last.symm
      · exact Nat.le_of_lt (before _ (List.takeWhile_subset _ last))
    · exact ih ascending later

theorem cutPlace_le (value : String) : cutPlace value ≤ labelLimit := by
  rcases cutPlace_eq_zero_or value with first | ⟨-, within⟩
  · rw [first]
    exact Nat.zero_le _
  · exact within

theorem le_cutPlace (long : labelLimit < value.utf8ByteSize) (place : String.Pos.Raw.IsValid value ⟨n⟩)
    (within : n ≤ labelLimit) : n ≤ cutPlace value := by
  rcases Text.isValid_iff_mem_starts.mp place with listed | atEnd
  · exact le_getLastD_takeWhile (Text.pairwise_starts 0 value.toList) listed within
  · omega

/-! ## What is left -/

theorem cutLabel_of_le (fits : value.utf8ByteSize ≤ labelLimit) : cutLabel value = value := if_pos fits

theorem splits_cutLabel_of_lt (long : labelLimit < value.utf8ByteSize) :
    ∃ behind, (value.pos ⟨cutPlace value⟩ (isValid_cutPlace value)).Splits (cutLabel value) behind := by
  rw [cutLabel, if_neg (Nat.not_le.mpr long)]
  exact ⟨_, String.Pos.splits _⟩

theorem utf8ByteSize_cutLabel_of_lt (long : labelLimit < value.utf8ByteSize) :
    (cutLabel value).utf8ByteSize = cutPlace value := by
  obtain ⟨behind, splits⟩ := splits_cutLabel_of_lt long
  exact congrArg String.Pos.Raw.byteIdx splits.offset_eq_rawEndPos.symm

theorem exists_eq_cutLabel_append (value : String) : ∃ behind, value = cutLabel value ++ behind := by
  by_cases fits : value.utf8ByteSize ≤ labelLimit
  · exact ⟨"", by rw [cutLabel_of_le fits, String.append_empty]⟩
  · obtain ⟨behind, splits⟩ := splits_cutLabel_of_lt (Nat.not_le.mp fits)
    exact ⟨behind, splits.eq_append⟩

/-- A label ends at the last place between characters that is within the limit. -/
theorem isGreatest_utf8ByteSize_cutLabel (value : String) :
    IsGreatest {n | String.Pos.Raw.IsValid value ⟨n⟩ ∧ n ≤ labelLimit} (cutLabel value).utf8ByteSize := by
  by_cases fits : value.utf8ByteSize ≤ labelLimit
  · rw [cutLabel_of_le fits]
    exact ⟨⟨String.Pos.Raw.isValid_rawEndPos, fits⟩, fun n place => place.1.le_utf8ByteSize⟩
  · have long := Nat.not_le.mp fits
    rw [utf8ByteSize_cutLabel_of_lt long]
    exact ⟨⟨isValid_cutPlace value, cutPlace_le value⟩, fun n place => le_cutPlace long place.1 place.2⟩

/-- The same place as a position in the label. -/
theorem splits_cutLabel (value : String) :
    ∃ place behind, (value.pos (cutLabel value).rawEndPos place).Splits (cutLabel value) behind := by
  obtain ⟨behind, whole⟩ := exists_eq_cutLabel_append value
  exact ⟨(isGreatest_utf8ByteSize_cutLabel value).1.1, behind, whole, rfl⟩

theorem toByteArray_cutLabel (value : String) :
    (cutLabel value).toByteArray = value.toByteArray.extract 0 (cutLabel value).utf8ByteSize := by
  obtain ⟨place, behind, splits⟩ := splits_cutLabel value
  exact splits.toByteArray_left_eq

theorem utf8ByteSize_cutLabel_le (value : String) : (cutLabel value).utf8ByteSize ≤ labelLimit :=
  (isGreatest_utf8ByteSize_cutLabel value).1.2

theorem cutLabel_eq_self_iff : cutLabel value = value ↔ value.utf8ByteSize ≤ labelLimit := by
  refine ⟨fun same => ?_, cutLabel_of_le⟩
  rw [← same]
  exact utf8ByteSize_cutLabel_le value

theorem cutLabel_cutLabel (value : String) : cutLabel (cutLabel value) = cutLabel value :=
  cutLabel_of_le (utf8ByteSize_cutLabel_le value)

/-! ## The longest start that fits -/

/-- A text that a label starts with ends at a place between characters, so if it fits it does not end
behind the cut. -/
theorem exists_cutLabel_eq_append_iff (value start : String) :
    (∃ more, cutLabel value = start ++ more) ↔
      (∃ rest, value = start ++ rest) ∧ start.utf8ByteSize ≤ labelLimit := by
  obtain ⟨cutEnd, behind, cut⟩ := splits_cutLabel value
  constructor
  · rintro ⟨more, left⟩
    refine ⟨⟨more ++ behind, by rw [← String.append_assoc, ← left, ← cut.eq_append]⟩, ?_⟩
    refine Nat.le_trans ?_ (utf8ByteSize_cutLabel_le value)
    rw [left, String.utf8ByteSize_append]
    exact Nat.le_add_right _ _
  · rintro ⟨⟨rest, begins⟩, within⟩
    have startEnd : String.Pos.Raw.IsValid value start.rawEndPos :=
      String.Pos.Raw.isValid_iff_exists_append.mpr ⟨start, rest, begins, rfl⟩
    have upTo : (value.pos _ startEnd).Splits start rest := ⟨begins, rfl⟩
    have notBehind : value.pos _ startEnd ≤ value.pos _ cutEnd :=
      (isGreatest_utf8ByteSize_cutLabel value).2 ⟨startEnd, within⟩
    obtain ⟨more, left, -⟩ := (upTo.le_iff_exists_eq_append cut).mp notBehind
    exact ⟨more, left⟩

/-- **A label is cut to the longest start of it that fits.** The scan ends between two characters, so the
slice up to there can be taken. What is left are the label's bytes up to the last place between
characters within the limit: a text is a start of it exactly if it is a start of the label and fits. A
label stays as it is exactly if it fits, and so does a label that was cut before. -/
theorem cutLabel_longest (value : String) :
    String.Pos.Raw.IsValid value ⟨cutPlace value⟩ ∧
    IsGreatest {n | String.Pos.Raw.IsValid value ⟨n⟩ ∧ n ≤ labelLimit} (cutLabel value).utf8ByteSize ∧
    (cutLabel value).toByteArray = value.toByteArray.extract 0 (cutLabel value).utf8ByteSize ∧
    (∀ start : String, (∃ more, cutLabel value = start ++ more) ↔
      (∃ rest, value = start ++ rest) ∧ start.utf8ByteSize ≤ labelLimit) ∧
    (cutLabel value = value ↔ value.utf8ByteSize ≤ labelLimit) ∧
    cutLabel (cutLabel value) = cutLabel value :=
  ⟨isValid_cutPlace value, isGreatest_utf8ByteSize_cutLabel value, toByteArray_cutLabel value,
    exists_cutLabel_eq_append_iff value, cutLabel_eq_self_iff, cutLabel_cutLabel value⟩

/-- A character that would pass the limit is left out as a whole. -/
example : cutLabel (String.ofList (List.replicate 22 '漢')) = String.ofList (List.replicate 21 '漢') := by
  decide +kernel

end ClickGrant
