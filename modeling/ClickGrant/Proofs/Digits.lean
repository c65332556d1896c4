import Mathlib.Data.List.TakeDrop
import ClickGrant.Decimal.Reading

/-!
# Decimal digits

A number is read off its digits (`ofDigits_digitsOf`), and no digit stands before them: the first
digit is a zero only where it is the number zero (`digitsOf_cases`). Readers take digits, and words of
other kinds, as the longest run of such characters; a written word is that run when no further such
character follows it (`span_append`).
-/
set_option autoImplicit false

namespace ClickGrant

/-- The longest run at the start is all of `xs` if what follows does not belong to it. -/
theorem span_append {α : Type} {p : α → Bool} {xs ys : List α} (every : ∀ x ∈ xs, p x = true)
    (stop : ∀ y, ys.head? = some y → p y = false) : (xs ++ ys).span p = (xs, ys) := by
  have outside : ys.takeWhile p = [] ∧ ys.dropWhile p = ys := by
    obtain _ | ⟨y, ys⟩ := ys
    · exact ⟨rfl, rfl⟩
    · simp [stop y rfl]
  rw [List.span_eq_takeWhile_dropWhile, List.takeWhile_append_of_pos every,
    List.dropWhile_append_of_pos every,
    outside.1, outside.2, List.append_nil]

namespace Decimal

theorem toNat_of_isDigit {c : Char} (h : isDigit c = true) : 48 ≤ c.toNat ∧ c.toNat ≤ 57 := by
  unfold isDigit at h
  rw [Bool.and_eq_true, decide_eq_true_eq, decide_eq_true_eq, Char.le_def, Char.le_def,
    UInt32.le_iff_toNat_le, UInt32.le_iff_toNat_le] at h
  exact h

theorem isDigit_of_mem_digitsOf {n : Nat} {c : Char} (h : c ∈ digitsOf n) : isDigit c = true := by
  have digit := Nat.isDigit_of_mem_toDigits (by decide) (by decide) h
  unfold Char.isDigit at digit
  unfold isDigit
  rw [Bool.and_eq_true, decide_eq_true_eq, decide_eq_true_eq] at digit
  rw [Bool.and_eq_true, decide_eq_true_eq, decide_eq_true_eq]
  exact digit

theorem ofDigits_digitsOf (n : Nat) : ofDigits (digitsOf n) = n := Nat.ofDigitChars_ten_toDigits

/-- The first digit is a zero only where it is the number zero. -/
theorem digitsOf_cases (n : Nat) :
    ∃ c rest, digitsOf n = c :: rest ∧ (c = '0' → n = 0 ∧ rest = []) := by
  induction n using Nat.strongRecOn with
  | ind n ih =>
    unfold digitsOf at ih ⊢
    rw [Nat.toDigits_eq_if (by decide)]
    split
    next below =>
      refine ⟨n.digitChar, [], rfl, fun zero => ⟨?_, rfl⟩⟩
      have digits : ∀ m < 10, Nat.digitChar m = '0' → m = 0 := by decide
      exact digits n below zero
    next above =>
      -- what is left without the last digit is not zero
      obtain ⟨c, rest, eq, first⟩ := ih (n / 10) (by omega)
      refine ⟨c, rest ++ [(n % 10).digitChar], by rw [eq]; rfl, fun zero => ?_⟩
      have none := (first zero).1
      omega

theorem digitsOf_ne_nil (n : Nat) : digitsOf n ≠ [] := by
  obtain ⟨c, rest, eq, -⟩ := digitsOf_cases n
  rw [eq]
  exact List.cons_ne_nil c rest

theorem toList_toString (n : Nat) : (toString n).toList = digitsOf n := by
  show (Nat.repr n).toList = _
  simp [digitsOf]

end Decimal

end ClickGrant
