import ClickGrant.Geometry.Angle
import ClickGrant.Proofs.Double.Bounded

/-!
# Bounds of sine and cosine

At every finite angle both are finite, and neither leaves the interval from -1 to 1: `within_sine` and
`within_cosine`. The sum is cut off there before it is rounded, and 1 is a double.
-/
set_option autoImplicit false

namespace ClickGrant

open Decimal

namespace Angle

theorem one_eq : one = unit := by decide +kernel

theorem within_ofSum (sum : Int) : Within 0 (ofSum sum) := by
  have size : Within 0 (nearest (min sum.natAbs one) minExponent) := by
    rcases Nat.eq_zero_or_pos (min sum.natAbs one) with zero | pos
    · rw [zero]
      exact ⟨0, at_zero, Nat.zero_le _⟩
    · obtain ⟨p, here, rounds⟩ := nearest_rounds (i := 0) (j := 0) pos (Int.sub_self minExponent)
      refine within_of_rounds (by decide) here rounds ?_
      rw [Int.natAbs_natCast, one_eq]
      omega
  unfold ofSum
  dsimp only
  split
  · exact size.neg
  · exact size

theorem within_series (degree : Nat) (first : Nat → Nat) (mantissa : Nat) (exponent : Int) :
    Within 0 (series degree first mantissa exponent) := by
  unfold series
  exact within_ofSum _

end Angle

variable {x : Float} {a : Int}

theorem ofFloat_of_at (h : At x a) : ∃ negative mantissa exponent,
    Value.ofFloat x = .finite negative mantissa exponent := by
  have here : (Value.ofFloat x).place = some a := h.place
  have lower := h.lower
  have upper := h.upper
  cases value : Value.ofFloat x with
  | nan =>
    rw [value] at here
    cases here
  | infinite negative =>
    rw [value] at here
    have far : Value.signed negative Value.horizon = a := Option.some.inj here
    cases negative <;> simp only [Value.signed, if_true, Bool.false_eq_true, if_false] at far <;> omega
  | finite negative mantissa exponent => exact ⟨negative, mantissa, exponent, rfl⟩

theorem within_sine (h : At x a) : Within 0 (sine x) := by
  obtain ⟨negative, mantissa, exponent, value⟩ := ofFloat_of_at h
  have size := Angle.within_series 1 id mantissa exponent
  unfold sine
  rw [value]
  dsimp only
  split
  · exact size.neg
  · exact size

theorem within_cosine (h : At x a) : Within 0 (cosine x) := by
  obtain ⟨negative, mantissa, exponent, value⟩ := ofFloat_of_at h
  unfold cosine
  rw [value]
  exact Angle.within_series _ _ mantissa exponent

end ClickGrant
