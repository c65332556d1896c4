import ClickGrant.Proofs.Double.Nearest

/-!
# Bounded doubles

Whether a computation stays finite is decided by bounds that are powers of 2: `Within k x` says that `x` is
a finite double between `-2 ^ k` and `2 ^ k`. Such a bound is a double itself, so rounding does not pass it,
and each operation has its rule: `Within.add`, `Within.sub`, `Within.mul`, `Within.div`. A whole number is
bounded by `within_toFloat`, another constant by `within_of_place`. What is finite differs from itself by
exactly zero (`place_sub_self`), and zeros stay zero.
-/
set_option autoImplicit false

namespace ClickGrant.Decimal

/-- A finite double between `-2 ^ k` and `2 ^ k`. -/
def Within (k : Nat) (x : Float) : Prop := ∃ a, At x a ∧ a.natAbs ≤ 2 ^ k * unit

section Bounds

variable {x y : Float} {k l : Nat} {a p : Int}

theorem representable_bound (small : k ≤ 971) : Representable (2 ^ k * unit) := by
  refine ⟨1, k + 1074, by decide, by omega, ?_⟩
  rw [Nat.one_mul, Nat.pow_add, unit_eq_two_pow]

theorem at_of_le (small : k ≤ 971) (here : place x = some a) (le : a.natAbs ≤ 2 ^ k * unit) : At x a := by
  have := Rounds.representable_lt (representable_bound small)
  exact ⟨here, by omega, by omega⟩

/-- A constant, by its place. -/
theorem within_of_place (small : k ≤ 971) (here : (place x).any (fun a => a.natAbs ≤ 2 ^ k * unit) = true) :
    Within k x := by
  cases h : place x with
  | none =>
    rw [h] at here
    cases here
  | some a =>
    rw [h] at here
    have le : a.natAbs ≤ 2 ^ k * unit := of_decide_eq_true here
    exact ⟨a, at_of_le small h le, le⟩

/-- A whole number. -/
theorem within_toFloat {n : Nat} (small : n < 2 ^ 53) (le : n ≤ 2 ^ k) : Within k n.toFloat := by
  refine ⟨n * unit, at_toFloat small, ?_⟩
  rw [← Int.natCast_mul, Int.natAbs_natCast]
  exact Nat.mul_le_mul_right _ le

/-- A rounded number, by the exact one. -/
theorem within_of_rounds {num : Int} {den : Nat} (small : k ≤ 971) (here : place x = some p)
    (rounds : Rounds num den p) (le : num.natAbs ≤ 2 ^ k * unit * den) : Within k x := by
  have bound := rounds.natAbs_le (representable_bound small) le
  exact ⟨p, at_of_le small here bound, bound⟩

namespace Within

theorem mono (h : Within k x) (le : k ≤ l) : Within l x := by
  obtain ⟨a, here, bound⟩ := h
  exact ⟨a, here, Nat.le_trans bound (Nat.mul_le_mul_right _ (Nat.pow_le_pow_right (by decide) le))⟩

theorem neg (h : Within k x) : Within k (-x) := by
  obtain ⟨a, here, bound⟩ := h
  exact ⟨-a, here.neg, by rwa [Int.natAbs_neg]⟩

theorem add (hx : Within k x) (hy : Within k y) (small : k < 971) : Within (k + 1) (x + y) := by
  obtain ⟨a, atX, boundX⟩ := hx
  obtain ⟨b, atY, boundY⟩ := hy
  obtain ⟨p, here, rounds⟩ := place_add atX atY
  refine within_of_rounds small here rounds ?_
  rw [Nat.mul_one, Nat.pow_succ, Nat.mul_right_comm]
  omega

theorem sub (hx : Within k x) (hy : Within k y) (small : k < 971) : Within (k + 1) (x - y) := by
  obtain ⟨a, atX, boundX⟩ := hx
  obtain ⟨b, atY, boundY⟩ := hy
  obtain ⟨p, here, rounds⟩ := place_sub atX atY
  refine within_of_rounds small here rounds ?_
  rw [Nat.mul_one, Nat.pow_succ, Nat.mul_right_comm]
  omega

theorem mul (hx : Within k x) (hy : Within l y) (small : k + l ≤ 971) : Within (k + l) (x * y) := by
  obtain ⟨a, atX, boundX⟩ := hx
  obtain ⟨b, atY, boundY⟩ := hy
  obtain ⟨p, here, rounds⟩ := place_mul atX atY
  refine within_of_rounds small here rounds ?_
  calc (a * b).natAbs = a.natAbs * b.natAbs := Int.natAbs_mul a b
    _ ≤ 2 ^ k * unit * (2 ^ l * unit) := Nat.mul_le_mul boundX boundY
    _ = 2 ^ (k + l) * unit * unit := by ring

/-- The divisor is at least `2 ^ (-l)`. -/
theorem div {b : Int} (hx : Within k x) (hy : At y b) (large : (unit : Int) ≤ 2 ^ l * b) (small : k + l ≤ 971) :
    Within (k + l) (x / y) := by
  obtain ⟨a, atX, bound⟩ := hx
  have one : 0 < unit := unit_pos
  have positive : 0 < b := by
    by_contra h
    have : 2 ^ l * b ≤ 0 := Int.mul_nonpos_of_nonneg_of_nonpos (by positivity) (by omega)
    omega
  obtain ⟨p, here, rounds⟩ := place_div atX hy positive
  have divisor : unit ≤ 2 ^ l * b.toNat := by
    have : (b.toNat : Int) = b := Int.toNat_of_nonneg (Int.le_of_lt positive)
    rw [← this] at large
    exact_mod_cast large
  refine within_of_rounds small here rounds ?_
  calc (a * unit).natAbs = a.natAbs * unit := by rw [Int.natAbs_mul, Int.natAbs_natCast]
    _ ≤ 2 ^ k * unit * (2 ^ l * b.toNat) := Nat.mul_le_mul bound divisor
    _ = 2 ^ (k + l) * unit * b.toNat := by ring

end Within

end Bounds

/-! ## Exactly zero -/

section Zero

variable {x y : Float} {a : Int}

theorem place_sub_self (h : At x a) : place (x - x) = some 0 := by
  obtain ⟨p, here, rounds⟩ := place_sub h h
  rw [here, rounds.exact (u := 0) representable_zero (by omega)]

theorem at_of_place_zero (h : place x = some 0) : At x 0 := ⟨h, at_zero.lower, at_zero.upper⟩

theorem place_add_zero (hx : place x = some 0) (hy : place y = some 0) : place (x + y) = some 0 := by
  obtain ⟨p, here, rounds⟩ := place_add (at_of_place_zero hx) (at_of_place_zero hy)
  rw [here, rounds.exact (u := 0) representable_zero (by omega)]

theorem place_mul_zero (hx : place x = some 0) (hy : place y = some 0) : place (x * y) = some 0 := by
  obtain ⟨p, here, rounds⟩ := place_mul (at_of_place_zero hx) (at_of_place_zero hy)
  rw [here, rounds.exact (u := 0) representable_zero (by omega)]

/-- There are two doubles at zero, which are each its own root. -/
theorem place_sqrt_zero (h : place x = some 0) : place x.sqrt = some 0 := by
  have zero : ∃ s, x.toModel.unpack = .zero s := by
    have far := Value.horizon_pos
    rw [place_eq] at h
    cases hx : x.toModel.unpack with
    | notANumber =>
      rw [hx] at h
      cases h
    | infinity s =>
      rw [hx] at h
      have same : Value.signed (isNegative s) Value.horizon = 0 := Option.some.inj h
      cases s <;> simp [Value.signed, isNegative] at same <;> omega
    | zero s => exact ⟨s, rfl⟩
    | finite s m e pos =>
      rw [hx] at h
      have same : Value.signed (isNegative s) (m * 2 ^ (e - minExponent).toNat) = 0 := Option.some.inj h
      have := scaled_pos pos (e - minExponent).toNat
      cases s <;> simp only [Value.signed, isNegative] at same <;> omega
  obtain ⟨s, zero⟩ := zero
  show place (Float.ofModel (Float.Model.pack (Float.Model.UnpackedFloat.sqrt _ x.toModel.unpack))) = _
  rw [zero]
  show place (Float.ofModel (Float.Model.pack (.zero s))) = _
  rw [place_ofModel (u := .zero s) trivial, placeOf_zero]
  have far := Value.horizon_pos
  exact congrArg some (clip_of_lt (by omega) (Int.le_of_lt far))

end Zero

end ClickGrant.Decimal
