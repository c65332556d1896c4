import ClickGrant.Geometry.Length
import ClickGrant.Proofs.Double.Nearest

/-!
# Length of a vector

A vector is at least as long as it is wide and high, as doubles (`abs_le_hypot`): the whole root does not
miss a smaller square, and rounding does not go past a double.
-/
set_option autoImplicit false

namespace ClickGrant

open Decimal

/-! ## The root -/

theorem lt_sqrtFrom (n bits root : Nat) (h : n < (root + 2 ^ bits) * (root + 2 ^ bits)) :
    n < (sqrtFrom n bits root + 1) * (sqrtFrom n bits root + 1) := by
  induction bits generalizing root with
  | zero => exact h
  | succ bits ih =>
    unfold sqrtFrom
    dsimp only
    apply ih
    split
    next low =>
      have double : root + Nat.pow 2 bits + 2 ^ bits = root + 2 ^ (bits + 1) := by
        show root + 2 ^ bits + 2 ^ bits = _
        rw [Nat.pow_succ]
        omega
      rw [double]
      exact h
    next high => exact Nat.lt_of_not_le high

/-- No square up to `n` has a larger root. -/
theorem le_floorSqrt {k n : Nat} (h : k * k ≤ n) : k ≤ floorSqrt n := by
  have start : n < (0 + 2 ^ (Decimal.bitLength n / 2 + 1)) * (0 + 2 ^ (Decimal.bitLength n / 2 + 1)) := by
    rw [Nat.zero_add, ← Nat.pow_add]
    have digits : n < 2 ^ Decimal.bitLength n := by
      unfold Decimal.bitLength
      split
      next zero => rw [zero]; decide
      next pos => exact Nat.lt_log2_self
    exact Nat.lt_of_lt_of_le digits (Nat.pow_le_pow_right (by decide) (by omega))
  have root := lt_sqrtFrom n _ 0 start
  by_contra beyond
  have : (floorSqrt n + 1) * (floorSqrt n + 1) ≤ k * k := Nat.mul_le_mul (by omega) (by omega)
  unfold floorSqrt at this
  omega

/-- The root is not rounded below a double whose square is not beyond the radicand. -/
theorem le_nearestSqrt {n k i u : Nat} {e : Int} (units : e - minExponent = i) (square : k * k ≤ n)
    (rep : Representable u) (h : u = k * 2 ^ i) :
    ∃ p, place (nearestSqrt n e) = some p ∧ (u : Int) ≤ p := by
  unfold nearestSqrt
  dsimp only
  have root : k * 2 ^ 64 ≤ floorSqrt (n * Nat.pow 4 64) := by
    apply le_floorSqrt
    calc k * 2 ^ 64 * (k * 2 ^ 64) = k * k * 4 ^ 64 := by ring
      _ ≤ n * 4 ^ 64 := Nat.mul_le_mul_right _ square
  generalize floorSqrt (n * Nat.pow 4 64) = r at *
  generalize sticky : (if r * r = n * Nat.pow 4 64 then 0 else 1) = c
  rcases Nat.eq_zero_or_pos (2 * r + c) with zero | pos
  · have none : k = 0 := by omega
    refine ⟨0, ?_, by rw [h, none]; simp⟩
    rw [zero]
    exact place_zero
  -- one digit after the point says that the root is not whole: it only makes the result larger
  · obtain ⟨p, here, rounds⟩ := nearest_rounds (m := 2 * r + c) (e := e - (64 : Nat) - 1) (i := i) (j := 65) pos (by omega)
    refine ⟨p, here, rounds.below (by rwa [Int.natAbs_natCast]) ?_⟩
    have scaled : u * 2 ^ 65 ≤ (2 * r + c) * 2 ^ i :=
      calc u * 2 ^ 65 = 2 * (k * 2 ^ 64) * 2 ^ i := by rw [h]; ring
        _ ≤ (2 * r + c) * 2 ^ i := Nat.mul_le_mul_right _ (by omega)
    exact_mod_cast scaled

section Vector

variable {x y : Float} {a b : Int}

theorem place_infinite : place (Float.ofBits (UInt64.ofNat (2047 * Nat.pow 2 52))) = some Value.horizon :=
  place_ofNat (by decide : 2047 * Nat.pow 2 52 < 2 ^ 64)

theorem abs_le_horizon (h : place x = some a) : |a| ≤ Value.horizon := by
  rcases at_or_infinite h with finite | ⟨s, _, far⟩
  · have := finite.lower
    exact abs_le'.mpr ⟨Int.le_of_lt finite.upper, by omega⟩
  · rw [far, Value.abs_signed _ (Int.le_of_lt Value.horizon_pos)]

/-- A vector with an infinite component is infinitely long. -/
theorem hypot_infinite {negative : Bool}
    (h : Value.ofFloat x = .infinite negative ∨ Value.ofFloat y = .infinite negative) :
    place (hypot x y) = some Value.horizon := by
  unfold hypot
  rcases h with hx | hy
  · rw [hx]
    exact place_infinite
  · rw [hy]
    cases Value.ofFloat x <;> exact place_infinite

theorem infinite_of_horizon (h : place x = some Value.horizon) : Value.ofFloat x = .infinite false := by
  have same : Value.ofFloat x = Value.ofUnpacked x.toModel.unpack :=
    (Value.ofUnpacked_unpack x.toModel.toBits.toBitVec).symm
  rw [same, unpack_horizon h]
  rfl

theorem hypot_of_horizon (h : place x = some Value.horizon ∨ place y = some Value.horizon) :
    place (hypot x y) = some Value.horizon :=
  hypot_infinite (h.imp infinite_of_horizon infinite_of_horizon)

/-- A finite double, in multiples of a unit that it is a whole multiple of. -/
theorem representable_of_finite {negative : Bool} {m : Nat} {e low : Int}
    (h : Value.ofFloat x = .finite negative m e) (least : minExponent ≤ low) (coarse : low ≤ e)
    (hx : place x = some a) :
    Representable a.natAbs ∧ a.natAbs = m * Nat.pow 2 (e - low).toNat * 2 ^ (low - minExponent).toNat := by
  obtain ⟨canonical, largest⟩ := Value.canonical_of_ofBits h
  have magnitude : a.natAbs = m * 2 ^ (e - minExponent).toNat := by
    rw [place, h] at hx
    cases hx
    cases negative <;> simp [Value.signed, Int.natAbs_mul, Int.natAbs_pow]
  constructor
  · exact ⟨m, (e - minExponent).toNat, canonical.digits, by unfold minExponent at *; omega, magnitude⟩
  · show _ = m * 2 ^ (e - low).toNat * 2 ^ (low - minExponent).toNat
    rw [magnitude, Nat.mul_assoc, ← Nat.pow_add]
    congr 2
    omega

/-- A vector is at least as long as it is wide and high. -/
theorem abs_le_hypot (hx : place x = some a) (hy : place y = some b) :
    ∃ h, place (hypot x y) = some h ∧ |a| ≤ h ∧ |b| ≤ h := by
  cases vx : Value.ofFloat x with
  | nan =>
    rw [place, vx] at hx
    cases hx
  | infinite s => exact ⟨_, hypot_infinite (.inl vx), abs_le_horizon hx, abs_le_horizon hy⟩
  | finite s m e =>
    cases vy : Value.ofFloat y with
    | nan =>
      rw [place, vy] at hy
      cases hy
    | infinite t => exact ⟨_, hypot_infinite (.inr vy), abs_le_horizon hx, abs_le_horizon hy⟩
    | finite t n f =>
      have leastE := (Value.canonical_of_ofBits vx).1.least
      have leastF := (Value.canonical_of_ofBits vy).1.least
      have least : minExponent ≤ min e f := le_min leastE leastF
      obtain ⟨repX, widths⟩ := representable_of_finite vx least (min_le_left e f) hx
      obtain ⟨repY, heights⟩ := representable_of_finite vy least (min_le_right e f) hy
      have units : min e f - minExponent = ((min e f - minExponent).toNat : Nat) := by omega
      unfold hypot
      rw [vx, vy]
      dsimp only
      obtain ⟨p, here, wide⟩ := le_nearestSqrt units (Nat.le_add_right _ _) repX widths
      obtain ⟨q, there, high⟩ := le_nearestSqrt units (Nat.le_add_left _ _) repY heights
      have same : p = q := Option.some.inj (here.symm.trans there)
      subst same
      rw [Int.natCast_natAbs] at wide high
      exact ⟨p, here, wide, high⟩

end Vector

end ClickGrant
