import ClickGrant.Proofs.Double.Place

/-!
# Order of doubles

Comparing two doubles is comparing their places: `lt_iff`, `le_iff` and `beq_iff`. `At x a` says of a double that it
is finite and where it stands.
-/
set_option autoImplicit false

namespace ClickGrant.Decimal

open Float.Model (Format UnpackedFloat)
open Float.Model.UnpackedFloat

/-! ## Comparing -/

section Compare

variable {m n : Nat} {e f : Int}

/-- Of two mantissas in canonical form the one with the larger exponent is the larger number. -/
theorem scaled_lt_of_lt (first : Value.Canonical m e) (second : Value.Canonical n f) (h : e < f) :
    (m : Int) * 2 ^ (e - minExponent).toNat < n * 2 ^ (f - minExponent).toNat := by
  have leading : 2 ^ 52 ≤ n := by
    have := first.least
    exact second.leading.resolve_right (by omega)
  have digits := first.digits
  have further : (e - minExponent).toNat + 1 ≤ (f - minExponent).toNat := by
    have := first.least
    omega
  calc (m : Int) * 2 ^ (e - minExponent).toNat
      < 2 ^ 53 * 2 ^ (e - minExponent).toNat := Int.mul_lt_mul_of_pos_right (by omega) (Int.pow_pos (by decide))
    _ = 2 ^ 52 * 2 ^ ((e - minExponent).toNat + 1) := by ring
    _ ≤ 2 ^ 52 * 2 ^ (f - minExponent).toNat :=
        Int.mul_le_mul_of_nonneg_left (pow_le_pow_right₀ (by decide) further) (by decide)
    _ ≤ n * 2 ^ (f - minExponent).toNat :=
        Int.mul_le_mul_of_nonneg_right (by omega) (Int.le_of_lt (Int.pow_pos (by decide)))

/-- First the exponents are compared, then the mantissas. -/
theorem compare_scaled (first : Value.Canonical m e) (second : Value.Canonical n f) :
    compare ((m : Int) * 2 ^ (e - minExponent).toNat) (n * 2 ^ (f - minExponent).toNat) =
      (compare e f).then (compare m n) := by
  rcases lt_trichotomy e f with lower | same | higher
  · rw [compare_lt_iff_lt.mpr lower, compare_lt_iff_lt.mpr (scaled_lt_of_lt first second lower)]
    rfl
  · subst same
    have unit : (0 : Int) < 2 ^ (e - minExponent).toNat := Int.pow_pos (by decide)
    rw [compare_eq_iff_eq.mpr rfl, Ordering.eq_then]
    rcases lt_trichotomy m n with less | equal | more
    · rw [compare_lt_iff_lt.mpr less, compare_lt_iff_lt]
      exact Int.mul_lt_mul_of_pos_right (by omega) unit
    · rw [equal, compare_eq_iff_eq.mpr rfl, compare_eq_iff_eq.mpr rfl]
    · rw [compare_gt_iff_gt.mpr more, compare_gt_iff_gt]
      exact Int.mul_lt_mul_of_pos_right (by omega) unit
  · rw [compare_gt_iff_gt.mpr higher, compare_gt_iff_gt.mpr (scaled_lt_of_lt second first higher)]
    rfl

end Compare

theorem some_lt_compare {a b : Int} (h : a < b) : some Ordering.lt = some (compare a b) := by
  rw [compare_lt_iff_lt.mpr h]

theorem some_gt_compare {a b : Int} (h : b < a) : some Ordering.gt = some (compare a b) := by
  rw [compare_gt_iff_gt.mpr h]

theorem some_eq_compare (a : Int) : some Ordering.eq = some (compare a a) := by
  rw [compare_eq_iff_eq.mpr rfl]

theorem compare_neg (a b : Int) : compare (-a) (-b) = (compare a b).swap := by
  rcases lt_trichotomy a b with less | equal | more
  · rw [compare_lt_iff_lt.mpr less, compare_gt_iff_gt.mpr (by omega)]
    rfl
  · rw [equal, compare_eq_iff_eq.mpr rfl, compare_eq_iff_eq.mpr rfl]
    rfl
  · rw [compare_gt_iff_gt.mpr more, compare_lt_iff_lt.mpr (by omega)]
    rfl

/-- Comparing two doubles is comparing their places. -/
theorem compare_eq {u v : UnpackedFloat} (hu : Packed u) (hv : Packed v) :
    u.compare v = (placeOf u).bind fun a => (placeOf v).map (compare a) := by
  have far := Value.horizon_pos
  have behind : -Value.horizon < 0 := by omega
  cases u with
  | notANumber => rfl
  | infinity s =>
    cases v with
    | notANumber => cases s <;> rfl
    | infinity t =>
      cases s <;> cases t
      · exact some_eq_compare _
      · exact some_lt_compare (by show -Value.horizon < Value.horizon; omega)
      · exact some_gt_compare (by show -Value.horizon < Value.horizon; omega)
      · exact some_eq_compare _
    | zero t =>
      rw [placeOf_zero]
      cases s
      · exact some_lt_compare behind
      · exact some_gt_compare far
    | finite t n f pos =>
      have bounds := Value.signed_lt (isNegative t) (Int.le_of_lt (scaled_pos pos _)) (scaled_lt hv)
      cases s
      · exact some_lt_compare bounds.1
      · exact some_gt_compare bounds.2
  | zero s =>
    rw [placeOf_zero]
    cases v with
    | notANumber => rfl
    | infinity t =>
      cases t
      · exact some_gt_compare behind
      · exact some_lt_compare far
    | zero t =>
      rw [placeOf_zero]
      exact some_eq_compare _
    | finite t n f pos =>
      have lower := scaled_pos pos (f - minExponent).toNat
      cases t
      · exact some_gt_compare (Int.neg_neg_of_pos lower)
      · exact some_lt_compare lower
  | finite s m e pos =>
    have lower := scaled_pos pos (e - minExponent).toNat
    cases v with
    | notANumber => cases s <;> rfl
    | infinity t =>
      have bounds := Value.signed_lt (isNegative s) (Int.le_of_lt lower) (scaled_lt hu)
      cases t
      · have compared : (finite s m e pos).compare (.infinity .negative) = some .gt := by cases s <;> rfl
        exact compared.trans (some_gt_compare bounds.1)
      · have compared : (finite s m e pos).compare (.infinity .positive) = some .lt := by cases s <;> rfl
        exact compared.trans (some_lt_compare bounds.2)
    | zero t =>
      rw [placeOf_zero]
      cases s
      · exact some_lt_compare (Int.neg_neg_of_pos lower)
      · exact some_gt_compare lower
    | finite t n f positive =>
      have lower' := scaled_pos positive (f - minExponent).toNat
      have scaled := compare_scaled hu.1 hv.1
      cases s <;> cases t
      · show some ((compare e f).then (compare m n)).swap = some (compare (-_) (-_))
        rw [compare_neg, scaled]
      · exact some_lt_compare (Int.lt_trans (Int.neg_neg_of_pos lower) lower')
      · exact some_gt_compare (Int.lt_trans (Int.neg_neg_of_pos lower') lower)
      · show some ((compare e f).then (compare m n)) = some (compare _ _)
        rw [← scaled]
        rfl

/-! ## Doubles -/

/-- Where a double stands. -/
def place (x : Float) : Option Int := (Value.ofFloat x).place

theorem place_eq (x : Float) : place x = placeOf x.toModel.unpack := by
  show (Value.ofBits x.toModel.toBits.toBitVec.toNat).place = placeOf (unpack Format.binary64 x.toModel.toBits.toBitVec)
  rw [placeOf, Value.ofUnpacked_unpack]

theorem place_ofModel {u : UnpackedFloat} (h : InForm u) :
    place (Float.ofModel (Float.Model.pack u)) = (placeOf u).map clip := place_pack h

theorem packed (x : Float) : Packed x.toModel.unpack := packed_unpack _

variable {x y : Float}

theorem compare_places (x y : Float) :
    x.toModel.unpack.compare y.toModel.unpack = (place x).bind fun a => (place y).map (compare a) := by
  rw [place_eq, place_eq]
  exact compare_eq (packed x) (packed y)

theorem lt_iff : x < y ↔ ∃ a b, place x = some a ∧ place y = some b ∧ a < b := by
  have unfolded : x < y ↔ (x.toModel.unpack.compare y.toModel.unpack == some .lt) = true := by
    show decide _ = true ↔ _
    exact decide_eq_true_iff
  rw [unfolded, compare_places, beq_iff_eq]
  cases place x <;> cases place y <;> simp [compare_lt_iff_lt]

theorem le_iff : x ≤ y ↔ ∃ a b, place x = some a ∧ place y = some b ∧ a ≤ b := by
  have unfolded : x ≤ y ↔ (x.toModel.unpack.compare y.toModel.unpack).any (·.isLE) = true := by
    show decide _ = true ↔ _
    exact decide_eq_true_iff
  rw [unfolded, compare_places]
  cases place x <;> cases place y <;> simp [Int.isLE_compare]

variable {a b : Int}

theorem lt_iff_places (hx : place x = some a) (hy : place y = some b) : x < y ↔ a < b := by
  rw [lt_iff, hx, hy]
  simp

theorem le_iff_places (hx : place x = some a) (hy : place y = some b) : x ≤ y ↔ a ≤ b := by
  rw [le_iff, hx, hy]
  simp

theorem beq_iff : (x == y) = true ↔ ∃ a, place x = some a ∧ place y = some a := by
  have unfolded : (x == y) = (x.toModel.unpack.compare y.toModel.unpack == some .eq) := rfl
  rw [unfolded, compare_places, beq_iff_eq]
  cases place x <;> cases place y <;> simp
  exact eq_comm

theorem beq_iff_places (hx : place x = some a) (hy : place y = some b) : (x == y) = true ↔ a = b := by
  rw [beq_iff, hx, hy]
  simp [eq_comm]

theorem beq_comm (x y : Float) : (x == y) = (y == x) := by
  rw [Bool.eq_iff_iff, beq_iff, beq_iff]
  simp only [and_comm]

theorem isNaN_iff : x.isNaN = true ↔ place x = none := by
  rw [place_eq]
  show x.toModel.unpack.isNaN = true ↔ _
  cases x.toModel.unpack with
  | notANumber => exact ⟨fun _ => rfl, fun _ => rfl⟩
  | _ => constructor <;> intro absurd <;> cases absurd

/-- A double that is neither an infinity nor a NaN, and where it stands. -/
structure At (x : Float) (a : Int) : Prop where
  place : place x = some a
  lower : -Value.horizon < a
  upper : a < Value.horizon

theorem place_zero : place 0 = some 0 := by decide +kernel

theorem at_zero : At 0 0 := ⟨place_zero, Int.neg_neg_of_pos Value.horizon_pos, Value.horizon_pos⟩

theorem placeOf_bounds {u : UnpackedFloat} {a : Int} (h : Packed u) (hu : placeOf u = some a) :
    u.isFinite = true ↔ -Value.horizon < a ∧ a < Value.horizon := by
  have far := Value.horizon_pos
  cases u with
  | notANumber => cases hu
  | infinity s =>
    cases hu
    constructor
    · intro finite
      cases finite
    · rintro ⟨lower, upper⟩
      cases s
      · exact absurd lower (Int.lt_irrefl _)
      · exact absurd upper (Int.lt_irrefl _)
  | zero s =>
    rw [placeOf_zero] at hu
    cases hu
    exact ⟨fun _ => by omega, fun _ => rfl⟩
  | finite s m e pos =>
    cases hu
    exact ⟨fun _ => Value.signed_lt _ (Int.le_of_lt (scaled_pos pos _)) (scaled_lt h), fun _ => rfl⟩

theorem isFinite_iff : x.isFinite = true ↔ ∃ a, At x a := by
  have bounds : ∀ {a}, place x = some a → (x.isFinite = true ↔ -Value.horizon < a ∧ a < Value.horizon) := by
    intro a here
    exact placeOf_bounds (packed x) (by rw [← place_eq, here])
  constructor
  · intro finite
    cases here : place x with
    | none =>
      have nan : x.toModel.unpack.isNaN = true := isNaN_iff.mpr here
      change x.toModel.unpack.isFinite = true at finite
      cases h : x.toModel.unpack with
      | notANumber => rw [h] at finite; cases finite
      | _ => rw [h] at nan; cases nan
    | some a =>
      obtain ⟨lower, upper⟩ := (bounds here).mp finite
      exact ⟨a, here, lower, upper⟩
  · rintro ⟨a, here, lower, upper⟩
    exact (bounds here).mpr ⟨lower, upper⟩

/-- What is not larger is smaller unless it is equal. -/
theorem lt_iff_of_not_lt (finite : x.isFinite = true) (finite' : y.isFinite = true) (le : ¬y < x) :
    x < y ↔ (x == y) = false := by
  obtain ⟨a, atX⟩ := isFinite_iff.mp finite
  obtain ⟨b, atY⟩ := isFinite_iff.mp finite'
  rw [lt_iff_places atY.place atX.place] at le
  rw [lt_iff_places atX.place atY.place, ← Bool.not_eq_true, beq_iff_places atX.place atY.place]
  omega

theorem Value.abs_signed (negative : Bool) {n : Int} (h : 0 ≤ n) : |Value.signed negative n| = n := by
  cases negative
  · exact abs_of_nonneg h
  · exact (abs_neg n).trans (abs_of_nonneg h)

theorem placeOf_abs (u : UnpackedFloat) : placeOf u.abs = (placeOf u).map fun a => |a| := by
  cases u with
  | notANumber => rfl
  | infinity s => exact (congrArg some (Value.abs_signed _ (Int.le_of_lt Value.horizon_pos))).symm
  | zero s => exact (congrArg some (Value.abs_signed (isNegative s) (Int.le_refl 0))).symm
  | finite s m e pos =>
    exact (congrArg some (Value.abs_signed (isNegative s) (Int.le_of_lt (scaled_pos pos _)))).symm

theorem place_abs (x : Float) : place x.abs = (place x).map fun a => |a| := by
  have same : ∀ u : UnpackedFloat, Packed u → Packed u.abs := by
    intro u h
    cases u with
    | finite s m e pos => exact h
    | _ => trivial
  have absolute := same _ (packed x)
  calc place x.abs = (placeOf x.toModel.unpack.abs).map clip := place_ofModel absolute.inForm
    _ = placeOf x.toModel.unpack.abs := clip_placeOf absolute
    _ = (place x).map fun a => |a| := by rw [placeOf_abs, place_eq]

end ClickGrant.Decimal
