import ClickGrant.Color
import ClickGrant.Proofs.Geometry.Angle

/-!
# Comparing colours

Every colour has a point in the cone, however close to grey or black it is: no coordinate is infinite or a
NaN, since a divisor exceeds the gap between 1 and the next double (`Hsv.finite_project`). What is proved:
  1. `similar_self_iff` — a colour is similar to itself exactly if the threshold is positive.
  2. `backgroundDominates_iff_of_opaque` — of two opaque colours the background dominates exactly if the
     ratio is below 1.
-/
set_option autoImplicit false

namespace ClickGrant

open Decimal

/-! ## Divisors -/

section Divisors

variable {x y : Float} {k l : Nat}

theorem within_larger (hx : Within k x) (hy : Within k y) : Within k (larger x y) := by
  unfold larger
  split
  · exact hy
  · split
    · exact hx
    · exact hy

theorem within_smaller (hx : Within k x) (hy : Within k y) : Within k (smaller x y) := by
  unfold smaller
  split
  · exact hy
  · split
    · exact hx
    · exact hy

theorem place_machineEpsilon : place machineEpsilon = some (2 ^ 1022) := by decide +kernel

/-- A divisor that is not too close to zero. -/
theorem within_div_of_not_le (hx : Within k x) (hy : Within l y) (large : ¬y ≤ machineEpsilon)
    (small : k + 52 ≤ 971) : Within (k + 52) (x / y) := by
  obtain ⟨b, atY, _⟩ := hy
  have above : ¬b ≤ 2 ^ 1022 := mt (le_iff_places atY.place place_machineEpsilon).mpr large
  have one : (unit : Int) = 2 ^ 52 * 2 ^ 1022 := by
    rw [unit_eq_two_pow, Nat.cast_pow, Nat.cast_ofNat, ← pow_add]
  refine hx.div atY ?_ small
  rw [one]
  exact Int.mul_le_mul_of_nonneg_left (Int.le_of_lt (Int.not_le.mp above)) (by decide)

end Divisors

/-- No channel exceeds its largest value. -/
theorem Color.within_fraction (channel : UInt8) : Within 0 (fraction channel) := by
  have byte : channel.toNat < 256 := channel.toNat_lt
  have most : At 255 ((255 : Nat) * unit) := at_toFloat (n := 255) (by decide)
  have pos : 0 < unit := unit_pos
  obtain ⟨p, here, rounds⟩ := place_div (at_toFloat (Nat.lt_trans byte (by decide))) most (by omega)
  refine within_of_rounds (by decide) here rounds ?_
  have divisor : ((255 : Nat) * unit : Int).toNat = 255 * unit := by omega
  rw [divisor]
  calc (channel.toNat * unit * unit : Int).natAbs = channel.toNat * (unit * unit) := by
        rw [Int.natAbs_mul, Int.natAbs_mul, Int.natAbs_natCast, Int.natAbs_natCast, Nat.mul_assoc]
    _ ≤ 255 * (unit * unit) := Nat.mul_le_mul_right _ (by omega)
    _ = 2 ^ 0 * unit * (255 * unit) := by ring

/-! ## Points of the cone -/

namespace Hsv

variable (c : Color)

theorem within_value : Within 0 (ofColor c).value :=
  within_larger (within_larger (Color.within_fraction _) (Color.within_fraction _)) (Color.within_fraction _)

theorem within_saturation : Within 53 (ofColor c).saturation := by
  have red := Color.within_fraction c.red
  have green := Color.within_fraction c.green
  have blue := Color.within_fraction c.blue
  have top := within_larger (within_larger red green) blue
  have delta := top.sub (within_smaller (within_smaller red green) blue) (by decide)
  unfold ofColor
  dsimp only
  split
  · exact within_toFloat (n := 0) (by decide) (by decide)
  next large => exact within_div_of_not_le delta top large (by decide)

theorem within_wrapSixth {x : Float} (h : Within 53 x) : Within 54 (wrapSixth x) := by
  have six : Within 53 6 := within_toFloat (n := 6) (by decide) (by decide)
  unfold wrapSixth
  split
  · exact h.add six (by decide)
  · exact h.mono (by decide)

theorem within_hue : Within 60 (ofColor c).hue := by
  have red := Color.within_fraction c.red
  have green := Color.within_fraction c.green
  have blue := Color.within_fraction c.blue
  have top := within_larger (within_larger red green) blue
  have delta := top.sub (within_smaller (within_smaller red green) blue) (by decide)
  have sixty : Within 6 60 := within_toFloat (n := 60) (by decide) (by decide)
  have two : Within 53 2 := within_toFloat (n := 2) (by decide) (by decide)
  have four : Within 53 4 := within_toFloat (n := 4) (by decide) (by decide)
  unfold ofColor
  dsimp only
  split
  · exact within_toFloat (n := 0) (by decide) (by decide)
  next large =>
    have sector : ∀ {x y : Float}, Within 0 x → Within 0 y → Within 53 ((x - y) / _) := fun hx hy =>
      within_div_of_not_le (hx.sub hy (by decide)) delta large (by decide)
    have turn : ∀ {x : Float}, Within 54 x → Within (6 + 54) (60 * x) := fun h => sixty.mul h (by decide)
    split
    · exact turn (within_wrapSixth (sector green blue))
    split
    · exact turn ((sector blue red).add two (by decide))
    · exact turn ((sector red green).add four (by decide))

/-- All coordinates are finite. -/
theorem finite_project :
    (∃ a, At (ofColor c).project.1 a) ∧ (∃ a, At (ofColor c).project.2.1 a) ∧ ∃ a, At (ofColor c).project.2.2 a := by
  have finite : ∀ {k : Nat} {x : Float}, Within k x → ∃ a, At x a := fun ⟨a, here, _⟩ => ⟨a, here⟩
  have scale : Within 7 coneRadius := within_toFloat (n := 100) (by decide) (by decide)
  have ratio : Within 2 pi := within_of_place (by decide) (by decide +kernel)
  have one : Within 0 1 := within_toFloat (n := 1) (by decide) (by decide)
  have halfTurn : At 180 ((180 : Nat) * unit) := at_toFloat (n := 180) (by decide)
  have radians : ∀ {k : Nat} {x : Float}, k ≤ 60 → Within k x → ∃ a, At (x / 180 * pi) a := fun few h =>
    finite ((h.div (l := 0) halfTurn (by omega) (by omega)).mul ratio (by omega))
  obtain ⟨_, angle⟩ := radians (x := coneAngle) (k := 5) (by decide) (within_toFloat (n := 30) (by decide) (by decide))
  obtain ⟨_, hue⟩ := radians (by decide) (within_hue c)
  have radius := ((scale.mul (within_sine angle) (by decide)).mul (within_value c) (by decide)).mul
    (within_saturation c) (by decide)
  have height := scale.mul (within_cosine angle) (by decide)
  exact ⟨finite (radius.mul (within_cosine hue) (by decide)), finite (radius.mul (within_sine hue) (by decide)),
    finite (height.mul (one.sub (within_value c) (by decide)) (by decide))⟩

end Hsv

/-! ## A colour on itself -/

namespace Color

theorem place_distance_self (c : Color) : place (distance c c) = some 0 := by
  obtain ⟨⟨_, x⟩, ⟨_, y⟩, ⟨_, z⟩⟩ := Hsv.finite_project c
  have dx := place_sub_self x
  have dy := place_sub_self y
  have dz := place_sub_self z
  exact place_sqrt_zero (place_add_zero (place_add_zero (place_mul_zero dx dx) (place_mul_zero dy dy))
    (place_mul_zero dz dz))

theorem similar_self_iff (c : Color) (threshold : Float) : similar c c threshold = true ↔ 0 < threshold := by
  have same := place_distance_self c
  unfold similar
  rw [decide_eq_true_eq, lt_iff, lt_iff, same, place_zero]

variable {foreground background : Color}

/-- An opaque background is all of the pixel. -/
theorem backgroundDominates_iff_of_opaque (front : foreground.alpha = 0xFF) (behind : background.alpha = 0xFF)
    (ratio : Float) : backgroundDominates foreground background ratio = true ↔ ratio < 1 := by
  have mixed : ¬fraction 0xFF + fraction 0xFF - fraction 0xFF * fraction 0xFF ≤ machineEpsilon := by decide +kernel
  have all : fraction 0xFF / (fraction 0xFF + fraction 0xFF - fraction 0xFF * fraction 0xFF) = 1 := by rfl
  unfold backgroundDominates alphaFraction
  dsimp only
  rw [front, behind, if_neg mixed, all, decide_eq_true_eq]

/-- A text in the colour of its background, both opaque. -/
theorem contrastInsufficient_self_iff (solid : foreground.alpha = 0xFF) (threshold ratio : Float) :
    contrastInsufficient foreground foreground threshold ratio = true ↔ 0 < threshold ∧ ratio < 1 := by
  unfold contrastInsufficient
  rw [Bool.and_eq_true, similar_self_iff, backgroundDominates_iff_of_opaque solid solid]

end Color

end ClickGrant
