import ClickGrant.Validity.Check
import ClickGrant.Proofs.Double.Grid

/-!
# The bounds check

What a component has passed when its bounds are accepted (`InBounds`): rectangles as drawn that have a
width and a height and no edge that is a NaN, the one of the component inside that of its window. Of
rectangles in 256ths one is inside another up to the tolerance exactly if it is without
(`contains_iff`).
-/
set_option autoImplicit false

namespace ClickGrant

open Decimal

/-! ## Smaller and larger -/

section Choice

variable {x y : Float} {a b : Int}

theorem not_isNaN (h : place x = some a) : x.isNaN = false := by
  cases nan : x.isNaN with
  | false => rfl
  | true =>
    rw [isNaN_iff.mp nan] at h
    cases h

theorem place_smaller (hx : place x = some a) (hy : place y = some b) : place (smaller x y) = some (min a b) := by
  have order : x < y ↔ a < b := lt_iff_places hx hy
  unfold smaller
  rw [not_isNaN hx, not_isNaN hy]
  by_cases less : a < b
  · rw [if_neg Bool.false_ne_true, decide_eq_true (order.mpr less), Bool.or_true, if_pos rfl, hx,
      Int.min_eq_left (Int.le_of_lt less)]
  · rw [if_neg Bool.false_ne_true, decide_eq_false (mt order.mp less), Bool.or_false, if_neg Bool.false_ne_true, hy,
      Int.min_eq_right (by omega)]

/-- A radius counts from zero up. -/
theorem place_larger_zero (radius : Float) :
    ∃ a, place (larger radius 0) = some a ∧ 0 ≤ a ∧ (¬0 < radius → a = 0) := by
  unfold larger
  have zero : (0 : Float).isNaN = false := not_isNaN place_zero
  cases here : place radius with
  | none =>
    rw [if_pos (isNaN_iff.mpr here)]
    exact ⟨0, place_zero, Int.le_refl 0, fun _ => rfl⟩
  | some a =>
    rw [not_isNaN here, zero, if_neg Bool.false_ne_true, Bool.false_or]
    have order : 0 < radius ↔ 0 < a := lt_iff_places place_zero here
    by_cases positive : 0 < radius
    · rw [decide_eq_true positive, if_pos rfl]
      exact ⟨a, here, Int.le_of_lt (order.mp positive), fun h => absurd positive h⟩
    · rw [decide_eq_false positive, if_neg Bool.false_ne_true]
      exact ⟨0, place_zero, Int.le_refl 0, fun _ => rfl⟩

end Choice

namespace ValidityPolicy

/-! ## What an accepted component has passed -/

section Accepted

variable {p : ValidityPolicy} {c : Component} {ctx : ValidityContext} {r w : Rect}

/-- The checks of the first group up to the one of the screen. -/
structure InBounds (p : ValidityPolicy) (c : Component) (ctx : ValidityContext) (r w : Rect) : Prop where
  declared : c.rect.isPositiveFinite = true
  screenWidth : ctx.screen.width.isFinite = true ∧ ¬ctx.screen.width ≤ 0
  screenHeight : ctx.screen.height.isFinite = true ∧ ¬ctx.screen.height ≤ 0
  scaled : p.scaledGeometry c ctx.windowScale = .ok (r, w)
  window : w.contains r p.epsilon = true
  screen : p.onScreen c r ctx.screen = .ok ()

theorem inBounds (accepted : p.checkBounds c ctx = .ok (r, w)) : InBounds p c ctx r w := by
  unfold checkBounds at accepted
  simp only [bind, Except.bind, pure, Except.pure, throw, throwThe, MonadExceptOf.throw] at accepted
  split at accepted
  · cases accepted
  next declared =>
  split at accepted
  · cases accepted
  split at accepted
  · cases accepted
  next screen =>
  split at accepted
  · cases accepted
  next drawn scaled =>
  split at accepted
  · cases accepted
  next window =>
  split at accepted
  · cases accepted
  next checked onto =>
  split at accepted
  · cases accepted
  cases accepted
  simp only [Bool.not_eq_true', Bool.not_eq_false, Bool.or_eq_true, decide_eq_true_eq, not_or, Bool.and_eq_true]
    at declared screen window
  exact ⟨declared, ⟨screen.1.1.1, screen.1.2⟩, ⟨screen.1.1.2, screen.2⟩, scaled, window, onto⟩

/-- The rectangle as drawn has a width and a height, though a scale may have made them infinite. -/
theorem InBounds.extent (h : InBounds p c ctx r w) :
    (∃ a, place r.width = some a ∧ 0 ≤ a) ∧ ∃ b, place r.height = some b ∧ 0 ≤ b := by
  have declared := h.declared
  unfold Rect.isPositiveFinite at declared
  simp only [Bool.and_eq_true, decide_eq_true_eq] at declared
  obtain ⟨⟨⟨⟨⟨⟨⟨_, _⟩, finite⟩, finite'⟩, _⟩, _⟩, wide⟩, high⟩ := declared
  obtain ⟨a, ha, pos⟩ := positive_at finite (not_le_of_lt wide)
  obtain ⟨b, hb, pos'⟩ := positive_at finite' (not_le_of_lt high)
  have scaled := h.scaled
  unfold scaledGeometry at scaled
  split at scaled
  · cases scaled
  next usable =>
  split at scaled
  · cases scaled
    exact ⟨⟨a, ha.place, Int.le_of_lt pos⟩, ⟨b, hb.place, Int.le_of_lt pos'⟩⟩
  · simp only [Bool.or_eq_true, Bool.not_eq_true', Bool.not_eq_false, decide_eq_true_eq, not_or] at usable
    obtain ⟨k, hk, positive⟩ := positive_at usable.1 usable.2
    cases scaled
    exact ⟨mul_nonneg_place ha hk pos positive, mul_nonneg_place hb hk pos' positive⟩

/-- No edge of the rectangle as drawn is a NaN: none would be inside the window. -/
theorem InBounds.edges (h : InBounds p c ctx r w) :
    (∃ a, place r.x = some a) ∧ (∃ a, place r.y = some a) ∧ (∃ a, place r.right = some a) ∧
      ∃ a, place r.bottom = some a := by
  have window := h.window
  unfold Rect.contains at window
  simp only [Bool.and_eq_true, decide_eq_true_eq] at window
  obtain ⟨⟨⟨left, top⟩, right⟩, bottom⟩ := window
  -- a comparison holds only between doubles that have a place
  obtain ⟨_, a, _, hx, _⟩ := le_iff.mp left
  obtain ⟨_, b, _, hy, _⟩ := le_iff.mp top
  obtain ⟨d, _, hr, _⟩ := le_iff.mp right
  obtain ⟨e, _, hb, _⟩ := le_iff.mp bottom
  exact ⟨⟨a, hx⟩, ⟨b, hy⟩, ⟨d, hr⟩, ⟨e, hb⟩⟩

end Accepted

/-! ## Rectangles on the grid -/

/-- The place of the tolerance. -/
def tolerance : Int := 4611686018427388 * 2 ^ 1012

theorem tolerance_nonneg : 0 ≤ tolerance := by decide +kernel

theorem tolerance_at : At standard.epsilon tolerance :=
  ⟨by decide +kernel, by decide +kernel, by decide +kernel⟩

/-- The tolerance does not reach as far as half a 256th. -/
theorem tolerance_le : tolerance ≤ 3 * eighth := by decide +kernel

/-- A rectangle in 256ths. -/
structure RectOnGrid (r : Rect) : Prop where
  x : OnGrid r.x
  y : OnGrid r.y
  width : OnGrid r.width
  height : OnGrid r.height

section Containment

variable {x y : Float} {n k : Int} {outer inner : Rect}

theorem ge_sub_iff (hx : At x (8 * n * eighth)) (hy : At y (8 * k * eighth)) (few : k.natAbs ≤ 2 ^ 48) :
    x ≥ y - standard.epsilon ↔ k ≤ n := by
  have unit := eighth_pos
  have positive := tolerance_nonneg
  have small := tolerance_le
  obtain ⟨p, here, rounds⟩ := place_sub hy tolerance_at
  have upper : p ≤ 8 * k * (eighth : Int) := rounds.above (representable_eighths (by omega)) (by omega)
  have lower : (8 * k - 3) * (eighth : Int) ≤ p := by
    apply rounds.below (representable_eighths (by omega))
    rw [Int.sub_mul]
    omega
  have order : x ≥ y - standard.epsilon ↔ p ≤ 8 * n * eighth := le_iff_places here hx.place
  rw [order]
  constructor
  · intro le
    have := Int.le_of_mul_le_mul_right (le_trans lower le) (by omega)
    omega
  · intro le
    exact le_trans upper (Int.mul_le_mul_of_nonneg_right (by omega) (by omega))

theorem le_add_iff (hx : At x (8 * n * eighth)) (hy : At y (8 * k * eighth)) (few : k.natAbs ≤ 2 ^ 48) :
    x ≤ y + standard.epsilon ↔ n ≤ k := by
  have unit := eighth_pos
  have positive := tolerance_nonneg
  have small := tolerance_le
  obtain ⟨p, here, rounds⟩ := place_add hy tolerance_at
  have lower : 8 * k * (eighth : Int) ≤ p := rounds.below (representable_eighths (by omega)) (by omega)
  have upper : p ≤ (8 * k + 3) * (eighth : Int) := by
    apply rounds.above (representable_eighths (by omega))
    rw [Int.add_mul]
    omega
  have order : x ≤ y + standard.epsilon ↔ 8 * n * eighth ≤ p := le_iff_places hx.place here
  rw [order]
  constructor
  · intro le
    have := Int.le_of_mul_le_mul_right (le_trans le upper) (by omega)
    omega
  · intro le
    exact le_trans (Int.mul_le_mul_of_nonneg_right (by omega) (by omega)) lower

/-- A rectangle whose left, top, right and bottom edges are at these numbers of 256ths. -/
structure Measures (r : Rect) (a b c d : Int) : Prop where
  left : At r.x (8 * a * eighth)
  top : At r.y (8 * b * eighth)
  right : At r.right (8 * c * eighth)
  bottom : At r.bottom (8 * d * eighth)
  few : a.natAbs ≤ 2 ^ 48 ∧ b.natAbs ≤ 2 ^ 48 ∧ c.natAbs ≤ 2 ^ 48 ∧ d.natAbs ≤ 2 ^ 48

theorem RectOnGrid.measures {r : Rect} (h : RectOnGrid r) :
    ∃ left top right bottom, Measures r left top right bottom := by
  obtain ⟨nx, fewX, hx⟩ := h.x.at_eighths
  obtain ⟨ny, fewY, hy⟩ := h.y.at_eighths
  obtain ⟨nw, fewW, hw⟩ := h.width.at_eighths
  obtain ⟨nh, fewH, hh⟩ := h.height.at_eighths
  have hright := add_eighths hx hw (by omega)
  have hbottom := add_eighths hy hh (by omega)
  rw [← Int.mul_add] at hright hbottom
  exact ⟨nx, ny, nx + nw, ny + nh, hx, hy, hright, hbottom, by omega⟩

/-- On the grid the tolerance makes no difference. -/
theorem contains_iff {a b c d a' b' c' d' : Int} (ho : Measures outer a b c d) (hi : Measures inner a' b' c' d') :
    outer.contains inner standard.epsilon = true ↔ a ≤ a' ∧ b ≤ b' ∧ c' ≤ c ∧ d' ≤ d := by
  obtain ⟨fewA, fewB, fewC, fewD⟩ := ho.few
  unfold Rect.contains
  simp only [Bool.and_eq_true, decide_eq_true_eq]
  rw [ge_sub_iff hi.left ho.left fewA, ge_sub_iff hi.top ho.top fewB, le_add_iff hi.right ho.right fewC,
    le_add_iff hi.bottom ho.bottom fewD]
  exact and_assoc.trans and_assoc

end Containment

/-- The screen as a rectangle. -/
def screenBounds (s : Screen) : Rect := ⟨0, 0, s.width, s.height⟩

theorem measures_screen {s : Screen} {k l : Int} (hW : At s.width (8 * k * eighth)) (hH : At s.height (8 * l * eighth))
    (fewK : k.natAbs ≤ 2 ^ 47) (fewL : l.natAbs ≤ 2 ^ 47) : Measures (screenBounds s) 0 0 k l := by
  have right := add_eighths zero_at hW (by omega)
  have bottom := add_eighths zero_at hH (by omega)
  rw [Int.zero_add] at right bottom
  exact ⟨zero_at, zero_at, right, bottom, by omega⟩

end ValidityPolicy

end ClickGrant
