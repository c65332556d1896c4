import ClickGrant.Proofs.Geometry.Length
import ClickGrant.Proofs.Validity.Bounds

/-!
# Round screens

On a round screen the bounds check looks at four points only, one for each corner of the rectangle: the
middle of its arc. Every one of them keeps within the reach of the inscribed circle on both axes
(`reached`). An edge that ends in a square corner is thereby on the screen, and a rectangle with such an
end on each side is (`contained`). An edge between two arcs has no point that is looked at, and may lie
off the screen (`juts_out_of_round_screen`).
-/
set_option autoImplicit false

namespace ClickGrant

open Decimal

namespace ValidityPolicy

/-! ## The corners -/

/-- How far a corner of this radius is pulled inward on each axis. -/
def inset (r : Rect) (radius : Float) : Float :=
  smaller (larger radius 0) (smaller r.width r.height / 2) * cornerInset

theorem roundedCorners_eq (r : Rect) (radii : CornerRadii) : roundedCorners r radii =
    [{ x := r.x + inset r radii.topLeft, y := r.y + inset r radii.topLeft },
     { x := r.right - inset r radii.topRight, y := r.y + inset r radii.topRight },
     { x := r.x + inset r radii.bottomLeft, y := r.bottom - inset r radii.bottomLeft },
     { x := r.right - inset r radii.bottomRight, y := r.bottom - inset r radii.bottomRight }] := rfl

theorem cornerInset_at : ∃ c, At cornerInset c ∧ 0 < c ∧ c ≤ unit :=
  ⟨2638147582215219 * 2 ^ 1021, ⟨by decide +kernel, by decide +kernel, by decide +kernel⟩, by decide +kernel,
    by decide +kernel⟩

/-- An inset is not negative, and infinite at most for an infinite rectangle. A square corner has none. -/
theorem place_inset {r : Rect} {w h : Int} (hw : place r.width = some w) (hh : place r.height = some h)
    (wide : 0 ≤ w) (high : 0 ≤ h) (radius : Float) :
    ∃ p, place (inset r radius) = some p ∧ 0 ≤ p ∧ (p < Value.horizon ∨ (w = Value.horizon ∧ h = Value.horizon)) ∧
      (¬0 < radius → p = 0) := by
  obtain ⟨l, counted, least, square⟩ := place_larger_zero radius
  obtain ⟨s, most, nonneg, small⟩ := half_nonneg (place_smaller hw hh) (le_min wide high)
  obtain ⟨c, hc, positive, below_one⟩ := cornerInset_at
  have far := Value.horizon_pos
  have chosen := place_smaller counted most
  -- the smaller of the two is infinite only if both are, and then both sides are
  rcases lt_or_ge (min l s) Value.horizon with upper | infinite
  · have finite : At (smaller (larger radius 0) (smaller r.width r.height / 2)) (min l s) := ⟨chosen, by omega, upper⟩
    obtain ⟨p, here, rounds⟩ := place_mul finite hc
    have lower : 0 ≤ p := rounds.nonneg (Int.mul_nonneg (by omega) (Int.le_of_lt positive))
    have shrunk : p ≤ min l s :=
      rounds.above finite.representable (Int.mul_le_mul_of_nonneg_left below_one (by omega))
    refine ⟨p, here, lower, .inl (by omega), ?_⟩
    intro h
    have := square h
    omega
  · have bound := le_trans (le_abs_self _) (abs_le_horizon chosen)
    rw [Int.le_antisymm bound infinite] at chosen
    refine ⟨Value.horizon, mul_horizon chosen hc positive, Int.le_of_lt far, .inr ?_, ?_⟩
    · have := abs_le_horizon hw
      have := abs_le_horizon hh
      have := le_abs_self w
      have := le_abs_self h
      omega
    · intro h
      have := square h
      omega

/-! ## What an accepted component has passed -/

section Accepted

variable {p : ValidityPolicy} {c : Component} {ctx : ValidityContext} {r w : Rect}

theorem InBounds.inside (h : InBounds p c ctx r w) (circular : ctx.screen.circular = true) {q : Point}
    (corner : q ∈ roundedCorners r (c.look.borderRadius.getD .zero)) :
    ¬hypot (q.x - ctx.screen.width / 2) (q.y - ctx.screen.height / 2) >
      smaller ctx.screen.width ctx.screen.height / 2 + p.epsilon := by
  have screen := h.screen
  unfold onScreen at screen
  rw [if_pos circular] at screen
  split at screen
  · cases screen
  next none =>
    intro outside
    apply none
    exact List.any_eq_true.mpr ⟨q, corner, decide_eq_true outside⟩

/-- The circle inscribed in the screen: where its centre and its reach are. -/
theorem InBounds.circle (h : InBounds p c ctx r w) (epsilon : p.epsilon = standard.epsilon) :
    (∃ a, At (ctx.screen.width / 2) a) ∧ (∃ b, At (ctx.screen.height / 2) b) ∧
      ∃ g, At (smaller ctx.screen.width ctx.screen.height / 2 + p.epsilon) g := by
  obtain ⟨a, ha, wide⟩ := positive_at h.screenWidth.1 h.screenWidth.2
  obtain ⟨b, hb, high⟩ := positive_at h.screenHeight.1 h.screenHeight.2
  obtain ⟨x, hx, _⟩ := half_at ha (Int.le_of_lt wide)
  obtain ⟨y, hy, _⟩ := half_at hb (Int.le_of_lt high)
  refine ⟨⟨x, hx⟩, ⟨y, hy⟩, ?_⟩
  have finite : At (smaller ctx.screen.width ctx.screen.height) (min a b) :=
    ⟨place_smaller ha.place hb.place, lt_min ha.lower hb.lower, min_lt_of_left_lt ha.upper⟩
  obtain ⟨s, hs, nonneg, near, _⟩ := half_at finite (by omega)
  obtain ⟨g, here, rounds⟩ := place_add hs tolerance_at
  -- the largest double is far from its half, so the tolerance is not enough to get there
  have slack : (halfway : Int) + tolerance ≤ ((2 ^ 53 - 1) * 2 ^ 2045 : Nat) := by decide +kernel
  have last : (((2 ^ 53 - 1) * 2 ^ 2045 : Nat) : Int) < Value.horizon := by decide +kernel
  have positive := tolerance_nonneg
  have upper : g ≤ ((2 ^ 53 - 1) * 2 ^ 2045 : Nat) :=
    rounds.above ⟨2 ^ 53 - 1, 2045, by decide, by decide, rfl⟩ (by omega)
  have lower : 0 ≤ g := rounds.nonneg (by omega)
  have far := Value.horizon_pos
  rw [epsilon]
  exact ⟨g, here, by omega, by omega⟩

/-- What lies infinitely far away on an axis is outside. -/
theorem outside_of_horizon {x y : Float} {g : Int} {G : Float} (hg : At G g)
    (h : place x = some Value.horizon ∨ place y = some Value.horizon) : hypot x y > G :=
  (lt_iff_places hg.place (hypot_of_horizon h)).mpr hg.upper

/-- A rectangle that is infinite both ways has a corner infinitely far away. -/
theorem InBounds.bounded (h : InBounds p c ctx r w) (circular : ctx.screen.circular = true)
    (epsilon : p.epsilon = standard.epsilon) {a b : Int} (wide : place r.width = some a)
    (high : place r.height = some b) : ¬(a = Value.horizon ∧ b = Value.horizon) := by
  rintro ⟨rfl, rfl⟩
  obtain ⟨⟨cx, center_x⟩, ⟨cy, center_y⟩, ⟨g, reach⟩⟩ := h.circle epsilon
  obtain ⟨_, _, ⟨right, hright⟩, ⟨bottom, hbottom⟩⟩ := h.edges
  have far := Value.horizon_pos
  have right_far : right = Value.horizon := place_add_horizon wide hright
  have bottom_far : bottom = Value.horizon := place_add_horizon high hbottom
  subst right_far bottom_far
  obtain ⟨i, pulled, nonneg, _⟩ := place_inset wide high (Int.le_of_lt far) (Int.le_of_lt far)
    (c.look.borderRadius.getD .zero).topRight
  apply h.inside circular (q := ⟨r.right - inset r (c.look.borderRadius.getD .zero).topRight,
    r.y + inset r (c.look.borderRadius.getD .zero).topRight⟩) (by rw [roundedCorners_eq]; simp)
  apply outside_of_horizon reach
  -- an infinite inset would bring the right side back, but it takes the top down
  rcases lt_or_ge i Value.horizon with finite | infinite
  · left
    obtain ⟨x, hx, same⟩ := place_sub_of_at hright ⟨pulled, by omega, finite⟩
    rw [same horizon_not_at] at hx
    obtain ⟨dx, hdx, same⟩ := place_sub_of_at hx center_x
    rw [hdx, same horizon_not_at]
  · right
    have reached : i = Value.horizon := Int.le_antisymm (le_trans (le_abs_self i) (abs_le_horizon pulled)) infinite
    subst reached
    have hy : place (r.y + inset r (c.look.borderRadius.getD .zero).topRight) = some Value.horizon := by
      rw [add_horizon pulled high]
      exact hbottom
    obtain ⟨dy, hdy, same⟩ := place_sub_of_at hy center_y
    rw [hdy, same horizon_not_at]

/-- Whether a point keeps within the reach of the circle on both axes. -/
def WithinReach (p : ValidityPolicy) (s : Screen) (q : Point) : Prop :=
  (q.x - s.width / 2).abs ≤ smaller s.width s.height / 2 + p.epsilon ∧
    (q.y - s.height / 2).abs ≤ smaller s.width s.height / 2 + p.epsilon

/-- Every corner that is looked at has a place. -/
theorem InBounds.corners (h : InBounds p c ctx r w) (circular : ctx.screen.circular = true)
    (epsilon : p.epsilon = standard.epsilon) {q : Point}
    (corner : q ∈ roundedCorners r (c.look.borderRadius.getD .zero)) :
    (∃ a, place q.x = some a) ∧ ∃ b, place q.y = some b := by
  obtain ⟨⟨a, wide, nonneg⟩, ⟨b, high, nonneg'⟩⟩ := h.extent
  obtain ⟨⟨left, hleft⟩, ⟨top, htop⟩, ⟨right, hright⟩, ⟨bottom, hbottom⟩⟩ := h.edges
  have bounded := h.bounded circular epsilon wide high
  have finite : ∀ radius, ∃ i, At (inset r radius) i := by
    intro radius
    obtain ⟨i, pulled, lower, upper, _⟩ := place_inset wide high nonneg nonneg' radius
    have far := Value.horizon_pos
    exact ⟨i, pulled, by omega, upper.resolve_right bounded⟩
  have inward : ∀ {x : Float} {a : Int} (radius : Float), place x = some a →
      (∃ b, place (x + inset r radius) = some b) ∧ ∃ b, place (x - inset r radius) = some b := by
    intro x a radius hx
    obtain ⟨i, hi⟩ := finite radius
    obtain ⟨sum, hsum, _⟩ := place_add_of_at hx hi
    obtain ⟨difference, hdifference, _⟩ := place_sub_of_at hx hi
    exact ⟨⟨sum, hsum⟩, ⟨difference, hdifference⟩⟩
  rw [roundedCorners_eq] at corner
  simp only [List.mem_cons, List.not_mem_nil, or_false] at corner
  rcases corner with rfl | rfl | rfl | rfl
  · exact ⟨(inward _ hleft).1, (inward _ htop).1⟩
  · exact ⟨(inward _ hright).2, (inward _ htop).1⟩
  · exact ⟨(inward _ hleft).1, (inward _ hbottom).2⟩
  · exact ⟨(inward _ hright).2, (inward _ hbottom).2⟩

theorem InBounds.reached (h : InBounds p c ctx r w) (circular : ctx.screen.circular = true)
    (epsilon : p.epsilon = standard.epsilon) {q : Point}
    (corner : q ∈ roundedCorners r (c.look.borderRadius.getD .zero)) : WithinReach p ctx.screen q := by
  obtain ⟨⟨cx, center_x⟩, ⟨cy, center_y⟩, ⟨g, reach⟩⟩ := h.circle epsilon
  obtain ⟨⟨a, hx⟩, ⟨b, hy⟩⟩ := h.corners circular epsilon corner
  obtain ⟨dx, hdx, _⟩ := place_sub_of_at hx center_x
  obtain ⟨dy, hdy, _⟩ := place_sub_of_at hy center_y
  obtain ⟨l, long, wide, high⟩ := abs_le_hypot hdx hdy
  have inside : l ≤ g := by
    by_contra beyond
    exact h.inside circular corner ((lt_iff_places reach.place long).mpr (by omega))
  constructor
  · exact (le_iff_places (by rw [place_abs, hdx]; rfl) reach.place).mpr (le_trans wide inside)
  · exact (le_iff_places (by rw [place_abs, hdy]; rfl) reach.place).mpr (le_trans high inside)

/-- Every side of the rectangle ends in a square corner, on one end at least. -/
structure SquareEnds (radii : CornerRadii) : Prop where
  left : ¬0 < radii.topLeft ∨ ¬0 < radii.bottomLeft
  top : ¬0 < radii.topLeft ∨ ¬0 < radii.topRight
  right : ¬0 < radii.topRight ∨ ¬0 < radii.bottomRight
  bottom : ¬0 < radii.bottomLeft ∨ ¬0 < radii.bottomRight

section Axis

variable {x side other reach : Float} {n k l : Int}

/-- The reach of the circle exceeds half the shorter side by less than half a 256th. -/
theorem reach_le (hs : At side (8 * k * eighth)) (ho : At other (8 * l * eighth)) (few : k.natAbs ≤ 2 ^ 47)
    (few' : l.natAbs ≤ 2 ^ 47) :
    ∃ g, place (smaller side other / 2 + standard.epsilon) = some g ∧
      g ≤ (4 * min k l + 3) * eighth := by
  have unit := eighth_pos
  have shorter : min (8 * k * (eighth : Int)) (8 * l * eighth) = 2 * (4 * min k l) * eighth := by
    rcases le_total k l with le | le
    · rw [Int.min_eq_left le, Int.min_eq_left (Int.mul_le_mul_of_nonneg_right (by omega) (by omega))]
      ring
    · rw [Int.min_eq_right le, Int.min_eq_right (Int.mul_le_mul_of_nonneg_right (by omega) (by omega))]
      ring
  have chosen := place_smaller hs.place ho.place
  have lower := hs.lower
  have lower' := ho.lower
  have upper := hs.upper
  have finite : At (smaller side other) (2 * (4 * min k l) * eighth) := by
    rw [← shorter]
    exact ⟨chosen, by omega, by omega⟩
  obtain ⟨g, here, rounds⟩ := place_add (half_eighths finite (by omega)) tolerance_at
  refine ⟨g, here, rounds.above (representable_eighths (by omega)) ?_⟩
  have := tolerance_le
  push_cast
  rw [Int.add_mul]
  omega

/-- An edge within reach on its axis is on the screen. -/
theorem on_axis (hx : At x (8 * n * eighth)) (hs : At side (8 * k * eighth)) (few : n.natAbs ≤ 2 ^ 48)
    (small : k.natAbs ≤ 2 ^ 47) {g : Int} (hg : place reach = some g) (bound : g ≤ (4 * k + 3) * eighth)
    (within : (x - side / 2).abs ≤ reach) : 0 ≤ n ∧ n ≤ k := by
  have center : At (side / 2) (4 * k * eighth) := by
    apply half_eighths _ (by omega)
    have same : 2 * (4 * k) * (eighth : Int) = 8 * k * eighth := by ring
    rw [same]
    exact hs
  have offset := sub_eighths hx center (by omega)
  have distance : place (x - side / 2).abs = some |(8 * n - 4 * k) * (eighth : Int)| := by
    rw [place_abs, offset.place]
    rfl
  have le := (le_iff_places distance hg).mp within
  have unit := eighth_pos
  have right : (8 * n - 4 * k) * (eighth : Int) ≤ (4 * k + 3) * eighth :=
    le_trans (le_trans (le_abs_self _) le) bound
  have left : -(8 * n - 4 * k) * (eighth : Int) ≤ (4 * k + 3) * eighth := by
    rw [Int.neg_mul]
    exact le_trans (le_trans (neg_le_abs _) le) bound
  have := Int.le_of_mul_le_mul_right right (by omega)
  have := Int.le_of_mul_le_mul_right left (by omega)
  omega

end Axis

/-- A square corner is not pulled inward. -/
theorem InBounds.square (h : InBounds p c ctx r w) {radius : Float} (square : ¬0 < radius) :
    At (inset r radius) (0 * eighth) := by
  obtain ⟨⟨a, wide, nonneg⟩, ⟨b, high, nonneg'⟩⟩ := h.extent
  obtain ⟨i, pulled, _, _, zero⟩ := place_inset wide high nonneg nonneg' radius
  rw [zero square] at pulled
  have far := Value.horizon_pos
  rw [Int.zero_mul]
  exact ⟨pulled, by omega, by omega⟩

theorem unmoved {x y : Float} {n : Int} (hx : At x (8 * n * eighth)) (hy : At y (0 * eighth))
    (few : n.natAbs ≤ 2 ^ 48) : At (x + y) (8 * n * eighth) ∧ At (x - y) (8 * n * eighth) := by
  have sum := add_eighths hx hy (by omega)
  have difference := sub_eighths hx hy (by omega)
  rw [Int.add_zero] at sum
  rw [Int.sub_zero] at difference
  exact ⟨sum, difference⟩

theorem InBounds.reached_corners (h : InBounds p c ctx r w) (circular : ctx.screen.circular = true)
    (epsilon : p.epsilon = standard.epsilon) :
    let radii := c.look.borderRadius.getD .zero
    WithinReach p ctx.screen ⟨r.x + inset r radii.topLeft, r.y + inset r radii.topLeft⟩ ∧
      WithinReach p ctx.screen ⟨r.right - inset r radii.topRight, r.y + inset r radii.topRight⟩ ∧
      WithinReach p ctx.screen ⟨r.x + inset r radii.bottomLeft, r.bottom - inset r radii.bottomLeft⟩ ∧
      WithinReach p ctx.screen ⟨r.right - inset r radii.bottomRight, r.bottom - inset r radii.bottomRight⟩ := by
  have reached := fun q corner => h.reached circular epsilon (q := q) corner
  rw [roundedCorners_eq] at reached
  exact ⟨reached _ (by simp), reached _ (by simp), reached _ (by simp), reached _ (by simp)⟩

theorem InBounds.contained_of_square (h : InBounds p c ctx r w) (circular : ctx.screen.circular = true)
    (epsilon : p.epsilon = standard.epsilon) (square : SquareEnds (c.look.borderRadius.getD .zero))
    {left top right bottom k l : Int} (hr : Measures r left top right bottom)
    (hW : At ctx.screen.width (8 * k * eighth)) (hH : At ctx.screen.height (8 * l * eighth))
    (fewK : k.natAbs ≤ 2 ^ 47) (fewL : l.natAbs ≤ 2 ^ 47) : 0 ≤ left ∧ 0 ≤ top ∧ right ≤ k ∧ bottom ≤ l := by
  obtain ⟨g, hg, bound⟩ := reach_le hW hH fewK fewL
  rw [← epsilon] at hg
  have unit := eighth_pos
  have boundK : g ≤ (4 * k + 3) * eighth := le_trans bound (Int.mul_le_mul_of_nonneg_right (by omega) (by omega))
  have boundL : g ≤ (4 * l + 3) * eighth := le_trans bound (Int.mul_le_mul_of_nonneg_right (by omega) (by omega))
  obtain ⟨topLeft, topRight, bottomLeft, bottomRight⟩ := h.reached_corners circular epsilon
  obtain ⟨fewX, fewY, fewR, fewB⟩ := hr.few
  have onLeft : 0 ≤ left ∧ left ≤ k := by
    rcases square.left with corner | corner
    · exact on_axis (unmoved hr.left (h.square corner) fewX).1 hW fewX fewK hg boundK topLeft.1
    · exact on_axis (unmoved hr.left (h.square corner) fewX).1 hW fewX fewK hg boundK bottomLeft.1
  have onTop : 0 ≤ top ∧ top ≤ l := by
    rcases square.top with corner | corner
    · exact on_axis (unmoved hr.top (h.square corner) fewY).1 hH fewY fewL hg boundL topLeft.2
    · exact on_axis (unmoved hr.top (h.square corner) fewY).1 hH fewY fewL hg boundL topRight.2
  have onRight : 0 ≤ right ∧ right ≤ k := by
    rcases square.right with corner | corner
    · exact on_axis (unmoved hr.right (h.square corner) fewR).2 hW fewR fewK hg boundK topRight.1
    · exact on_axis (unmoved hr.right (h.square corner) fewR).2 hW fewR fewK hg boundK bottomRight.1
  have onBottom : 0 ≤ bottom ∧ bottom ≤ l := by
    rcases square.bottom with corner | corner
    · exact on_axis (unmoved hr.bottom (h.square corner) fewB).2 hH fewB fewL hg boundL bottomLeft.2
    · exact on_axis (unmoved hr.bottom (h.square corner) fewB).2 hH fewB fewL hg boundL bottomRight.2
  exact ⟨onLeft.1, onTop.1, onRight.2, onBottom.2⟩

theorem InBounds.contained (h : InBounds p c ctx r w) (circular : ctx.screen.circular = true)
    (epsilon : p.epsilon = standard.epsilon) (grid : RectOnGrid r) (width : OnGrid ctx.screen.width)
    (height : OnGrid ctx.screen.height)
    (kept : SquareEnds (c.look.borderRadius.getD .zero) ∨
      RectOnGrid w ∧ (screenBounds ctx.screen).contains w p.epsilon = true) :
    (screenBounds ctx.screen).contains r p.epsilon = true := by
  obtain ⟨k, fewK, hW⟩ := width.at_eighths
  obtain ⟨l, fewL, hH⟩ := height.at_eighths
  obtain ⟨left, top, right, bottom, hr⟩ := grid.measures
  have hs := measures_screen hW hH fewK fewL
  have window := h.window
  rw [epsilon] at window kept ⊢
  rw [contains_iff hs hr]
  -- with square ends the corners decide; otherwise the window does, and no corner matters
  rcases kept with square | ⟨windowGrid, inside⟩
  · exact h.contained_of_square circular epsilon square hr hW hH fewK fewL
  · obtain ⟨left', top', right', bottom', hw⟩ := windowGrid.measures
    rw [contains_iff hs hw] at inside
    rw [contains_iff hw hr] at window
    omega

/-- **The round screen.** No corner that is looked at lies farther from the centre, on either axis, than
the circle reaches. Where all is measured in 256ths, the rectangle is inside the bounds of the screen if
each of its sides has a square corner, or if its window is. -/
theorem round_screen_bounds (accepted : p.checkBounds c ctx = .ok (r, w)) (circular : ctx.screen.circular = true)
    (epsilon : p.epsilon = standard.epsilon) :
    (∀ q ∈ roundedCorners r (c.look.borderRadius.getD .zero), WithinReach p ctx.screen q) ∧
    (RectOnGrid r → OnGrid ctx.screen.width → OnGrid ctx.screen.height →
      SquareEnds (c.look.borderRadius.getD .zero) ∨
        RectOnGrid w ∧ (screenBounds ctx.screen).contains w p.epsilon = true →
      (screenBounds ctx.screen).contains r p.epsilon = true) :=
  ⟨fun _ => (inBounds accepted).reached circular epsilon, (inBounds accepted).contained circular epsilon⟩

end Accepted

/-! ## A watch -/

/-- A round screen. -/
def dial : ValidityContext := { screen := { width := 200, height := 200, circular := true }, windowScale := .unscaled }

/-- A save button in a window larger than the screen. -/
def dialButton (rect : Rect) (radii : CornerRadii) : Component where
  labels := .save (some .save) none
  rect := rect
  windowRect := ⟨0, 0, 1000, 2000⟩
  windowId := 1
  displayId := 0
  crossAxis := false
  tipPosition := none
  look :=
    { background := .capsule, fontSize := 16, iconSize := 16, textIconSpace := 4, padding := ⟨8, 8, 8, 8⟩,
      borderWidth := 0, fontColor := ⟨0xFFFFFFFF⟩, iconColor := ⟨0xFFFFFFFF⟩, backgroundColor := ⟨0xFF007DFF⟩,
      borderRadius := some radii }
  parentEffect := .none
  isValid := false
  isGranted := false
  drawn := none

/-- What is accepted for the dial is drawn as declared. -/
theorem checkBounds_dial {c : Component} (accepted : (standard.checkBounds c dial).isOk = true) :
    standard.checkBounds c dial = .ok (c.rect, c.windowRect) := by
  cases verdict : standard.checkBounds c dial with
  | error e =>
    rw [verdict] at accepted
    cases accepted
  | ok drawn =>
    have unscaled : standard.scaledGeometry c .unscaled = .ok (c.rect, c.windowRect) := by
      unfold scaledGeometry
      rw [if_neg (by decide +kernel), if_pos (by decide +kernel)]
    have same := (inBounds verdict).scaled.symm.trans unscaled
    exact same

theorem onGrid_of_place {x : Float} (n : Int) (small : n.natAbs ≤ 2 ^ 47) (h : place x = some (8 * n * eighth)) :
    OnGrid x := by
  refine ⟨n, _, small, h, ?_⟩
  rw [unit_eq]
  push_cast
  ring

/-- Two square corners across from each other are enough. -/
theorem round_screen_bounds_diagonal :
    standard.checkBounds (dialButton ⟨14, 70, 90, 40⟩ ⟨0, 20, 20, 0⟩) dial =
      .ok (⟨14, 70, 90, 40⟩, ⟨0, 0, 1000, 2000⟩) ∧
    (screenBounds dial.screen).contains ⟨14, 70, 90, 40⟩ standard.epsilon = true := by
  have accepted := checkBounds_dial (c := dialButton ⟨14, 70, 90, 40⟩ ⟨0, 20, 20, 0⟩) (by decide +kernel)
  have square : SquareEnds ⟨0, 20, 20, 0⟩ :=
    ⟨.inl (by decide +kernel), .inl (by decide +kernel), .inr (by decide +kernel), .inr (by decide +kernel)⟩
  have grid : RectOnGrid ⟨14, 70, 90, 40⟩ :=
    ⟨onGrid_of_place (14 * 256) (by decide) (by decide +kernel), onGrid_of_place (70 * 256) (by decide) (by decide +kernel),
      onGrid_of_place (90 * 256) (by decide) (by decide +kernel), onGrid_of_place (40 * 256) (by decide) (by decide +kernel)⟩
  have side : OnGrid 200 := onGrid_of_place (200 * 256) (by decide) (by decide +kernel)
  exact ⟨accepted, (round_screen_bounds accepted rfl rfl).2 grid side side (.inl square)⟩

/-- The right end of the button lies between two arcs and is off the screen, four units of it. -/
theorem juts_out_of_round_screen :
    standard.checkBounds (dialButton ⟨154, 80, 50, 40⟩ ⟨20, 20, 20, 20⟩) dial =
      .ok (⟨154, 80, 50, 40⟩, ⟨0, 0, 1000, 2000⟩) ∧
    dial.screen.circular = true ∧ (screenBounds dial.screen).contains ⟨154, 80, 50, 40⟩ standard.epsilon = false :=
  ⟨checkBounds_dial (c := dialButton ⟨154, 80, 50, 40⟩ ⟨20, 20, 20, 20⟩) (by decide +kernel), rfl, by decide +kernel⟩

end ValidityPolicy

end ClickGrant
