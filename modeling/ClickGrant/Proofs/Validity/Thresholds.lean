import ClickGrant.Config.Basic
import ClickGrant.Proofs.Color
import ClickGrant.Proofs.Validity.Groups

/-!
# Thresholds at the ends of their ranges

A configuration is accepted if its thresholds are finite and not negative and its ratios do not exceed 1,
both ends included, while a check that compares strictly needs more than that. What is proved of every
configuration that is accepted:
  1. `exact_padding_passes_iff` — a padding that is exactly the required one passes if the tolerance is
     positive. With a tolerance of zero it is refused.
  2. `same_color_refused_iff` — an opaque text on a background of its own colour is refused if the distance
     threshold is positive and the dominance ratio below 1. At either end of its range nothing is asked of
     the text.
-/
set_option autoImplicit false

namespace ClickGrant

open Decimal

/-- Equal numbers differ by zero, which is not below a tolerance of zero. -/
theorem abs_sub_lt_iff_of_beq {x y epsilon : Float} (finite : y.isFinite = true) (same : (x == y) = true) :
    (x - y).abs < epsilon ↔ 0 < epsilon := by
  obtain ⟨b, atY⟩ := isFinite_iff.mp finite
  obtain ⟨a, atX, equal⟩ := beq_iff.mp same
  rw [atY.place] at equal
  cases equal
  obtain ⟨p, here, rounds⟩ := place_sub ⟨atX, atY.lower, atY.upper⟩ atY
  have zero : place (x - y).abs = some 0 := by
    rw [place_abs, here, rounds.exact (u := 0) representable_zero (by omega)]
    rfl
  rw [lt_iff, lt_iff, zero, place_zero]

namespace Config

variable {config : Config}

/-- A threshold of an accepted configuration is positive unless it is zero. -/
theorem Accepted.pos_iff (accepted : config.Accepted) {name : String} {value : Float}
    (listed : (name, value) ∈ config.nonNegativeSettings) : 0 < value ↔ (value == 0) = false := by
  obtain ⟨finite, nonneg⟩ := accepted.nonNegative _ listed
  rw [beq_comm, lt_iff_of_not_lt (isFinite_iff.mpr ⟨_, at_zero⟩) finite nonneg]

/-- The dominance ratio of an accepted configuration is below 1 unless it is 1. -/
theorem Accepted.ratio_lt_one_iff (accepted : config.Accepted) :
    config.validity.backgroundDominanceRatio < 1 ↔ (config.validity.backgroundDominanceRatio == 1) = false :=
  lt_iff_of_not_lt (accepted.nonNegative ("validation.background_dominance_ratio", _)
    (by simp [nonNegativeSettings])).1 (isFinite_iff.mpr ⟨_, at_toFloat (n := 1) (by decide)⟩)
    accepted.dominanceRatio

end Config

namespace ValidityPolicy

variable {p : ValidityPolicy} {c : Component} {e : Invalidity} {x : Float}

/-! ## Padding without a background -/

/-- All four sides have the padding that is required without a background. -/
def ExactPadding (p : ValidityPolicy) (look : Look) : Prop :=
  ∀ side ∈ look.padding.sides, (side == p.borderlessPadding) = true

instance (p : ValidityPolicy) (look : Look) : Decidable (p.ExactPadding look) :=
  inferInstanceAs (Decidable (∀ side ∈ look.padding.sides, (side == p.borderlessPadding) = true))

theorem checkPadding_of_exact (finite : p.borderlessPadding.isFinite = true) {look : Look}
    (borderless : look.background = .none) (exact : p.ExactPadding look) :
    p.checkPadding look = if 0 < p.epsilon then .ok () else .error (.borderlessPadding p.borderlessPadding) := by
  have distance : ∀ side ∈ look.padding.sides, ((side - p.borderlessPadding).abs < p.epsilon ↔ 0 < p.epsilon) :=
    fun side listed => abs_sub_lt_iff_of_beq finite (exact side listed)
  unfold checkPadding
  rw [if_pos borderless]
  by_cases tolerant : 0 < p.epsilon
  · have none : look.padding.sides.any (fun side => !((side - p.borderlessPadding).abs < p.epsilon)) = false := by
      rw [List.any_eq_false]
      intro side listed
      simp [(distance side listed).mpr tolerant]
    rw [none, if_neg Bool.false_ne_true, if_pos tolerant]
  · have some : look.padding.sides.any (fun side => !((side - p.borderlessPadding).abs < p.epsilon)) = true := by
      have listed : look.padding.top ∈ look.padding.sides := List.mem_cons_self
      exact List.any_eq_true.mpr ⟨_, listed, by simp [mt (distance _ listed).mp tolerant]⟩
    rw [some, if_pos rfl, if_neg tolerant]

/-- A padding is asked for once there is a label and the border is in order. -/
structure ReachesPadding (c : Component) : Prop where
  label : c.hasText = true ∨ c.hasIcon = true
  border : c.look.borderWidth.isFinite = true ∧ ¬c.look.borderWidth < 0

theorem checkSizes_eq_borderlessPadding_iff : p.checkSizes c = .error (.borderlessPadding x) ↔
    ReachesPadding c ∧ p.checkPadding c.look = .error (.borderlessPadding x) := by
  unfold checkSizes
  simp only [refusing_eq]
  constructor
  · intro refused
    split at refused
    · cases refused
    next label =>
    split at refused
    · cases refused
    next border =>
    refine ⟨⟨by simpa [or_iff_not_imp_left] using label, by simpa using border⟩, ?_⟩
    cases padding : p.checkPadding c.look with
    | error e =>
      rw [padding] at refused
      exact refused
    | ok _ =>
      rw [padding] at refused
      simp only [bind, Except.bind] at refused
      split at refused
      · cases refused
      split at refused
      · cases refused
      split at refused <;> cases refused
  · rintro ⟨⟨label, border⟩, padding⟩
    rw [if_neg (by simpa [or_iff_not_imp_left] using label), if_neg (by simpa using border), padding]
    rfl

/-- **The exact padding.** Under a configuration that is accepted, a component without background whose
padding is exactly the required one is refused for its padding only if the tolerance is zero, and then
always. -/
theorem exact_padding_passes_iff {config : Config} (accepted : config.validate = .ok ()) {c : Component}
    (borderless : c.look.background = .none) (exact : config.validity.ExactPadding c.look) :
    (∀ x, config.validity.checkSizes c ≠ .error (.borderlessPadding x)) ↔
      (config.validity.epsilon == 0) = false ∨ ¬ReachesPadding c := by
  have passed := Config.accepted_of_validate accepted
  have finite := (passed.nonNegative ("validation.borderless_padding", config.validity.borderlessPadding)
    (by simp [Config.nonNegativeSettings])).1
  have tolerance : ("validation.epsilon", config.validity.epsilon) ∈ config.nonNegativeSettings := by
    simp [Config.nonNegativeSettings]
  have padding := checkPadding_of_exact finite borderless exact
  rw [← passed.pos_iff tolerance]
  constructor
  · intro passes
    by_contra neither
    obtain ⟨intolerant, reached⟩ := not_or.mp neither
    rw [if_neg intolerant] at padding
    exact passes _ (checkSizes_eq_borderlessPadding_iff.mpr ⟨not_not.mp reached, padding⟩)
  · intro either x refused
    obtain ⟨reached, refused⟩ := checkSizes_eq_borderlessPadding_iff.mp refused
    rcases either with tolerant | unreached
    · rw [padding, if_pos tolerant] at refused
      cases refused
    · exact unreached reached

/-- A configuration with other thresholds. -/
def configured (p : ValidityPolicy) : Config := { Config.standard with validity := p }

/-- A save button, in red. -/
def redButton (background : Background) (padding : Padding) : Component where
  labels := .save (some .save) none
  rect := ⟨100, 100, 200, 60⟩
  windowRect := ⟨0, 0, 1000, 2000⟩
  windowId := 1
  displayId := 0
  crossAxis := false
  tipPosition := none
  look :=
    { background, fontSize := 16, iconSize := 16, textIconSpace := 4, padding, borderWidth := 0,
      fontColor := ⟨0xFFFF0000⟩, iconColor := ⟨0xFFFFFFFF⟩, backgroundColor := ⟨0xFFFF0000⟩,
      borderRadius := none }
  parentEffect := .none
  isValid := false
  isGranted := false
  drawn := none

theorem exact_padding_passes_standard :
    (configured standard).validate = .ok () ∧
      ∀ x, standard.checkSizes (redButton .none ⟨4, 4, 4, 4⟩) ≠ .error (.borderlessPadding x) := by
  have accepted : (configured standard).validate = .ok () := by decide +kernel
  exact ⟨accepted, (exact_padding_passes_iff accepted (c := redButton .none ⟨4, 4, 4, 4⟩) rfl
    (by decide +kernel)).mpr (.inl (by decide +kernel))⟩

/-- A tolerance of zero. -/
def intolerant : ValidityPolicy := { standard with epsilon := 0 }

/-- A tolerance of zero is accepted, and the exact padding is refused. -/
theorem exact_padding_refused_without_tolerance :
    (configured intolerant).validate = .ok () ∧ (redButton .none ⟨4, 4, 4, 4⟩).look.background = .none ∧
      intolerant.ExactPadding (redButton .none ⟨4, 4, 4, 4⟩).look ∧
      intolerant.checkSizes (redButton .none ⟨4, 4, 4, 4⟩) = .error (.borderlessPadding 4) := by
  have exact : intolerant.ExactPadding (redButton .none ⟨4, 4, 4, 4⟩).look := by decide +kernel
  have padding := checkPadding_of_exact (p := intolerant) (by decide +kernel) rfl exact
  rw [if_neg (by decide +kernel)] at padding
  exact ⟨by decide +kernel, rfl, exact,
    checkSizes_eq_borderlessPadding_iff.mpr ⟨⟨by decide, by decide +kernel⟩, padding⟩⟩

/-! ## A text in the colour of its background -/

/-- What contrast asks of an icon. -/
def iconVerdict (p : ValidityPolicy) (c : Component) : Except Invalidity Unit :=
  if c.hasIcon && c.look.iconColor.alpha < p.minVisibleAlpha then
    .error (.iconTooTransparent c.look.iconColor.alpha)
  else if c.hasIcon && p.contrastInsufficient c.look c.look.iconColor then .error .iconContrast
  else .ok ()

/-- A component that shows an opaque text on an opaque background of the same colour. -/
structure HiddenText (c : Component) : Prop where
  text : c.hasText = true
  background : c.look.background ≠ .none
  same : c.look.backgroundColor = c.look.fontColor
  solid : c.look.fontColor.alpha = 0xFF

instance (c : Component) : Decidable (HiddenText c) :=
  decidable_of_iff (c.hasText = true ∧ c.look.background ≠ .none ∧ c.look.backgroundColor = c.look.fontColor ∧
      c.look.fontColor.alpha = 0xFF)
    ⟨fun ⟨text, background, same, solid⟩ => ⟨text, background, same, solid⟩,
      fun h => ⟨h.text, h.background, h.same, h.solid⟩⟩

theorem not_opaque_lt (alpha : UInt8) : ¬(0xFF : UInt8) < alpha := by
  have := alpha.toNat_lt
  rw [UInt8.lt_iff_toNat_lt]
  show ¬255 < alpha.toNat
  omega

/-- The text is refused unless a threshold is at the end of its range; then only the icon is asked about. -/
theorem checkContrast_of_hidden (p : ValidityPolicy) (hidden : HiddenText c) : p.checkContrast c =
    if c.hasIcon && c.look.iconColor.alpha < p.minVisibleAlpha then
      .error (.iconTooTransparent c.look.iconColor.alpha)
    else if 0 < p.colorDistanceThreshold ∧ p.backgroundDominanceRatio < 1 then .error .fontContrast
    else p.iconVerdict c := by
  obtain ⟨text, background, same, solid⟩ := hidden
  have drawn : ¬(decide (c.look.background = .none) || decide (c.look.backgroundColor.alpha = 0)) = true := by
    rw [same, solid]
    simp [background]
  have melts : p.contrastInsufficient c.look c.look.fontColor = true ↔
      0 < p.colorDistanceThreshold ∧ p.backgroundDominanceRatio < 1 := by
    unfold contrastInsufficient
    rw [same]
    exact Color.contrastInsufficient_self_iff solid _ _
  unfold checkContrast
  simp only [refusing_eq, text, solid, not_opaque_lt, melts, Bool.true_and, decide_false, Bool.false_eq_true,
    if_false]
  by_cases faint : (c.hasIcon && c.look.iconColor.alpha < p.minVisibleAlpha) = true
  · rw [if_pos faint, if_pos faint]
  · rw [if_neg faint, if_neg faint, if_neg drawn, iconVerdict, if_neg faint]
    rfl

theorem validate_eq_checkContrast {ctx : ValidityContext} {r w : Rect} (bounds : p.checkBounds c ctx = .ok (r, w))
    (parentEffect : p.checkParentEffect c r = .ok ()) (sizes : p.checkSizes c = .ok ()) :
    p.validate c ctx = p.checkContrast c := by
  cases contrast : p.checkContrast c with
  | ok _ => exact Passes.validate_eq ⟨bounds, parentEffect, sizes, contrast⟩
  | error e => exact FailsFirst.validate_eq (.contrast bounds parentEffect sizes contrast)

/-- **A text in the colour of its background.** Under a configuration that is accepted it is refused, unless
the distance threshold is zero or the dominance ratio is 1. Then the component is refused only if its icon
is. If the groups before pass, the verdict on the contrast is the one on the component. -/
theorem same_color_refused_iff {config : Config} (accepted : config.validate = .ok ()) {c : Component}
    (hidden : HiddenText c) :
    ((∃ e, config.validity.checkContrast c = .error e) ↔
      (config.validity.colorDistanceThreshold == 0) = false ∧
          (config.validity.backgroundDominanceRatio == 1) = false ∨
        ∃ e, config.validity.iconVerdict c = .error e) ∧
    ∀ ctx r w, config.validity.checkBounds c ctx = .ok (r, w) → config.validity.checkParentEffect c r = .ok () →
      config.validity.checkSizes c = .ok () → config.validity.validate c ctx = config.validity.checkContrast c := by
  have passed := Config.accepted_of_validate accepted
  have threshold : ("validation.color_distance_threshold", config.validity.colorDistanceThreshold) ∈
      config.nonNegativeSettings := by
    simp [Config.nonNegativeSettings]
  refine ⟨?_, fun ctx r w => validate_eq_checkContrast⟩
  rw [← passed.pos_iff threshold, ← passed.ratio_lt_one_iff, checkContrast_of_hidden config.validity hidden]
  by_cases faint : (c.hasIcon && c.look.iconColor.alpha < config.validity.minVisibleAlpha) = true
  · have icon : config.validity.iconVerdict c = .error (.iconTooTransparent c.look.iconColor.alpha) := by
      rw [iconVerdict, if_pos faint]
    rw [if_pos faint]
    exact ⟨fun _ => .inr ⟨_, icon⟩, fun _ => ⟨_, rfl⟩⟩
  · rw [if_neg faint]
    by_cases compared : 0 < config.validity.colorDistanceThreshold ∧ config.validity.backgroundDominanceRatio < 1
    · rw [if_pos compared]
      exact ⟨fun _ => .inl compared, fun _ => ⟨_, rfl⟩⟩
    · rw [if_neg compared]
      exact ⟨.inr, fun either => either.resolve_left compared⟩

theorem same_color_refused_standard :
    (configured standard).validate = .ok () ∧ HiddenText (redButton .capsule ⟨8, 8, 8, 8⟩) ∧
      ∃ e, standard.checkContrast (redButton .capsule ⟨8, 8, 8, 8⟩) = .error e := by
  have accepted : (configured standard).validate = .ok () := by decide +kernel
  have hidden : HiddenText (redButton .capsule ⟨8, 8, 8, 8⟩) := by decide
  exact ⟨accepted, hidden,
    (same_color_refused_iff accepted hidden).1.mpr (.inl ⟨by decide +kernel, by decide +kernel⟩)⟩

/-- A dominance ratio at the upper end of its range. -/
def undominated : ValidityPolicy := { standard with backgroundDominanceRatio := 1 }

/-- A distance threshold at the lower end of its range. -/
def undistinguished : ValidityPolicy := { standard with colorDistanceThreshold := 0 }

/-- A display that has room for the button. -/
def phone : ValidityContext :=
  { screen := { width := 1000, height := 2000, circular := false }, windowScale := .unscaled }

/-- Both ends are accepted, and with either a text in the colour of its background is valid. -/
theorem same_color_accepted_at_the_ends :
    HiddenText (redButton .capsule ⟨8, 8, 8, 8⟩) ∧
      ((configured undominated).validate = .ok () ∧
        undominated.checkContrast (redButton .capsule ⟨8, 8, 8, 8⟩) = .ok () ∧
        undominated.validate (redButton .capsule ⟨8, 8, 8, 8⟩) phone = .ok ()) ∧
      (configured undistinguished).validate = .ok () ∧
        undistinguished.checkContrast (redButton .capsule ⟨8, 8, 8, 8⟩) = .ok () ∧
        undistinguished.validate (redButton .capsule ⟨8, 8, 8, 8⟩) phone = .ok () := by
  have ok : ∀ {x : Except Invalidity Unit}, x.isOk = true → x = .ok () := by
    intro x h
    cases x with
    | error e => cases h
    | ok _ => rfl
  refine ⟨by decide, ⟨by decide +kernel, ?_, ?_⟩, by decide +kernel, ?_, ?_⟩
  · exact ok (by decide +kernel)
  · exact ok (by decide +kernel)
  · exact ok (by decide +kernel)
  · exact ok (by decide +kernel)

end ValidityPolicy

end ClickGrant
