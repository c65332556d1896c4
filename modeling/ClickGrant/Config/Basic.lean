import ClickGrant.Click.Verify
import ClickGrant.Component.Kind
import ClickGrant.Path
import ClickGrant.Validity.Policy

/-!
# Configuration

Everything that can be set, each with a value in force unless it is set, and the rule that refuses
values which would silently switch a protection off.
-/
set_option autoImplicit false

namespace ClickGrant

/-- Delays and time windows, in milliseconds. -/
structure Timing where
  /-- How far in the past a click may lie. -/
  clickWindow : UInt64
  /-- Life of one save grant. -/
  saveRevokeDelay : UInt64
  /-- From going to the background to losing the capabilities. -/
  backgroundRevokeDelay : UInt64
  /-- From the last component's removal to the end of the service. -/
  serviceExitDelay : UInt64
  deriving DecidableEq, Repr

def Timing.standard : Timing where
  clickWindow := ClickPolicy.standard.window
  saveRevokeDelay := 60000
  backgroundRevokeDelay := 10000
  serviceExitDelay := 30000

/-- Bounds on what callers may send. -/
structure Limits where
  maxComponentsPerProcess : UInt64
  /-- Longest payload of a click. -/
  maxExtraLength : UInt64
  /-- Longest declaration of a component. -/
  maxInfoLength : UInt64
  requireExtra : Bool
  deriving DecidableEq, Repr

def Limits.standard : Limits where
  maxComponentsPerProcess := 500
  maxExtraLength := ClickPolicy.standard.maxExtraLength
  maxInfoLength := 16384
  requireExtra := false

/-- Logging of the program. -/
structure Logging where
  level : String
  /-- Log to this file instead of the standard output. -/
  file : Option Path
  deriving BEq, Repr

def Logging.standard : Logging := { level := "info", file := none }

/-- First-use consent. -/
structure ConsentSettings where
  /-- Where consents are kept. -/
  file : Path
  /-- Kinds that need a consent before their first grant. -/
  requiredKinds : List Kind
  deriving BEq, Repr

def ConsentSettings.standard : ConsentSettings where
  file := { text := "/var/lib/scmgr/consent.json" }
  requiredKinds := Kind.all

/-- A display of the static display table. -/
structure Display where
  id : UInt64
  width : Float
  height : Float
  circular : Bool
  deriving BEq

/-- A configuration. Equality of configurations compares numbers by value and paths by their steps. -/
structure Config where
  logging : Logging
  timing : Timing
  limits : Limits
  validity : ValidityPolicy
  /-- Windows whose id has all these bits belong to UI extensions. -/
  extensionMask : UInt32
  consent : ConsentSettings
  displays : List Display
  deriving BEq

def Config.standard : Config where
  logging := .standard
  timing := .standard
  limits := .standard
  validity := .standard
  extensionMask := standardExtensionMask
  consent := .standard
  displays := []

/-- Why a configuration is refused. -/
inductive ConfigFault where
  | zero (setting : String)
  | notNonNegative (setting : String)
  | ratioAboveOne
  | displaySize (id : UInt64)
  deriving DecidableEq, Repr

/-- The wording of a cause. -/
def ConfigFault.message : ConfigFault → String
  | .zero setting => "invalid config: " ++ setting ++ " must be non-zero"
  | .notNonNegative setting => "invalid config: " ++ setting ++ " must be finite and non-negative"
  | .ratioAboveOne => "invalid config: validation ratios must not exceed 1.0"
  | .displaySize id => s!"invalid config: display {id} has a non-positive size"

namespace Config

/-- The settings that must not be zero, in the order they are looked at. -/
def nonZeroSettings (c : Config) : List (String × UInt64) :=
  [("timing.click_window_ms", c.timing.clickWindow),
   ("timing.save_revoke_delay_ms", c.timing.saveRevokeDelay),
   ("timing.background_revoke_delay_ms", c.timing.backgroundRevokeDelay),
   ("timing.service_exit_delay_ms", c.timing.serviceExitDelay),
   ("limits.max_components_per_process", c.limits.maxComponentsPerProcess),
   ("limits.max_info_len", c.limits.maxInfoLength)]

/-- The settings that must be finite and not negative, in the order they are looked at. -/
def nonNegativeSettings (c : Config) : List (String × Float) :=
  [("validation.min_font_size_without_icon", c.validity.minFontSizeWithoutIcon),
   ("validation.min_font_size_with_icon", c.validity.minFontSizeWithIcon),
   ("validation.min_icon_size", c.validity.minIconSize),
   ("validation.min_padding", c.validity.minPadding),
   ("validation.borderless_padding", c.validity.borderlessPadding),
   ("validation.min_text_icon_space", c.validity.minTextIconSpace),
   ("validation.color_distance_threshold", c.validity.colorDistanceThreshold),
   ("validation.background_dominance_ratio", c.validity.backgroundDominanceRatio),
   ("validation.max_screen_area_ratio", c.validity.maxScreenAreaRatio),
   ("validation.epsilon", c.validity.epsilon)]

/-- Whether a display has a finite, positive size. -/
def hasSize (d : Display) : Bool :=
  d.width.isFinite && d.height.isFinite && !(d.width ≤ 0) && !(d.height ≤ 0)

/-- Refuses values that would silently switch a protection off; the first one is named. -/
def validate (c : Config) : Except ConfigFault Unit :=
  match c.nonZeroSettings.find? (·.2 = 0) with
  | some (name, _) => .error (.zero name)
  | none =>
    match c.nonNegativeSettings.find? (fun s => !s.2.isFinite || s.2 < 0) with
    | some (name, _) => .error (.notNonNegative name)
    | none =>
      if c.validity.maxScreenAreaRatio > 1 || c.validity.backgroundDominanceRatio > 1 then
        .error .ratioAboveOne
      else
        match c.displays.find? (!hasSize ·) with
        | some d => .error (.displaySize d.id)
        | none => .ok ()

/-- What a configuration has passed when it is accepted. -/
structure Accepted (c : Config) : Prop where
  nonZero : ∀ s ∈ c.nonZeroSettings, s.2 ≠ 0
  nonNegative : ∀ s ∈ c.nonNegativeSettings, s.2.isFinite = true ∧ ¬s.2 < 0
  screenRatio : ¬c.validity.maxScreenAreaRatio > 1
  dominanceRatio : ¬c.validity.backgroundDominanceRatio > 1
  displays : ∀ d ∈ c.displays, hasSize d = true

theorem accepted_of_validate {c : Config} (valid : c.validate = .ok ()) : c.Accepted := by
  unfold validate at valid
  split at valid
  · cases valid
  next nonZero =>
  split at valid
  · cases valid
  next nonNegative =>
  split at valid
  · cases valid
  next ratios =>
  split at valid
  · cases valid
  next displays =>
  simp only [Bool.or_eq_true, decide_eq_true_eq, not_or] at ratios
  refine ⟨?_, ?_, ratios.1, ratios.2, ?_⟩
  · intro s listed zero
    exact List.find?_eq_none.mp nonZero s listed (decide_eq_true zero)
  · intro s listed
    simpa using List.find?_eq_none.mp nonNegative s listed
  · intro d shown
    simpa using List.find?_eq_none.mp displays d shown

/-- A setting that must not be zero is not zero in a configuration that is accepted. -/
theorem ne_zero_of_validate {c : Config} {name : String} {value : UInt64}
    (accepted : c.validate = .ok ()) (listed : (name, value) ∈ c.nonZeroSettings) : value ≠ 0 :=
  (accepted_of_validate accepted).nonZero _ listed

/-- The limits of click verification. -/
def clickPolicy (c : Config) : ClickPolicy where
  window := c.timing.clickWindow
  allowedKeys := confirmingKeys
  maxExtraLength := c.limits.maxExtraLength
  requireExtra := c.limits.requireExtra

end Config

end ClickGrant
