/-!
# Validity policy

The thresholds that a component is measured against, and the facts about screen and window that a
check needs besides the component itself.
-/
set_option autoImplicit false

namespace ClickGrant

/-- Thresholds of the validity rules. -/
structure ValidityPolicy where
  /-- Least font size without an icon beside the text. -/
  minFontSizeWithoutIcon : Float
  /-- Least font size with an icon beside the text. -/
  minFontSizeWithIcon : Float
  minIconSize : Float
  /-- Least padding on each side when a background is drawn. -/
  minPadding : Float
  /-- Padding required on each side when none is drawn. -/
  borderlessPadding : Float
  minTextIconSpace : Float
  /-- Labels with less alpha are too faint to be trusted. -/
  minVisibleAlpha : UInt8
  colorDistanceThreshold : Float
  backgroundDominanceRatio : Float
  /-- A component covering at least this part of the screen is refused. -/
  maxScreenAreaRatio : Float
  /-- Tolerance of the geometric comparisons. -/
  epsilon : Float
  deriving BEq

/-- The thresholds in force unless configured otherwise. -/
def ValidityPolicy.standard : ValidityPolicy where
  minFontSizeWithoutIcon := 12
  minFontSizeWithIcon := 8
  minIconSize := 12
  minPadding := 0
  borderlessPadding := 4
  minTextIconSpace := 0
  minVisibleAlpha := 0x1A
  colorDistanceThreshold := 5
  backgroundDominanceRatio := 0.5
  maxScreenAreaRatio := 0.1
  epsilon := 0.001

/-- Bounds of a display. -/
structure Screen where
  width : Float
  height : Float
  /-- A round, wearable display. -/
  circular : Bool

/-- Render scale of a window. -/
structure WindowScale where
  scale : Float
  /-- Compatibility scaling holds the window's centre in place, normal scaling its top-left
  corner. -/
  compatMode : Bool

/-- A window drawn at its own size. -/
def WindowScale.unscaled : WindowScale := { scale := 1, compatMode := false }

/-- What a check needs to know of screen and window. -/
structure ValidityContext where
  screen : Screen
  windowScale : WindowScale

end ClickGrant
