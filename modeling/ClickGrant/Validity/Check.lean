import ClickGrant.Component.Basic
import ClickGrant.Geometry.Length
import ClickGrant.Validity.Policy
import ClickGrant.Validity.Rejection

/-!
# Checking a component

A component is valid if it passes four groups of rules, asked in this order, and the first failure
is the answer:

1. bounds: finite rectangles, inside window and screen, not too large;
2. parent effect: no opacity or blur above it, no clipping that hides a part;
3. size: a label is shown, padding, spacing, font and icon are as large as the policy wants;
4. contrast: the label is opaque enough and does not melt into the background.

Bounds yield the rectangles as drawn, and only the second group looks at them. A minimum is tested
by "at least", so a NaN fails it.
-/
set_option autoImplicit false

namespace ClickGrant

namespace ValidityPolicy

/-- The component's and its window's rectangles under the window's render scale. A scale within
the tolerance of 1 changes nothing. -/
def scaledGeometry (p : ValidityPolicy) (c : Component) (s : WindowScale) :
    Except Invalidity (Rect × Rect) :=
  if !s.scale.isFinite || s.scale ≤ 0 then .error (.invalidWindowScale s.scale)
  else if (s.scale - 1).abs < p.epsilon then .ok (c.rect, c.windowRect)
  else
    let anchor := if s.compatMode then c.windowRect.center else c.windowRect.origin
    .ok (c.rect.scaledAbout anchor s.scale, c.windowRect.scaledAbout anchor s.scale)

/-- `1 - 1 / √2`: how far, in radii, a round corner lies from its square corner on each axis. -/
def cornerInset : Float := 1 - 0.7071067811865476

/-- The four corners of a rectangle, each pulled inward along its diagonal by its radius. A radius
counts from zero up to half the shorter side. -/
def roundedCorners (r : Rect) (radii : CornerRadii) : List Point :=
  let most := smaller r.width r.height / 2
  let inset (radius : Float) : Float := smaller (larger radius 0) most * cornerInset
  [{ x := r.x + inset radii.topLeft, y := r.y + inset radii.topLeft },
   { x := r.right - inset radii.topRight, y := r.y + inset radii.topRight },
   { x := r.x + inset radii.bottomLeft, y := r.bottom - inset radii.bottomLeft },
   { x := r.right - inset radii.bottomRight, y := r.bottom - inset radii.bottomRight }]

/-- Whether a point lies outside the circle inscribed in the screen. -/
def outsideRound (p : ValidityPolicy) (s : Screen) (q : Point) : Bool :=
  hypot (q.x - s.width / 2) (q.y - s.height / 2) > smaller s.width s.height / 2 + p.epsilon

/-- Whether the rectangle, as drawn, is on the screen; a round screen looks at its corners. -/
def onScreen (p : ValidityPolicy) (c : Component) (r : Rect) (s : Screen) : Except Invalidity Unit :=
  if s.circular then
    if (roundedCorners r (c.look.borderRadius.getD .zero)).any (p.outsideRound s) then
      .error .outsideRoundScreen
    else .ok ()
  else if (Rect.mk 0 0 s.width s.height).contains r p.epsilon then .ok ()
  else .error .outOfScreen

/-- Bounds. The rectangles as drawn if they pass. -/
def checkBounds (p : ValidityPolicy) (c : Component) (ctx : ValidityContext) :
    Except Invalidity (Rect × Rect) := do
  if !c.rect.isPositiveFinite then throw (.invalidRect .component)
  if !c.windowRect.isPositiveFinite then throw (.invalidRect .window)
  let s := ctx.screen
  if !(s.width.isFinite && s.height.isFinite) || s.width ≤ 0 || s.height ≤ 0 then
    throw (.invalidScreen s.width s.height)
  let (rect, window) ← p.scaledGeometry c ctx.windowScale
  if !window.contains rect p.epsilon then throw .outOfWindow
  p.onScreen c rect s
  let screenArea := s.width * s.height
  if rect.area ≥ screenArea * p.maxScreenAreaRatio then
    throw (.tooLarge (rect.area / screenArea * 100))
  return (rect, window)

/-- Parent effect, for a component drawn at `drawn`. Clipping to unknown bounds hides it. -/
def checkParentEffect (p : ValidityPolicy) (c : Component) (drawn : Rect) : Except Invalidity Unit :=
  if c.parentEffect.hasEffect then .error .parentEffect
  else if c.parentEffect.isClipped then
    match c.parentEffect.clip with
    | none => .error .clipped
    | some clip => if clip.contains drawn p.epsilon then .ok () else .error .clipped
  else .ok ()

/-- Padding: exact without a background, a minimum with one. -/
def checkPadding (p : ValidityPolicy) (look : Look) : Except Invalidity Unit :=
  if look.background = .none then
    if look.padding.sides.any (fun side => !((side - p.borderlessPadding).abs < p.epsilon)) then
      .error (.borderlessPadding p.borderlessPadding)
    else .ok ()
  else if look.padding.sides.any (fun side => !(side ≥ p.minPadding)) then
    .error (.paddingTooSmall p.minPadding)
  else .ok ()

/-- Least font size, which depends on whether an icon stands beside the text. -/
def minFontSize (p : ValidityPolicy) (c : Component) : Float :=
  if c.hasIcon then p.minFontSizeWithIcon else p.minFontSizeWithoutIcon

/-- Size. -/
def checkSizes (p : ValidityPolicy) (c : Component) : Except Invalidity Unit := do
  let look := c.look
  if !c.hasText && !c.hasIcon then throw .noTextOrIcon
  if !look.borderWidth.isFinite || look.borderWidth < 0 then throw (.invalidBorderWidth look.borderWidth)
  p.checkPadding look
  if !(look.textIconSpace ≥ p.minTextIconSpace) then
    throw (.textIconSpaceTooSmall look.textIconSpace p.minTextIconSpace)
  if c.hasText && !(look.fontSize ≥ p.minFontSize c) then
    throw (.fontTooSmall look.fontSize (p.minFontSize c))
  if c.hasIcon && !(look.iconSize ≥ p.minIconSize) then
    throw (.iconTooSmall look.iconSize p.minIconSize)

/-- Whether a label in this colour melts into the background. -/
def contrastInsufficient (p : ValidityPolicy) (look : Look) (label : Color) : Bool :=
  Color.contrastInsufficient label look.backgroundColor p.colorDistanceThreshold p.backgroundDominanceRatio

/-- Contrast. Without a background, or with a fully transparent one, there is nothing to melt
into. -/
def checkContrast (p : ValidityPolicy) (c : Component) : Except Invalidity Unit := do
  let look := c.look
  if c.hasText && look.fontColor.alpha < p.minVisibleAlpha then
    throw (.fontTooTransparent look.fontColor.alpha)
  if c.hasIcon && look.iconColor.alpha < p.minVisibleAlpha then
    throw (.iconTooTransparent look.iconColor.alpha)
  if look.background = .none || look.backgroundColor.alpha = 0 then return ()
  if c.hasText && p.contrastInsufficient look look.fontColor then throw .fontContrast
  if c.hasIcon && p.contrastInsufficient look look.iconColor then throw .iconContrast

/-- All four groups; the rectangle as drawn if they pass. -/
def validateDrawn (p : ValidityPolicy) (c : Component) (ctx : ValidityContext) :
    Except Invalidity Rect := do
  let (rect, _) ← p.checkBounds c ctx
  p.checkParentEffect c rect
  p.checkSizes c
  p.checkContrast c
  return rect

/-- All four groups. -/
def validate (p : ValidityPolicy) (c : Component) (ctx : ValidityContext) : Except Invalidity Unit :=
  (p.validateDrawn c ctx).map fun _ => ()

/-- The component with the marks of a check, and the check's outcome. -/
def validateAndMark (p : ValidityPolicy) (c : Component) (ctx : ValidityContext) :
    Component × Except Invalidity Unit :=
  match p.validateDrawn c ctx with
  | .ok drawn => ({ c with isValid := true, drawn := some drawn }, .ok ())
  | .error e => ({ c with isValid := false, drawn := none }, .error e)

end ValidityPolicy

end ClickGrant
