import ClickGrant.Geometry.Angle
import ClickGrant.Geometry.Rect

/-!
# Colours and contrast

A colour is an ARGB word. Two colours are compared as points of a cone: hue is the angle,
saturation times value the distance from the axis, value the height. Dark colours lie close
together whatever their hue, as they look. Similarity is symmetric; whether a similar background
hides a label depends on how much of the blended pixel the background contributes, which is what
`backgroundDominates` decides from the two alpha channels.
-/
set_option autoImplicit false

namespace ClickGrant

/-- The gap between 1 and the next double. -/
def machineEpsilon : Float := 2.220446049250313e-16

/-- The ratio of a circle's circumference to its diameter. -/
def pi : Float := 3.141592653589793

/-- The larger of two numbers; a NaN counts as absent. -/
def larger (a b : Float) : Float := if a.isNaN then b else if b.isNaN || b < a then a else b

/-- The smaller of two numbers; a NaN counts as absent. -/
def smaller (a b : Float) : Float := if a.isNaN then b else if b.isNaN || a < b then a else b

/-- A 32-bit ARGB colour. -/
structure Color where
  argb : UInt32
  deriving DecidableEq, Repr, Inhabited

namespace Color

/-- Packs four channels. -/
def ofChannels (a r g b : UInt8) : Color :=
  ⟨a.toUInt32 <<< 24 ||| r.toUInt32 <<< 16 ||| g.toUInt32 <<< 8 ||| b.toUInt32⟩

/-- The alpha channel; 0 is fully transparent. -/
def alpha (c : Color) : UInt8 := (c.argb >>> 24).toUInt8

def red (c : Color) : UInt8 := (c.argb >>> 16).toUInt8

def green (c : Color) : UInt8 := (c.argb >>> 8).toUInt8

def blue (c : Color) : UInt8 := c.argb.toUInt8

/-- A channel as a fraction of its largest value. -/
def fraction (channel : UInt8) : Float := channel.toNat.toFloat / 255

/-- Alpha as a fraction in `[0, 1]`. -/
def alphaFraction (c : Color) : Float := fraction c.alpha

end Color

/-- Hue in degrees, saturation and value in `[0, 1]`. -/
structure Hsv where
  hue : Float
  saturation : Float
  value : Float

namespace Hsv

/-- A sixth of the circle, counted from the red axis: differences below it wrap to the top. The
argument lies in `[-1, 1]`. -/
def wrapSixth (x : Float) : Float := if x < 0 then x + 6 else x

/-- The colour's channels, alpha left out. -/
def ofColor (c : Color) : Hsv :=
  let r := Color.fraction c.red
  let g := Color.fraction c.green
  let b := Color.fraction c.blue
  let top := larger (larger r g) b
  let delta := top - smaller (smaller r g) b
  let hue :=
    if delta ≤ machineEpsilon then 0
    else if (top - r).abs ≤ machineEpsilon then 60 * wrapSixth ((g - b) / delta)
    else if (top - g).abs ≤ machineEpsilon then 60 * ((b - r) / delta + 2)
    else 60 * ((r - g) / delta + 4)
  { hue, saturation := if top ≤ machineEpsilon then 0 else delta / top, value := top }

/-- Radius scale of the cone. -/
def coneRadius : Float := 100

/-- Half-angle of the cone, in degrees. -/
def coneAngle : Float := 30

/-- The colour's point on the cone. -/
def project (c : Hsv) : Float × Float × Float :=
  let angle := coneAngle / 180 * pi
  let radius := coneRadius * sine angle
  let height := coneRadius * cosine angle
  let hue := c.hue / 180 * pi
  (radius * c.value * c.saturation * cosine hue,
   radius * c.value * c.saturation * sine hue,
   height * (1 - c.value))

end Hsv

namespace Color

/-- Euclidean distance between two colours' points. -/
def distance (a b : Color) : Float :=
  let p := (Hsv.ofColor a).project
  let q := (Hsv.ofColor b).project
  let dx := p.1 - q.1
  let dy := p.2.1 - q.2.1
  let dz := p.2.2 - q.2.2
  (dx * dx + dy * dy + dz * dz).sqrt

/-- Whether the distance lies strictly below `threshold`. -/
def similar (a b : Color) (threshold : Float) : Bool := distance a b < threshold

/-- Whether `background` makes up more than `ratio` of the pixel that results from drawing
`foreground` over it. -/
def backgroundDominates (foreground background : Color) (ratio : Float) : Bool :=
  let fa := foreground.alphaFraction
  let ba := background.alphaFraction
  let mixed := fa + ba - fa * ba
  if mixed ≤ machineEpsilon then false else ba / mixed > ratio

/-- Contrast failure: the colours are similar and the background dominates. -/
def contrastInsufficient (foreground background : Color) (threshold ratio : Float) : Bool :=
  similar foreground background threshold && backgroundDominates foreground background ratio

end Color

end ClickGrant
