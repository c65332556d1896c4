import ClickGrant.Color
import ClickGrant.Component.Labels

/-!
# Components

What an application declares about one of its buttons: which permission it stands for, where it
is and how it looks. Everything is the applicant's word until it has been checked. Three marks
are not declared but kept by whoever checks: whether the last check passed, whether a permission
is outstanding, and where the component is drawn once its window's scale is applied.
-/
set_option autoImplicit false

namespace ClickGrant

/-- Space between the border of a component and its content. -/
structure Padding where
  top : Float
  right : Float
  bottom : Float
  left : Float

/-- No padding. -/
def Padding.zero : Padding := { top := 0, right := 0, bottom := 0, left := 0 }

/-- Top, right, bottom, left. -/
def Padding.sides (p : Padding) : List Float := [p.top, p.right, p.bottom, p.left]

/-- Radii of the four corners. -/
structure CornerRadii where
  topLeft : Float
  topRight : Float
  bottomLeft : Float
  bottomRight : Float

/-- Square corners. -/
def CornerRadii.zero : CornerRadii := { topLeft := 0, topRight := 0, bottomLeft := 0, bottomRight := 0 }

/-- The four radii, in declared order. -/
def CornerRadii.corners (r : CornerRadii) : List Float := [r.topLeft, r.topRight, r.bottomLeft, r.bottomRight]

/-- The shape drawn behind a label; without one the label floats on the host's content. -/
inductive Background where
  | none | capsule | circle | normal
  deriving DecidableEq, Repr

def Background.all : List Background := [.none, .capsule, .circle, .normal]

def Background.name : Background → String
  | .none => "none"
  | .capsule => "capsule"
  | .circle => "circle"
  | .normal => "normal"

/-- Where the tip bubble is anchored. -/
inductive TipPosition where
  | aboveBottom | belowTop
  deriving DecidableEq, Repr

def TipPosition.all : List TipPosition := [.aboveBottom, .belowTop]

def TipPosition.name : TipPosition → String
  | .aboveBottom => "above_bottom"
  | .belowTop => "below_top"

/-- Declared look. -/
structure Look where
  background : Background
  fontSize : Float
  iconSize : Float
  textIconSpace : Float
  padding : Padding
  borderWidth : Float
  fontColor : Color
  iconColor : Color
  backgroundColor : Color
  borderRadius : Option CornerRadii

/-- What ancestors of the component do to it. -/
structure ParentEffect where
  /-- An ancestor applies opacity, blur or the like. -/
  hasEffect : Bool
  /-- An ancestor clips its children, to `clip` if that is known. -/
  isClipped : Bool
  clip : Option Rect

/-- No effect and no clipping. -/
def ParentEffect.none : ParentEffect := { hasEffect := false, isClipped := false, clip := Option.none }

/-- A declared component with the marks its checks left. -/
structure Component where
  labels : Labels
  rect : Rect
  windowRect : Rect
  windowId : Int32
  displayId : UInt64
  crossAxis : Bool
  tipPosition : Option TipPosition
  look : Look
  parentEffect : ParentEffect
  /-- Outcome of the last check. -/
  isValid : Bool
  /-- A permission is outstanding for this component. -/
  isGranted : Bool
  /-- Where the component is drawn; set by a passing check. -/
  drawn : Option Rect

namespace Component

def kind (c : Component) : Kind := c.labels.kind

def hasText (c : Component) : Bool := c.labels.hasText

def hasIcon (c : Component) : Bool := c.labels.hasIcon

/-- The rectangle that clicks and overlaps are tested against: the drawn one, or the declared one
before any check. -/
def screenRect (c : Component) : Rect := c.drawn.getD c.rect

end Component

end ClickGrant
