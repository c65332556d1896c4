import ClickGrant.Decimal.Text

/-!
# Why a component is invalid

One cause per way a component can fail its check, with the group of rules the cause belongs to and
its wording.
-/
set_option autoImplicit false

namespace ClickGrant

/-- Which rectangle is malformed. -/
inductive RectRole where
  | component | window
  deriving DecidableEq, Repr

/-- Groups of validity rules. -/
inductive ValidityGroup where
  | bounds | parentEffect | size | contrast
  deriving DecidableEq, Repr

/-- The name of a group. -/
def ValidityGroup.name : ValidityGroup → String
  | .bounds => "bounds"
  | .parentEffect => "parent_effect"
  | .size => "size"
  | .contrast => "contrast"

/-- Why a component is invalid. -/
inductive Invalidity where
  | invalidRect (role : RectRole)
  | invalidScreen (width height : Float)
  | invalidWindowScale (scale : Float)
  | outOfWindow
  | outOfScreen
  | outsideRoundScreen
  | tooLarge (percent : Float)
  | parentEffect
  | clipped
  | noTextOrIcon
  | borderlessPadding (expected : Float)
  | paddingTooSmall (least : Float)
  | textIconSpaceTooSmall (space least : Float)
  | fontTooSmall (size least : Float)
  | iconTooSmall (size least : Float)
  | invalidBorderWidth (width : Float)
  | fontTooTransparent (alpha : UInt8)
  | iconTooTransparent (alpha : UInt8)
  | fontContrast
  | iconContrast
  deriving Repr

def RectRole.name : RectRole → String
  | .component => "component rect"
  | .window => "window rect"

/-- `0x` and two lower-case hexadecimal digits. -/
def hexByte (b : UInt8) : String :=
  String.ofList ['0', 'x', Nat.digitChar (b.toNat / 16), Nat.digitChar (b.toNat % 16)]

namespace Invalidity

/-- The group of rules that a cause belongs to. -/
def group : Invalidity → ValidityGroup
  | invalidRect _ | invalidScreen .. | invalidWindowScale _ | outOfWindow | outOfScreen
  | outsideRoundScreen | tooLarge _ => .bounds
  | parentEffect | clipped => .parentEffect
  | noTextOrIcon | borderlessPadding _ | paddingTooSmall _ | textIconSpaceTooSmall .. | fontTooSmall ..
  | iconTooSmall .. | invalidBorderWidth _ => .size
  | fontTooTransparent _ | iconTooTransparent _ | fontContrast | iconContrast => .contrast

/-- The wording of a cause. -/
def message : Invalidity → String
  | invalidRect role => role.name ++ " is not positive and finite"
  | invalidScreen w h => "screen size " ++ showFloat w ++ "x" ++ showFloat h ++ " is not positive and finite"
  | invalidWindowScale s => "window scale " ++ showFloat s ++ " is not positive and finite"
  | outOfWindow => "component rect is outside its window rect"
  | outOfScreen => "component rect is outside the screen"
  | outsideRoundScreen => "component corner is outside the round screen"
  | tooLarge percent => "component covers " ++ Decimal.fixed 1 percent ++ "% of the screen"
  | parentEffect => "ancestor applies a visual effect"
  | clipped => "ancestor clip hides part of the component"
  | noTextOrIcon => "component has neither text nor icon"
  | borderlessPadding expected => "borderless component padding must be exactly " ++ showFloat expected
  | paddingTooSmall least => "padding is smaller than " ++ showFloat least
  | textIconSpaceTooSmall space least =>
    "text-icon space " ++ showFloat space ++ " is smaller than " ++ showFloat least
  | fontTooSmall size least => "font size " ++ showFloat size ++ " is smaller than " ++ showFloat least
  | iconTooSmall size least => "icon size " ++ showFloat size ++ " is smaller than " ++ showFloat least
  | invalidBorderWidth width => "border width " ++ showFloat width ++ " is invalid"
  | fontTooTransparent alpha => "font color is too transparent (alpha " ++ hexByte alpha ++ ")"
  | iconTooTransparent alpha => "icon color is too transparent (alpha " ++ hexByte alpha ++ ")"
  | fontContrast => "font color is too similar to the background color"
  | iconContrast => "icon color is too similar to the background color"

end Invalidity

end ClickGrant
