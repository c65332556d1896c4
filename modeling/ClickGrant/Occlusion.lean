import ClickGrant.Geometry.Rect

/-!
# Occlusion

Whether another window covers a component. The snapshot lists the windows on screen; a window
covers if its rectangle, as drawn, overlaps the component's and its layer is not below the
component's own window. Windows of UI extensions are exempt: their host answers for them.
-/
set_option autoImplicit false

namespace ClickGrant

/-- A window on screen. -/
structure Window where
  id : Int32
  rect : Rect
  /-- Larger is closer to the user. -/
  layer : Int32
  /-- Scale of a floating window, about its top-left corner. -/
  floatingScale : Float

/-- The rectangle a window is drawn at. A scale that is not positive and finite is not believed:
the window keeps its declared rectangle instead of shrinking out of the way. -/
def Window.effectiveRect (w : Window) : Rect :=
  if w.floatingScale.isFinite && w.floatingScale > 0 then
    w.rect.scaledAbout w.rect.origin w.floatingScale
  else w.rect

/-- Which windows belong to UI extensions. -/
inductive WindowClassifier where
  /-- Those whose id has every bit of the mask; none for an empty mask. -/
  | mask (bits : UInt32)
  /-- Those listed. -/
  | listed (ids : List Int32)

/-- The mask in force unless configured otherwise. -/
def standardExtensionMask : UInt32 := 0x40000000

/-- Whether a window is exempt from the occlusion check. -/
def WindowClassifier.isExtension : WindowClassifier → Int32 → Bool
  | .mask bits, id => bits ≠ 0 && id.toUInt32 &&& bits = bits
  | .listed ids, id => ids.contains id

/-- Why a component counts as covered. -/
inductive Occlusion where
  | windowMissing (window : Int32)
  | coveredBy (window layer ownLayer : Int32)
  deriving DecidableEq, Repr

/-- The wording of a cause. -/
def Occlusion.message : Occlusion → String
  | .windowMissing window => s!"window {window} not found in the window snapshot"
  | .coveredBy window layer ownLayer =>
    s!"covered by window {window} at layer {layer} (own layer {ownLayer})"

namespace WindowClassifier

/-- Whether a window with another id covers `rect` for a component on layer `ownLayer`. -/
def covers (own : Int32) (ownLayer : Int32) (rect : Rect) (w : Window) : Bool :=
  w.id ≠ own && w.effectiveRect.intersects rect && w.layer ≥ ownLayer

/-- The occlusion check for a component of window `window` drawn at `rect`: the first covering
window is reported. -/
def check (classifier : WindowClassifier) (window : Int32) (rect : Rect) (snapshot : List Window) :
    Except Occlusion Unit :=
  if classifier.isExtension window then .ok ()
  else
    match snapshot.find? (·.id = window) with
    | none => .error (.windowMissing window)
    | some own =>
      match snapshot.find? (covers window own.layer rect) with
      | none => .ok ()
      | some w => .error (.coveredBy w.id w.layer own.layer)

/-- Whether the check fails. -/
def isCovered (classifier : WindowClassifier) (window : Int32) (rect : Rect) (snapshot : List Window) :
    Bool :=
  match classifier.check window rect snapshot with
  | .ok _ => false
  | .error _ => true

end WindowClassifier

end ClickGrant
