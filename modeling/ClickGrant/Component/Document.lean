import ClickGrant.Component.Basic
import ClickGrant.Datum.Fields
import ClickGrant.Json.Reader

/-!
# Components as documents

The JSON form in which an application declares a component. The kind is the member `type`, the
labels stand beside the geometry, and the marks of the checks cannot be declared: members of those
names are ignored like any unknown one.

The members outside the geometry and the look are set aside before the labels are looked for, so
all of them must be readable, while an unknown member of a nested structure may hold anything.
-/
set_option autoImplicit false

namespace ClickGrant

open Datum (Conventions)

/-- A rectangle: `x`, `y`, `width`, `height`. -/
def Rect.ofDatum? (d : Datum) : Option Rect := do
  let fs ← d.fields? .json ["x", "y", "width", "height"]
  return { x := ← fs.required "x" Datum.float?, y := ← fs.required "y" Datum.float?
           width := ← fs.required "width" Datum.float?, height := ← fs.required "height" Datum.float? }

/-- Padding: every side is named. -/
def Padding.ofDatum? (d : Datum) : Option Padding := do
  let fs ← d.fields? .json ["top", "right", "bottom", "left"]
  return { top := ← fs.required "top" Datum.float?, right := ← fs.required "right" Datum.float?
           bottom := ← fs.required "bottom" Datum.float?, left := ← fs.required "left" Datum.float? }

/-- Corner radii: every corner is named. -/
def CornerRadii.ofDatum? (d : Datum) : Option CornerRadii := do
  let fs ← d.fields? .json ["top_left", "top_right", "bottom_left", "bottom_right"]
  return { topLeft := ← fs.required "top_left" Datum.float?
           topRight := ← fs.required "top_right" Datum.float?
           bottomLeft := ← fs.required "bottom_left" Datum.float?
           bottomRight := ← fs.required "bottom_right" Datum.float? }

/-- A colour is its ARGB word. -/
def Color.ofDatum? (d : Datum) : Option Color := d.uint32?.map Color.mk

def Background.ofDatum? (d : Datum) : Option Background :=
  d.alternative? .json (named? Background.all Background.name)

def TipPosition.ofDatum? (d : Datum) : Option TipPosition :=
  d.alternative? .json (named? TipPosition.all TipPosition.name)

/-- The names of a look's fields, in declared order. -/
def Look.fieldNames : List String :=
  ["background", "font_size", "icon_size", "text_icon_space", "padding", "border_width",
   "font_color", "icon_color", "bg_color", "border_radius"]

/-- A look; only the three colours are required. -/
def Look.ofDatum? (d : Datum) : Option Look := do
  let fs ← d.fields? .json Look.fieldNames
  return { background := ← fs.withDefault "background" .capsule Background.ofDatum?
           fontSize := ← fs.withDefault "font_size" 0 Datum.float?
           iconSize := ← fs.withDefault "icon_size" 0 Datum.float?
           textIconSpace := ← fs.withDefault "text_icon_space" 0 Datum.float?
           padding := ← fs.withDefault "padding" .zero Padding.ofDatum?
           borderWidth := ← fs.withDefault "border_width" 0 Datum.float?
           fontColor := ← fs.required "font_color" Color.ofDatum?
           iconColor := ← fs.required "icon_color" Color.ofDatum?
           backgroundColor := ← fs.required "bg_color" Color.ofDatum?
           borderRadius := ← fs.optional "border_radius" CornerRadii.ofDatum? }

/-- What ancestors do; nothing unless declared. -/
def ParentEffect.ofDatum? (d : Datum) : Option ParentEffect := do
  let fs ← d.fields? .json ["has_effect", "is_clipped", "clip_rect"]
  return { hasEffect := ← fs.withDefault "has_effect" false Datum.flag?
           isClipped := ← fs.withDefault "is_clipped" false Datum.flag?
           clip := ← fs.optional "clip_rect" Rect.ofDatum? }

/-- A kind's tag: its name, or its position among the kinds. -/
def Kind.ofTag? : Datum → Option Kind
  | .text s => Kind.ofName? s
  | .int n => if 0 ≤ n then Kind.all[n.toNat]? else none
  | _ => none

/-- One label of an enumeration. -/
def labelOf? {α : Type} (all : List α) (name : α → String) (d : Datum) : Option α :=
  d.alternative? .jsonSetAside (named? all name)

/-- The labels among the members set aside. -/
def Labels.ofMembers? (members : List (String × Datum)) : Option Labels := do
  let fs ← Datum.declared ["type", "text", "icon"] members
  match ← fs.required "type" Kind.ofTag? with
  | .location =>
    return .location (← fs.optional "text" (labelOf? LocationText.all LocationText.name))
      (← fs.optional "icon" (labelOf? LocationIcon.all LocationIcon.name))
  | .paste =>
    return .paste (← fs.optional "text" (labelOf? PasteText.all PasteText.name))
      (← fs.optional "icon" (labelOf? PasteIcon.all PasteIcon.name))
  | .save =>
    return .save (← fs.optional "text" (labelOf? SaveText.all SaveText.name))
      (← fs.optional "icon" (labelOf? SaveIcon.all SaveIcon.name))

namespace Component

/-- The members read as they come. -/
def fieldNames : List String :=
  ["rect", "window_rect", "window_id", "display_id", "cross_axis", "tip_position", "style",
   "parent_effect"]

/-- A declared component. It starts unchecked and without a grant. -/
def ofDatum? : Datum → Option Component
  | .record members => do
    let aside := members.filter fun m => !fieldNames.contains m.1
    if aside.any (fun m => !m.2.readable (nestingLimit - 1)) then none
    else do
      let fs ← Datum.declared fieldNames members
      return { labels := ← Labels.ofMembers? aside
               rect := ← fs.required "rect" Rect.ofDatum?
               windowRect := ← fs.required "window_rect" Rect.ofDatum?
               windowId := ← fs.withDefault "window_id" 0 Datum.int32?
               displayId := ← fs.withDefault "display_id" 0 Datum.uint64?
               crossAxis := ← fs.withDefault "cross_axis" false Datum.flag?
               tipPosition := ← fs.optional "tip_position" TipPosition.ofDatum?
               look := ← fs.required "style" Look.ofDatum?
               parentEffect := ← fs.withDefault "parent_effect" .none ParentEffect.ofDatum?
               isValid := false
               isGranted := false
               drawn := none }
  | _ => none

/-- The component a text declares. -/
def ofText? (text : String) : Option Component := (Json.readText text).bind ofDatum?

end Component

end ClickGrant
