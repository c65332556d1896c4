import ClickGrant.Assoc
import ClickGrant.Config.Basic
import ClickGrant.Occlusion
import ClickGrant.Refusal

/-!
# Configured displays

A display and window manager for running without the operating system's: the configured displays,
and a window stack and render scales that can be set. A window nobody set a scale for is drawn at
its own size. Of two displays of one id the later one counts.
-/
set_option autoImplicit false

namespace ClickGrant

/-- Displays and windows. -/
structure ScreenTable where
  displays : Assoc UInt64 Screen
  scales : Assoc Int32 WindowScale
  /-- The windows on screen. -/
  windows : List Window

/-- The bounds of a configured display. -/
def Display.screen (d : Display) : Screen := { width := d.width, height := d.height, circular := d.circular }

namespace ScreenTable

/-- The configured displays without any window. -/
def ofDisplays (ds : List Display) : ScreenTable :=
  { displays := .ofList (ds.map fun d => (d.id, d.screen)), scales := .empty, windows := [] }

/-- The bounds of a display. -/
def screen (t : ScreenTable) (display : UInt64) : Except Outage Screen :=
  match t.displays.get? display with
  | some s => .ok s
  | none => .error { source := .display, reason := s!"unknown display {display}" }

/-- The render scale of a window. -/
def windowScale (t : ScreenTable) (window : Int32) : WindowScale := t.scales.getD window .unscaled

end ScreenTable

end ClickGrant
