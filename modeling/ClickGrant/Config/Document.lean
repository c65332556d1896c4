import ClickGrant.Config.Basic
import ClickGrant.Datum.Fields
import ClickGrant.Json.Reader
import ClickGrant.Toml.Printer
import ClickGrant.Toml.Reader

/-!
# Configuration documents

A configuration is read from TOML or JSON and written as TOML. Every setting may be left out, and
unknown ones are ignored. The written form shows every setting: first the displays if there are
none, then the tables in a fixed order, then one table for each display.

TOML holds 64-bit signed whole numbers, so a configuration with a larger one cannot be written.
-/
set_option autoImplicit false

namespace ClickGrant

open Datum (Conventions Fields)

/-- Why a text is no configuration. -/
inductive ConfigError where
  /-- The text is malformed, or a setting has a value of the wrong sort. -/
  | malformed
  | refused (fault : ConfigFault)

/-- A path is a text. -/
def Path.ofDatum? (d : Datum) : Option Path := d.text?.map Path.mk

/-- The kinds' names, as alternatives. -/
def Kind.ofDatum? (c : Conventions) (d : Datum) : Option Kind := d.alternative? c Kind.ofName?

def Logging.ofDatum? (c : Conventions) (d : Datum) : Option Logging := do
  let fs ← d.fields? c ["log_level", "log_file"]
  return { level := ← fs.withDefault "log_level" Logging.standard.level Datum.text?
           file := ← fs.optional "log_file" Path.ofDatum? }

def Timing.ofDatum? (c : Conventions) (d : Datum) : Option Timing := do
  let s := Timing.standard
  let fs ← d.fields? c
    ["click_window_ms", "save_revoke_delay_ms", "background_revoke_delay_ms", "service_exit_delay_ms"]
  return { clickWindow := ← fs.withDefault "click_window_ms" s.clickWindow Datum.uint64?
           saveRevokeDelay := ← fs.withDefault "save_revoke_delay_ms" s.saveRevokeDelay Datum.uint64?
           backgroundRevokeDelay :=
             ← fs.withDefault "background_revoke_delay_ms" s.backgroundRevokeDelay Datum.uint64?
           serviceExitDelay := ← fs.withDefault "service_exit_delay_ms" s.serviceExitDelay Datum.uint64? }

def Limits.ofDatum? (c : Conventions) (d : Datum) : Option Limits := do
  let s := Limits.standard
  let fs ← d.fields? c
    ["max_components_per_process", "max_extra_info_len", "max_info_len", "require_extra_info"]
  return { maxComponentsPerProcess :=
             ← fs.withDefault "max_components_per_process" s.maxComponentsPerProcess Datum.uint64?
           maxExtraLength := ← fs.withDefault "max_extra_info_len" s.maxExtraLength Datum.uint64?
           maxInfoLength := ← fs.withDefault "max_info_len" s.maxInfoLength Datum.uint64?
           requireExtra := ← fs.withDefault "require_extra_info" s.requireExtra Datum.flag? }

/-- The names of the thresholds, in declared order. -/
def ValidityPolicy.fieldNames : List String :=
  ["min_font_size_without_icon", "min_font_size_with_icon", "min_icon_size", "min_padding",
   "borderless_padding", "min_text_icon_space", "min_visible_alpha", "color_distance_threshold",
   "background_dominance_ratio", "max_screen_area_ratio", "epsilon"]

def ValidityPolicy.ofDatum? (c : Conventions) (d : Datum) : Option ValidityPolicy := do
  let s := ValidityPolicy.standard
  let fs ← d.fields? c ValidityPolicy.fieldNames
  return { minFontSizeWithoutIcon :=
             ← fs.withDefault "min_font_size_without_icon" s.minFontSizeWithoutIcon Datum.float?
           minFontSizeWithIcon := ← fs.withDefault "min_font_size_with_icon" s.minFontSizeWithIcon Datum.float?
           minIconSize := ← fs.withDefault "min_icon_size" s.minIconSize Datum.float?
           minPadding := ← fs.withDefault "min_padding" s.minPadding Datum.float?
           borderlessPadding := ← fs.withDefault "borderless_padding" s.borderlessPadding Datum.float?
           minTextIconSpace := ← fs.withDefault "min_text_icon_space" s.minTextIconSpace Datum.float?
           minVisibleAlpha := ← fs.withDefault "min_visible_alpha" s.minVisibleAlpha Datum.uint8?
           colorDistanceThreshold :=
             ← fs.withDefault "color_distance_threshold" s.colorDistanceThreshold Datum.float?
           backgroundDominanceRatio :=
             ← fs.withDefault "background_dominance_ratio" s.backgroundDominanceRatio Datum.float?
           maxScreenAreaRatio := ← fs.withDefault "max_screen_area_ratio" s.maxScreenAreaRatio Datum.float?
           epsilon := ← fs.withDefault "epsilon" s.epsilon Datum.float? }

/-- The table `occlusion` holds the mask alone. -/
def extensionMaskOf? (c : Conventions) (d : Datum) : Option UInt32 := do
  let fs ← d.fields? c ["ui_extension_mask"]
  fs.withDefault "ui_extension_mask" standardExtensionMask Datum.uint32?

def ConsentSettings.ofDatum? (c : Conventions) (d : Datum) : Option ConsentSettings := do
  let s := ConsentSettings.standard
  let fs ← d.fields? c ["file", "required_kinds"]
  return { file := ← fs.withDefault "file" s.file Path.ofDatum?
           requiredKinds :=
             ← fs.withDefault "required_kinds" s.requiredKinds (Datum.list? (Kind.ofDatum? c)) }

def Display.ofDatum? (c : Conventions) (d : Datum) : Option Display := do
  let fs ← d.fields? c ["id", "width", "height", "circular"]
  return { id := ← fs.required "id" Datum.uint64?
           width := ← fs.required "width" Datum.float?
           height := ← fs.required "height" Datum.float?
           circular := ← fs.withDefault "circular" false Datum.flag? }

namespace Config

/-- The configuration that data describe, not yet validated. -/
def ofDatum? (c : Conventions) (d : Datum) : Option Config := do
  let s := Config.standard
  let fs ← d.fields? c ["daemon", "timing", "limits", "validation", "occlusion", "consent", "displays"]
  return { logging := ← fs.withDefault "daemon" s.logging (Logging.ofDatum? c)
           timing := ← fs.withDefault "timing" s.timing (Timing.ofDatum? c)
           limits := ← fs.withDefault "limits" s.limits (Limits.ofDatum? c)
           validity := ← fs.withDefault "validation" s.validity (ValidityPolicy.ofDatum? c)
           extensionMask := ← fs.withDefault "occlusion" s.extensionMask (extensionMaskOf? c)
           consent := ← fs.withDefault "consent" s.consent (ConsentSettings.ofDatum? c)
           displays := ← fs.withDefault "displays" s.displays (Datum.list? (Display.ofDatum? c)) }

/-- Data read and validated. -/
def ofDatum (c : Conventions) (d : Option Datum) : Except ConfigError Config :=
  match d.bind (ofDatum? c) with
  | none => .error .malformed
  | some config =>
    match config.validate with
    | .ok _ => .ok config
    | .error fault => .error (.refused fault)

/-- The configuration a TOML document describes. -/
def ofToml (text : String) : Except ConfigError Config := ofDatum .toml (Toml.read text)

/-- The configuration a JSON document describes. -/
def ofJson (text : String) : Except ConfigError Config := ofDatum .json (Json.readText text)

/-- Whether every whole number fits TOML's. -/
def writable (c : Config) : Bool :=
  [c.timing.clickWindow, c.timing.saveRevokeDelay, c.timing.backgroundRevokeDelay,
   c.timing.serviceExitDelay, c.limits.maxComponentsPerProcess, c.limits.maxExtraLength,
   c.limits.maxInfoLength].all (·.toNat < Nat.pow 2 63) && c.displays.all (·.id.toNat < Nat.pow 2 63)

/-- A table's header line. -/
def header (name : String) : List Char := '[' :: name.toList ++ [']', '\n']

def loggingChars (l : Logging) : List Char :=
  header "daemon" ++ Toml.assignment "log_level" (Toml.quoted l.level)
    ++ (match l.file with
      | some f => Toml.assignment "log_file" (Toml.quoted f.text)
      | none => [])

def timingChars (t : Timing) : List Char :=
  header "timing"
    ++ Toml.assignment "click_window_ms" (Toml.natural t.clickWindow.toNat)
    ++ Toml.assignment "save_revoke_delay_ms" (Toml.natural t.saveRevokeDelay.toNat)
    ++ Toml.assignment "background_revoke_delay_ms" (Toml.natural t.backgroundRevokeDelay.toNat)
    ++ Toml.assignment "service_exit_delay_ms" (Toml.natural t.serviceExitDelay.toNat)

def limitsChars (l : Limits) : List Char :=
  header "limits"
    ++ Toml.assignment "max_components_per_process" (Toml.natural l.maxComponentsPerProcess.toNat)
    ++ Toml.assignment "max_extra_info_len" (Toml.natural l.maxExtraLength.toNat)
    ++ Toml.assignment "max_info_len" (Toml.natural l.maxInfoLength.toNat)
    ++ Toml.assignment "require_extra_info" (Toml.bool l.requireExtra)

def validityChars (p : ValidityPolicy) : List Char :=
  header "validation"
    ++ Toml.assignment "min_font_size_without_icon" (Toml.float p.minFontSizeWithoutIcon)
    ++ Toml.assignment "min_font_size_with_icon" (Toml.float p.minFontSizeWithIcon)
    ++ Toml.assignment "min_icon_size" (Toml.float p.minIconSize)
    ++ Toml.assignment "min_padding" (Toml.float p.minPadding)
    ++ Toml.assignment "borderless_padding" (Toml.float p.borderlessPadding)
    ++ Toml.assignment "min_text_icon_space" (Toml.float p.minTextIconSpace)
    ++ Toml.assignment "min_visible_alpha" (Toml.natural p.minVisibleAlpha.toNat)
    ++ Toml.assignment "color_distance_threshold" (Toml.float p.colorDistanceThreshold)
    ++ Toml.assignment "background_dominance_ratio" (Toml.float p.backgroundDominanceRatio)
    ++ Toml.assignment "max_screen_area_ratio" (Toml.float p.maxScreenAreaRatio)
    ++ Toml.assignment "epsilon" (Toml.float p.epsilon)

def extensionMaskChars (mask : UInt32) : List Char :=
  header "occlusion" ++ Toml.assignment "ui_extension_mask" (Toml.natural mask.toNat)

def consentChars (c : ConsentSettings) : List Char :=
  header "consent" ++ Toml.assignment "file" (Toml.quoted c.file.text)
    ++ Toml.assignment "required_kinds" (Toml.stringArray (c.requiredKinds.map Kind.name))

def displayChars (d : Display) : List Char :=
  "\n[[displays]]\n".toList
    ++ Toml.assignment "id" (Toml.natural d.id.toNat)
    ++ Toml.assignment "width" (Toml.float d.width)
    ++ Toml.assignment "height" (Toml.float d.height)
    ++ Toml.assignment "circular" (Toml.bool d.circular)

/-- The characters of the written form. -/
def tomlChars (c : Config) : List Char :=
  (if c.displays.isEmpty then "displays = []\n\n".toList else [])
    ++ loggingChars c.logging ++ ['\n']
    ++ timingChars c.timing ++ ['\n']
    ++ limitsChars c.limits ++ ['\n']
    ++ validityChars c.validity ++ ['\n']
    ++ extensionMaskChars c.extensionMask ++ ['\n']
    ++ consentChars c.consent
    ++ c.displays.flatMap displayChars

/-- The written form, if there is one. -/
def toToml? (c : Config) : Option String := if c.writable then some (String.ofList c.tomlChars) else none

end Config

end ClickGrant
