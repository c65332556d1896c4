import ClickGrant.Config.Document
import ClickGrant.Proofs.Datum
import ClickGrant.Proofs.Toml.Tables

/-!
# What a configuration's data say

`Config.datum` is the data that a configuration is printed as: a record with a table for each group of
settings, in the order in which they are printed. Reading these data gives back the configuration they
were made from (`Config.ofDatum?_datum`): every declared name is found, once, with a value of its own
sort, so no default is ever used.
-/
set_option autoImplicit false

namespace ClickGrant

open Datum (Conventions Fields)

/-! ## The groups of settings -/

def Logging.members (l : Logging) : List (String × Datum) :=
  ("log_level", .text l.level) ::
    match l.file with
    | some f => [("log_file", .text f.text)]
    | none => []

def Timing.members (t : Timing) : List (String × Datum) :=
  [("click_window_ms", .int t.clickWindow.toNat), ("save_revoke_delay_ms", .int t.saveRevokeDelay.toNat),
   ("background_revoke_delay_ms", .int t.backgroundRevokeDelay.toNat),
   ("service_exit_delay_ms", .int t.serviceExitDelay.toNat)]

def Limits.members (l : Limits) : List (String × Datum) :=
  [("max_components_per_process", .int l.maxComponentsPerProcess.toNat),
   ("max_extra_info_len", .int l.maxExtraLength.toNat), ("max_info_len", .int l.maxInfoLength.toNat),
   ("require_extra_info", .flag l.requireExtra)]

def ValidityPolicy.members (p : ValidityPolicy) : List (String × Datum) :=
  [("min_font_size_without_icon", .real p.minFontSizeWithoutIcon),
   ("min_font_size_with_icon", .real p.minFontSizeWithIcon), ("min_icon_size", .real p.minIconSize),
   ("min_padding", .real p.minPadding), ("borderless_padding", .real p.borderlessPadding),
   ("min_text_icon_space", .real p.minTextIconSpace), ("min_visible_alpha", .int p.minVisibleAlpha.toNat),
   ("color_distance_threshold", .real p.colorDistanceThreshold),
   ("background_dominance_ratio", .real p.backgroundDominanceRatio),
   ("max_screen_area_ratio", .real p.maxScreenAreaRatio), ("epsilon", .real p.epsilon)]

def extensionMaskMembers (mask : UInt32) : List (String × Datum) := [("ui_extension_mask", .int mask.toNat)]

def ConsentSettings.members (s : ConsentSettings) : List (String × Datum) :=
  [("file", .text s.file.text), ("required_kinds", .list (s.requiredKinds.map fun kind => .text kind.name))]

def Display.members (d : Display) : List (String × Datum) :=
  [("id", .int d.id.toNat), ("width", .real d.width), ("height", .real d.height),
   ("circular", .flag d.circular)]

/-- The tables, in the order in which they are printed. -/
def Config.groups (c : Config) : List (String × List (String × Datum)) :=
  [("daemon", c.logging.members), ("timing", c.timing.members), ("limits", c.limits.members),
   ("validation", c.validity.members), ("occlusion", extensionMaskMembers c.extensionMask),
   ("consent", c.consent.members)]

/-- Displays are a table each; if there are none, an empty array stands before the tables. -/
def Config.members (c : Config) : List (String × Datum) :=
  (if c.displays.isEmpty then [("displays", .list [])] else []) ++
    c.groups.map (fun g => (g.1, .record g.2)) ++
    Toml.itemsMember "displays" (c.displays.map Display.members)

def Config.datum (c : Config) : Datum := .record c.members

/-! ## Reading them -/

section

variable (c : Conventions)

theorem Logging.ofDatum?_members (l : Logging) : Logging.ofDatum? c (.record l.members) = some l := by
  obtain ⟨level, _ | file⟩ := l <;>
    rw [Logging.ofDatum?, Datum.fields?_self c (by simp [members]) (by simp [members])] <;>
    simp [members, Datum.text?, Path.ofDatum?]

theorem Timing.ofDatum?_members (t : Timing) : Timing.ofDatum? c (.record t.members) = some t := by
  rw [Timing.ofDatum?, Datum.fields?_self c (by simp [members]) (by simp [members])]
  simp [members, Datum.uint64?_toNat]

theorem Limits.ofDatum?_members (l : Limits) : Limits.ofDatum? c (.record l.members) = some l := by
  rw [Limits.ofDatum?, Datum.fields?_self c (by simp [members]) (by simp [members])]
  simp [members, Datum.uint64?_toNat, Datum.flag?]

theorem ValidityPolicy.ofDatum?_members (p : ValidityPolicy) :
    ValidityPolicy.ofDatum? c (.record p.members) = some p := by
  rw [ValidityPolicy.ofDatum?, Datum.fields?_self c (by simp [members]) (by simp [members, fieldNames])]
  simp [members, Datum.uint8?_toNat, Datum.float?]

theorem extensionMaskOf?_members (mask : UInt32) :
    extensionMaskOf? c (.record (extensionMaskMembers mask)) = some mask := by
  rw [extensionMaskOf?,
    Datum.fields?_self c (by simp [extensionMaskMembers]) (by simp [extensionMaskMembers])]
  simp [extensionMaskMembers, Datum.uint32?_toNat]

theorem Kind.ofDatum?_name (kind : Kind) : Kind.ofDatum? c (.text kind.name) = some kind := by
  show Kind.ofName? kind.name = _
  cases kind <;> decide

theorem ConsentSettings.ofDatum?_members (s : ConsentSettings) :
    ConsentSettings.ofDatum? c (.record s.members) = some s := by
  have kinds := Datum.list?_map (Kind.ofDatum?_name c) s.requiredKinds
  rw [List.map_id'] at kinds
  rw [ConsentSettings.ofDatum?, Datum.fields?_self c (by simp [members]) (by simp [members])]
  simp [members, Datum.text?, Path.ofDatum?, kinds]

theorem Display.ofDatum?_members (d : Display) : Display.ofDatum? c (.record d.members) = some d := by
  rw [Display.ofDatum?, Datum.fields?_self c (by simp [members]) (by simp [members])]
  simp [members, Datum.uint64?_toNat, Datum.float?, Datum.flag?]

end

namespace Config

variable (c : Config)

/-- With displays or without, every name is there once. -/
theorem fields?_datum (conventions : Conventions) :
    c.datum.fields? conventions
        ["daemon", "timing", "limits", "validation", "occlusion", "consent", "displays"] =
      some c.members := by
  obtain ⟨logging, timing, limits, validity, extensionMask, consent, displays⟩ := c
  refine Datum.fields?_self conventions ?_ ?_ <;> cases displays <;> simp [members, groups, Toml.itemsMember]

theorem get?_displays :
    Fields.get? c.members "displays" = some (.list (c.displays.map fun d => .record d.members)) := by
  obtain ⟨logging, timing, limits, validity, extensionMask, consent, displays⟩ := c
  cases displays <;> simp [members, groups, Toml.itemsMember]

theorem get?_group {g : String × List (String × Datum)} (member : g ∈ c.groups) :
    Fields.get? c.members g.1 = some (.record g.2) := by
  obtain ⟨logging, timing, limits, validity, extensionMask, consent, displays⟩ := c
  simp only [groups, List.mem_cons, List.not_mem_nil, or_false] at member
  rcases member with rfl | rfl | rfl | rfl | rfl | rfl <;> cases displays <;>
    simp [members, groups, Toml.itemsMember]

/-- Reading the data of a configuration gives back the configuration. -/
theorem ofDatum?_datum (conventions : Conventions) : ofDatum? conventions c.datum = some c := by
  have displays := Datum.list?_map (Display.ofDatum?_members conventions) c.displays
  rw [List.map_id'] at displays
  have daemon := c.get?_group (g := ("daemon", c.logging.members)) (by simp [groups])
  have timing := c.get?_group (g := ("timing", c.timing.members)) (by simp [groups])
  have limits := c.get?_group (g := ("limits", c.limits.members)) (by simp [groups])
  have validation := c.get?_group (g := ("validation", c.validity.members)) (by simp [groups])
  have occlusion := c.get?_group (g := ("occlusion", extensionMaskMembers c.extensionMask)) (by simp [groups])
  have consent := c.get?_group (g := ("consent", c.consent.members)) (by simp [groups])
  rw [ofDatum?, fields?_datum]
  simp [Fields.withDefault, c.get?_displays, displays, daemon, timing, limits, validation, occlusion, consent,
    Logging.ofDatum?_members, Timing.ofDatum?_members, Limits.ofDatum?_members, ValidityPolicy.ofDatum?_members,
    extensionMaskOf?_members, ConsentSettings.ofDatum?_members]

end Config

end ClickGrant
