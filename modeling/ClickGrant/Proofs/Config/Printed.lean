import ClickGrant.Proofs.Config.Members
import ClickGrant.Proofs.Toml.Lines

/-!
# The printed configuration

The text of a configuration is, line by line, the statements that make its data (`spells_tomlChars`),
so the reader finds these data (`read_tomlChars`). Its whole numbers have to fit the format, and the
decimal texts of its floats have to read back: `Config.floats` are the floats that are printed.
-/
set_option autoImplicit false

namespace ClickGrant

open Toml (Spells Written depthLimit tableGroup itemGroup assignments)

variable {name : String} {cs : List Char} {d : Datum}

theorem spells_header (bare : Toml.Bare name) : Spells (Config.header name) [.header [name]] := by
  have line := Spells.line (Toml.line_header bare) .nil
  rw [List.append_assoc] at line
  exact line

theorem spells_assignment (bare : Toml.Bare name) (written : Written depthLimit cs d) :
    Spells (Toml.assignment name cs) [.assign [name] d] :=
  .line (Toml.line_assignment bare written) .nil

/-- One more assignment. -/
theorem Toml.Spells.assign {before : List Char} {ss : List Toml.Statement} (spells : Spells before ss)
    (bare : Toml.Bare name) (written : Written depthLimit cs d) :
    Spells (before ++ Toml.assignment name cs) (ss ++ [.assign [name] d]) :=
  spells.append (spells_assignment bare written)

/-- Whether a float is found again in its decimal text. -/
def ReadsBack (x : Float) : Prop := Toml.float? (Toml.float x) = some x

instance (x : Float) : Decidable (ReadsBack x) := inferInstanceAs (Decidable (_ = _))

/-! ## Each group of settings -/

/-- The whole numbers of a group that may be too large for the format. -/
def Timing.words (t : Timing) : List UInt64 :=
  [t.clickWindow, t.saveRevokeDelay, t.backgroundRevokeDelay, t.serviceExitDelay]

def Limits.words (l : Limits) : List UInt64 := [l.maxComponentsPerProcess, l.maxExtraLength, l.maxInfoLength]

def ValidityPolicy.floats (p : ValidityPolicy) : List Float :=
  [p.minFontSizeWithoutIcon, p.minFontSizeWithIcon, p.minIconSize, p.minPadding, p.borderlessPadding,
   p.minTextIconSpace, p.colorDistanceThreshold, p.backgroundDominanceRatio, p.maxScreenAreaRatio, p.epsilon]

namespace Config

theorem spells_logging (l : Logging) : Spells (loggingChars l) (tableGroup ("daemon", l.members)) := by
  obtain ⟨level, file⟩ := l
  have first : Spells (header "daemon" ++ Toml.assignment "log_level" (Toml.quoted level))
      (tableGroup ("daemon", [("log_level", .text level)])) :=
    (spells_header (by decide)).assign (by decide) (Toml.written_quoted depthLimit level)
  cases file with
  | none => exact first.append .nil
  | some f => exact first.assign (by decide) (Toml.written_quoted depthLimit f.text)

theorem spells_timing (t : Timing) (small : ∀ n ∈ t.words, n.toNat < Nat.pow 2 63) :
    Spells (timingChars t) (tableGroup ("timing", t.members)) := by
  have written {n : UInt64} (member : n ∈ t.words) :
      Written depthLimit (Toml.natural n.toNat) (.int n.toNat) :=
    Toml.written_natural depthLimit (small n member)
  exact spells_header (by decide)
    |>.assign (by decide) (written (by simp [Timing.words]))
    |>.assign (by decide) (written (by simp [Timing.words]))
    |>.assign (by decide) (written (by simp [Timing.words]))
    |>.assign (by decide) (written (by simp [Timing.words]))

theorem spells_limits (l : Limits) (small : ∀ n ∈ l.words, n.toNat < Nat.pow 2 63) :
    Spells (limitsChars l) (tableGroup ("limits", l.members)) := by
  have written {n : UInt64} (member : n ∈ l.words) :
      Written depthLimit (Toml.natural n.toNat) (.int n.toNat) :=
    Toml.written_natural depthLimit (small n member)
  exact spells_header (by decide)
    |>.assign (by decide) (written (by simp [Limits.words]))
    |>.assign (by decide) (written (by simp [Limits.words]))
    |>.assign (by decide) (written (by simp [Limits.words]))
    |>.assign (by decide) (Toml.written_bool depthLimit l.requireExtra)

theorem spells_validity (p : ValidityPolicy) (exact_floats : ∀ x ∈ p.floats, ReadsBack x) :
    Spells (validityChars p) (tableGroup ("validation", p.members)) := by
  have written {x : Float} (member : x ∈ p.floats) : Written depthLimit (Toml.float x) (.real x) :=
    Toml.written_float depthLimit (exact_floats x member)
  have alpha : p.minVisibleAlpha.toNat < Nat.pow 2 63 := Nat.lt_trans p.minVisibleAlpha.toNat_lt (by decide)
  exact spells_header (by decide)
    |>.assign (by decide) (written (by simp [ValidityPolicy.floats]))
    |>.assign (by decide) (written (by simp [ValidityPolicy.floats]))
    |>.assign (by decide) (written (by simp [ValidityPolicy.floats]))
    |>.assign (by decide) (written (by simp [ValidityPolicy.floats]))
    |>.assign (by decide) (written (by simp [ValidityPolicy.floats]))
    |>.assign (by decide) (written (by simp [ValidityPolicy.floats]))
    |>.assign (by decide) (Toml.written_natural depthLimit alpha)
    |>.assign (by decide) (written (by simp [ValidityPolicy.floats]))
    |>.assign (by decide) (written (by simp [ValidityPolicy.floats]))
    |>.assign (by decide) (written (by simp [ValidityPolicy.floats]))
    |>.assign (by decide) (written (by simp [ValidityPolicy.floats]))

theorem spells_extensionMask (mask : UInt32) :
    Spells (extensionMaskChars mask) (tableGroup ("occlusion", extensionMaskMembers mask)) :=
  have small : mask.toNat < Nat.pow 2 63 := Nat.lt_trans mask.toNat_lt (by decide)
  (spells_header (by decide)).assign (by decide) (Toml.written_natural depthLimit small)

theorem spells_consent (s : ConsentSettings) :
    Spells (consentChars s) (tableGroup ("consent", s.members)) := by
  have kinds : Written depthLimit (Toml.stringArray (s.requiredKinds.map Kind.name))
      (.list (s.requiredKinds.map fun kind => .text kind.name)) := by
    have written := Toml.written_stringArray 78 (s.requiredKinds.map Kind.name)
    rw [List.map_map] at written
    exact written
  exact (spells_header (by decide)).assign (by decide) (Toml.written_quoted depthLimit s.file.text)
    |>.assign (by decide) kinds

theorem spells_display (d : Display) (small : d.id.toNat < Nat.pow 2 63)
    (exact_floats : ReadsBack d.width ∧ ReadsBack d.height) :
    Spells (displayChars d) (itemGroup "displays" d.members) := by
  have header : Spells "\n[[displays]]\n".toList [.arrayHeader ["displays"]] := by
    have text : "\n[[displays]]\n".toList =
        '\n' :: ('[' :: '[' :: "displays".toList ++ [']', ']'] ++ ['\n']) := by
      decide
    rw [text]
    exact .blank (.line (Toml.line_arrayHeader (by decide)) .nil)
  exact header.assign (by decide) (Toml.written_natural depthLimit small)
    |>.assign (by decide) (Toml.written_float depthLimit exact_floats.1)
    |>.assign (by decide) (Toml.written_float depthLimit exact_floats.2)
    |>.assign (by decide) (Toml.written_bool depthLimit d.circular)

/-! ## The whole text -/

/-- The floats of a configuration. -/
def floats (c : Config) : List Float := c.validity.floats ++ c.displays.flatMap fun d => [d.width, d.height]

/-- The assignments in front of the tables. -/
def topMembers (c : Config) : List (String × Datum) :=
  if c.displays.isEmpty then [("displays", .list [])] else []

/-- The statements that the text is made of. -/
def statements (c : Config) : List Toml.Statement :=
  assignments c.topMembers ++ c.groups.flatMap tableGroup ++
    (c.displays.map Display.members).flatMap (itemGroup "displays")

theorem writable_iff {c : Config} : c.writable = true ↔
    (∀ n ∈ c.timing.words ++ c.limits.words, n.toNat < Nat.pow 2 63) ∧
    ∀ d ∈ c.displays, d.id.toNat < Nat.pow 2 63 := by
  simp [writable, Timing.words, Limits.words]

/-- The text is these statements, a blank line between the groups. -/
theorem spells_tomlChars {c : Config} (writable : c.writable = true)
    (exact_floats : ∀ x ∈ c.floats, ReadsBack x) :
    Spells c.tomlChars c.statements := by
  obtain ⟨words, ids⟩ := writable_iff.mp writable
  have top : Spells (if c.displays.isEmpty then "displays = []\n\n".toList else [])
      (assignments c.topMembers) := by
    unfold topMembers
    split
    next =>
      have text : "displays = []\n\n".toList =
          "displays".toList ++ " = ".toList ++ ['[', ']'] ++ '\n' :: ['\n'] := by
        decide
      rw [text]
      exact .line (Toml.line_assignment (by decide) (Toml.written_stringArray 78 [])) (.blank .nil)
    next => exact .nil
  have gap {cs : List Char} {ss : List Toml.Statement} (spells : Spells cs ss) :
      Spells (cs ++ ['\n']) ss := by
    have longer := spells.append (.blank .nil)
    rwa [List.append_nil] at longer
  have displays : Spells (c.displays.flatMap displayChars)
      (c.displays.flatMap fun d => itemGroup "displays" d.members) := by
    refine Spells.flatMap c.displays fun d member => spells_display d (ids d member) ⟨?_, ?_⟩
    · exact exact_floats _ (List.mem_append_right _ (List.mem_flatMap.mpr ⟨d, member, by simp⟩))
    · exact exact_floats _ (List.mem_append_right _ (List.mem_flatMap.mpr ⟨d, member, by simp⟩))
  have whole := top
    |>.append (spells_logging c.logging) |> gap
    |>.append (spells_timing c.timing fun n member => words n (List.mem_append_left _ member)) |> gap
    |>.append (spells_limits c.limits fun n member => words n (List.mem_append_right _ member)) |> gap
    |>.append (spells_validity c.validity fun x member => exact_floats x (List.mem_append_left _ member)) |> gap
    |>.append (spells_extensionMask c.extensionMask) |> gap
    |>.append (spells_consent c.consent)
    |>.append displays
  simp only [List.append_assoc] at whole
  simp only [tomlChars, statements, groups, List.flatMap_cons, List.flatMap_nil, List.flatMap_map, List.append_assoc,
    List.nil_append]
  exact whole

/-- The reader finds the configuration's data in the text. -/
theorem read_tomlChars {c : Config} (writable : c.writable = true)
    (exact_floats : ∀ x ∈ c.floats, ReadsBack x) :
    Toml.read (String.ofList c.tomlChars) = some c.datum := by
  have keys : (c.topMembers.map Prod.fst ++ c.groups.map Prod.fst).Nodup ∧
      (c.displays.map Display.members ≠ [] →
        "displays" ∉ c.topMembers.map Prod.fst ++ c.groups.map Prod.fst) := by
    obtain ⟨logging, timing, limits, validity, extensionMask, consent, displays⟩ := c
    cases displays <;> simp [topMembers, groups]
  have groups : ∀ g ∈ c.groups, Toml.Distinct g.2 := by
    intro g member
    simp only [groups, List.mem_cons, List.not_mem_nil, or_false] at member
    rcases member with rfl | rfl | rfl | rfl | rfl | rfl
    · obtain ⟨level, _ | file⟩ := c.logging <;> simp [Toml.Distinct, Logging.members]
    · simp [Toml.Distinct, Timing.members]
    · simp [Toml.Distinct, Limits.members]
    · simp [Toml.Distinct, ValidityPolicy.members]
    · simp [Toml.Distinct, extensionMaskMembers]
    · simp [Toml.Distinct, ConsentSettings.members]
  have items : ∀ fields ∈ c.displays.map Display.members, Toml.Distinct fields := by
    intro fields member
    obtain ⟨d, -, rfl⟩ := List.mem_map.mp member
    simp [Toml.Distinct, Display.members]
  rw [Toml.read_spells (spells_tomlChars writable exact_floats), statements,
    Toml.build_groups keys.1 keys.2 groups items]
  rfl

end Config

end ClickGrant
