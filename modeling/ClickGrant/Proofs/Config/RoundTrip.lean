import ClickGrant.Proofs.Config.Printed
import ClickGrant.Proofs.Toml.Range

/-!
# The printed configuration is the configuration

A configuration that was read from TOML can be written as TOML, since its whole numbers were read
from that format (`writable_of_ofDatum?`), and what is written reads back as the very same
configuration (`printed_reads_back`). No float and no other setting is lost on the way, and the second
reading passes the same validation.

About floats one thing is assumed, of every finite float of the configuration: that its decimal text
reads back as that float.
-/
set_option autoImplicit false

namespace ClickGrant

deriving instance DecidableEq for Path, Logging, ValidityPolicy, ConsentSettings, Display, Config, ConfigError

open Datum (Conventions Fields declared)

variable {conventions : Conventions} {names : List String} {d : Datum} {fs : Fields}

/-! ## What is read from fitting data -/

theorem Datum.mem_of_declared : ∀ {members : List (String × Datum)} {fs : Fields},
    declared names members = some fs → ∀ f ∈ fs, f ∈ members
  | [], fs, h => by
    cases h
    nofun
  | (k, d) :: members, fs, h => by
    unfold declared at h
    split at h
    · cases h
    next fs' later =>
      have ih := Datum.mem_of_declared later
      split at h
      · split at h
        · cases h
        · cases h
          exact List.forall_mem_cons.mpr
            ⟨List.mem_cons_self, fun f member => List.mem_cons_of_mem _ (ih f member)⟩
      · cases h
        exact fun f member => List.mem_cons_of_mem _ (ih f member)

/-- The fields of fitting data fit. -/
theorem Datum.Fits.fields (fits : d.Fits) (h : d.fields? conventions names = some fs) :
    ∀ f ∈ fs, f.2.Fits := by
  unfold Datum.fields? at h
  split at h
  · cases fits with
    | record all => exact fun f member => all f (Datum.mem_of_declared h f member)
  · split at h
    · cases h
    · cases h
      cases fits with
      | list all => exact fun f member => all f.2 (List.of_mem_zip member).2
  · cases h
    nofun
  · cases h

theorem Datum.Fits.get? {name : String} {fs : Fields} (fits : ∀ f ∈ fs, f.2.Fits)
    (h : fs.get? name = some d) :
    d.Fits := by
  obtain ⟨before, after, rfl, -⟩ := List.lookup_eq_some_iff.mp h
  exact fits (name, d) (by simp)

/-- A field holds what was read from fitting data, or the default. -/
theorem Datum.Fits.withDefault {α : Type} {P : α → Prop} {name : String} {default v : α}
    {read : Datum → Option α}
    (fits : ∀ f ∈ fs, f.2.Fits) (h : fs.withDefault name default read = some v) (standard : P default)
    (reads : ∀ d, d.Fits → read d = some v → P v) : P v := by
  unfold Fields.withDefault at h
  split at h
  next d found => exact reads d (Datum.Fits.get? fits found) h
  next =>
    cases h
    exact standard

/-- The number fits the format. -/
abbrev Small (n : UInt64) : Prop := n.toNat < Nat.pow 2 63

theorem Datum.Fits.uint64 {n : UInt64} (fits : d.Fits) (h : d.uint64? = some n) : Small n := by
  obtain ⟨i, whole, rfl⟩ := Option.map_eq_some_iff.mp h
  unfold Datum.intIn? at whole
  split at whole
  · split at whole
    next range =>
      cases whole
      cases fits with
      | int small =>
        rw [Bool.and_eq_true, decide_eq_true_eq, decide_eq_true_eq] at range
        show (UInt64.ofNat i.toNat).toNat < _
        rw [UInt64.toNat_ofNat']
        exact Nat.lt_of_le_of_lt (Nat.mod_le _ _) (by omega)
    · cases whole
  · cases whole

theorem Datum.Fits.word {name : String} {default n : UInt64} (fits : ∀ f ∈ fs, f.2.Fits)
    (h : fs.withDefault name default Datum.uint64? = some n) (standard : Small default) : Small n :=
  Datum.Fits.withDefault fits h standard fun _ fits => fits.uint64

theorem Datum.Fits.items {α : Type} {read : Datum → Option α} {xs : List α} (fits : d.Fits)
    (h : d.list? read = some xs) : ∀ x ∈ xs, ∃ item, item.Fits ∧ read item = some x := by
  intro x member
  unfold Datum.list? at h
  split at h
  · obtain ⟨item, inside, eq⟩ := exists_of_mapM h x member
    cases fits with
    | list all => exact ⟨item, all item inside, eq⟩
  · cases h

/-! ## Accepted configurations -/

theorem Timing.small_of_ofDatum? {t : Timing} (fits : d.Fits) (h : Timing.ofDatum? conventions d = some t) :
    ∀ n ∈ t.words, Small n := by
  obtain ⟨fs, fields, h⟩ := Option.bind_eq_some_iff.mp h
  have inside := fits.fields fields
  obtain ⟨a, first, h⟩ := Option.bind_eq_some_iff.mp h
  obtain ⟨b, second, h⟩ := Option.bind_eq_some_iff.mp h
  obtain ⟨c, third, h⟩ := Option.bind_eq_some_iff.mp h
  obtain ⟨e, fourth, h⟩ := Option.bind_eq_some_iff.mp h
  cases h
  simp only [Timing.words, List.forall_mem_cons]
  exact ⟨Datum.Fits.word inside first (by decide), Datum.Fits.word inside second (by decide),
    Datum.Fits.word inside third (by decide), Datum.Fits.word inside fourth (by decide),
    List.forall_mem_nil _⟩

theorem Limits.small_of_ofDatum? {l : Limits} (fits : d.Fits) (h : Limits.ofDatum? conventions d = some l) :
    ∀ n ∈ l.words, Small n := by
  obtain ⟨fs, fields, h⟩ := Option.bind_eq_some_iff.mp h
  have inside := fits.fields fields
  obtain ⟨a, first, h⟩ := Option.bind_eq_some_iff.mp h
  obtain ⟨b, second, h⟩ := Option.bind_eq_some_iff.mp h
  obtain ⟨c, third, h⟩ := Option.bind_eq_some_iff.mp h
  obtain ⟨e, fourth, h⟩ := Option.bind_eq_some_iff.mp h
  cases h
  simp only [Limits.words, List.forall_mem_cons]
  exact ⟨Datum.Fits.word inside first (by decide), Datum.Fits.word inside second (by decide),
    Datum.Fits.word inside third (by decide), List.forall_mem_nil _⟩

theorem Display.small_of_ofDatum? {s : Display} (fits : d.Fits)
    (h : Display.ofDatum? conventions d = some s) :
    Small s.id := by
  obtain ⟨fs, fields, h⟩ := Option.bind_eq_some_iff.mp h
  obtain ⟨id, first, h⟩ := Option.bind_eq_some_iff.mp h
  obtain ⟨width, second, h⟩ := Option.bind_eq_some_iff.mp h
  obtain ⟨height, third, h⟩ := Option.bind_eq_some_iff.mp h
  obtain ⟨circular, fourth, h⟩ := Option.bind_eq_some_iff.mp h
  cases h
  obtain ⟨d, found, read⟩ := Option.bind_eq_some_iff.mp first
  exact (Datum.Fits.get? (fits.fields fields) found).uint64 read

theorem Timing.small_standard : ∀ n ∈ Timing.standard.words, Small n := by
  simp only [Timing.words, List.forall_mem_cons]
  exact ⟨by decide, by decide, by decide, by decide, List.forall_mem_nil _⟩

theorem Limits.small_standard : ∀ n ∈ Limits.standard.words, Small n := by
  simp only [Limits.words, List.forall_mem_cons]
  exact ⟨by decide, by decide, by decide, List.forall_mem_nil _⟩

namespace Config

/-- What was read from the format can be written in it. -/
theorem writable_of_ofDatum? {c : Config} (fits : d.Fits) (h : ofDatum? conventions d = some c) :
    c.writable = true := by
  obtain ⟨fs, fields, h⟩ := Option.bind_eq_some_iff.mp h
  have inside := fits.fields fields
  obtain ⟨logging, -, h⟩ := Option.bind_eq_some_iff.mp h
  obtain ⟨timing, timed, h⟩ := Option.bind_eq_some_iff.mp h
  obtain ⟨limits, limited, h⟩ := Option.bind_eq_some_iff.mp h
  obtain ⟨validity, -, h⟩ := Option.bind_eq_some_iff.mp h
  obtain ⟨mask, -, h⟩ := Option.bind_eq_some_iff.mp h
  obtain ⟨consent, -, h⟩ := Option.bind_eq_some_iff.mp h
  obtain ⟨displays, shown, h⟩ := Option.bind_eq_some_iff.mp h
  cases h
  have times : ∀ n ∈ timing.words, Small n :=
    Datum.Fits.withDefault (P := fun t : Timing => ∀ n ∈ t.words, Small n) inside timed Timing.small_standard
      fun _ fits h => Timing.small_of_ofDatum? fits h
  have bounds : ∀ n ∈ limits.words, Small n :=
    Datum.Fits.withDefault (P := fun l : Limits => ∀ n ∈ l.words, Small n) inside limited Limits.small_standard
      fun _ fits h => Limits.small_of_ofDatum? fits h
  have ids : ∀ s ∈ displays, Small s.id := by
    refine Datum.Fits.withDefault (P := fun ds : List Display => ∀ s ∈ ds, Small s.id) inside shown nofun
      fun d fits h s member => ?_
    obtain ⟨item, fits', read⟩ := fits.items h s member
    exact Display.small_of_ofDatum? fits' read
  exact writable_iff.mpr ⟨List.forall_mem_append.mpr ⟨times, bounds⟩, ids⟩

/-- Every float of a valid configuration is finite. -/
theorem finite_of_validate {c : Config} (valid : c.validate = .ok ()) :
    ∀ x ∈ c.floats, x.isFinite = true := by
  have accepted := accepted_of_validate valid
  intro x member
  rcases List.mem_append.mp member with threshold | size
  · have same : c.nonNegativeSettings.map Prod.snd = c.validity.floats := rfl
    rw [← same] at threshold
    obtain ⟨s, listed, rfl⟩ := List.mem_map.mp threshold
    exact (accepted.nonNegative s listed).1
  · obtain ⟨d, shown, member⟩ := List.mem_flatMap.mp size
    have checked := accepted.displays d shown
    simp only [hasSize, Bool.and_eq_true] at checked
    rcases List.mem_cons.mp member with rfl | member
    · exact checked.1.1.1
    · rw [List.mem_singleton.mp member]
      exact checked.1.1.2

/-- Whatever was accepted is valid, and is accepted again when its data are read. -/
theorem ofToml_eq_ok {text : String} {c : Config} : ofToml text = .ok c ↔
    ∃ d, Toml.read text = some d ∧ ofDatum? .toml d = some c ∧ c.validate = .ok () := by
  unfold ofToml ofDatum
  constructor
  · intro accepted
    split at accepted
    · cases accepted
    next described =>
      obtain ⟨d, read, described⟩ := Option.bind_eq_some_iff.mp described
      split at accepted <;> cases accepted
      next valid => exact ⟨d, read, described, valid⟩
  · rintro ⟨d, read, described, valid⟩
    rw [read, Option.bind_some, described]
    dsimp only
    rw [valid]

/-- A configuration that was accepted can be printed, and the text is accepted and gives back the same
configuration, if of every finite float in it the decimal text reads back as that float. -/
theorem printed_reads_back {text : String} {c : Config} (accepted : ofToml text = .ok c)
    (exact_floats : ∀ x ∈ c.floats, x.isFinite = true → ReadsBack x) :
    ∃ out, c.toToml? = some out ∧ ofToml out = .ok c := by
  obtain ⟨d, read, described, valid⟩ := ofToml_eq_ok.mp accepted
  have writable := writable_of_ofDatum? (Toml.read_fits read) described
  refine ⟨String.ofList c.tomlChars, by rw [toToml?, if_pos writable],
    ofToml_eq_ok.mpr ⟨c.datum, ?_, ?_, valid⟩⟩
  · exact read_tomlChars writable fun x member => exact_floats x member (finite_of_validate valid x member)
  · exact ofDatum?_datum c .toml

/-- Settings whose texts and floats have to be written with care. -/
def unusual : Config where
  logging := { level := "say \"no\"\\\n\x01\x7f \u00e9", file := some { text := "C:\\it" } }
  timing := .standard
  limits := .standard
  validity := { ValidityPolicy.standard with epsilon := -0.0, minPadding := 0.1 }
  extensionMask := standardExtensionMask
  consent := { ConsentSettings.standard with requiredKinds := [.save, .save, .location] }
  displays :=
    [{ id := 1, width := 1.5, height := 1000, circular := false },
     { id := 2, width := 480, height := 480, circular := true }]

/-- A document that says so, in another form than the printed one. -/
def unusualText : String :=
  "[daemon]\nlog_level = \"say \\\"no\\\"\\\\\\n\\u0001\\u007F \\u00e9\"\nlog_file = 'C:\\it'\n" ++
  "[validation]\nepsilon = -0.0\nmin_padding = 1e-1\n[consent]\nrequired_kinds = [\"save\", 'save', \"location\"]\n" ++
  "[[displays]]\nid = 1\nwidth = 1.5\nheight = 1_000\n[[displays]]\nid = 2\nwidth = 480\nheight = 480\ncircular = true"

theorem printed_reads_back_unusual :
    ofToml unusualText = .ok unusual ∧ (∀ x ∈ unusual.floats, x.isFinite = true → ReadsBack x) ∧
      ∃ out, unusual.toToml? = some out ∧ ofToml out = .ok unusual := by
  have accepted : ofToml unusualText = .ok unusual := by
    -- spelled out first, as to decode a long text takes long
    unfold ofToml Toml.read unusualText
    simp only [String.toList_append, String.reduceToList]
    decide +kernel
  have exact_floats : ∀ x ∈ unusual.floats, x.isFinite = true → ReadsBack x := by decide +kernel
  exact ⟨accepted, exact_floats, printed_reads_back accepted exact_floats⟩

end Config

end ClickGrant
