import ClickGrant.Toml.Reader

/-!
# Whole numbers of a document fit the format

Whatever the reader takes for a whole number is below 2^63 (`integer?_lt`), and the building of tables
moves values about without changing them (`descend_fits`), so in the data of a whole document every
whole number is (`read_fits`).
-/
set_option autoImplicit false

namespace ClickGrant

/-- No whole number inside is too large for the format. -/
inductive Datum.Fits : Datum → Prop where
  | null : Fits .null
  | flag (value : Bool) : Fits (.flag value)
  | int {value : Int} (small : value < Nat.pow 2 63) : Fits (.int value)
  | real (value : Float) : Fits (.real value)
  | text (value : String) : Fits (.text value)
  | date (written : String) : Fits (.date written)
  | list {items : List Datum} (all : ∀ d ∈ items, Fits d) : Fits (.list items)
  | record {members : List (String × Datum)} (all : ∀ m ∈ members, Fits m.2) : Fits (.record members)
  | unreadable : Fits .unreadable

namespace Toml

variable {cs rest : List Char} {d : Datum}

/-! ## Scalars -/

theorem fit_lt {negative : Bool} {n : Nat} {i : Int} (h : fit negative n = some i) : i < Nat.pow 2 63 := by
  unfold fit at h
  split at h
  · split at h <;> cases h
    have positive : 0 < Nat.pow 2 63 := by decide
    omega
  · split at h <;> cases h
    next small => exact Int.ofNat_lt.mpr small

theorem based_lt {base : Nat} {i : Int} (h : based base cs = some i) : i < Nat.pow 2 63 := by
  unfold based at h
  split at h
  · exact fit_lt h
  · cases h

theorem integer?_lt {i : Int} (h : integer? cs = some i) : i < Nat.pow 2 63 := by
  unfold integer? at h
  split at h
  · exact based_lt h
  · exact based_lt h
  · exact based_lt h
  · split at h
    split at h
    · exact fit_lt h
    · cases h

theorem plainScalar_fits (h : plainScalar cs = some d) : d.Fits := by
  unfold plainScalar at h
  split at h
  · cases h; exact .flag true
  split at h
  · cases h; exact .flag false
  split at h
  next whole => cases h; exact .int (integer?_lt whole)
  next =>
    obtain ⟨x, -, rfl⟩ := Option.map_eq_some_iff.mp h
    exact .real x

theorem scalar_fits (h : scalar cs = some (d, rest)) : d.Fits := by
  unfold scalar at h
  split at h
  split at h
  · cases h; exact .date _
  split at h
  · split at h
    · split at h
      split at h <;> cases h <;> exact .date _
    · cases h; exact .date _
  · obtain ⟨d', plain, eq⟩ := Option.map_eq_some_iff.mp h
    cases eq
    exact plainScalar_fits plain

/-! ## Tables -/

/-- The same of an entry of a table under construction. -/
inductive Node.Fits : Node → Prop where
  | leaf {d : Datum} (fits : d.Fits) : Fits (.leaf d)
  | table (origin : Origin) {entries : List (String × Node)} (all : ∀ e ∈ entries, Fits e.2) :
      Fits (.table origin entries)
  | tables {items : List (List (String × Node))} (all : ∀ es ∈ items, ∀ e ∈ es, Fits e.2) :
      Fits (.tables items)

/-- The same of every entry. -/
def Entries.Fit (es : Entries) : Prop := ∀ e ∈ es, e.2.Fits

theorem Entries.Fit.nil : Entries.Fit [] := fun _ member => nomatch member

theorem Entries.Fit.put {k : String} {n : Node} (fits : n.Fits) : ∀ {es : Entries}, es.Fit → (es.put k n).Fit
  | [], _ => by
    rintro e member
    rw [List.mem_singleton.mp member]
    exact fits
  | (k', m) :: es, all => by
    obtain ⟨first, later⟩ := List.forall_mem_cons.mp all
    unfold Entries.put
    split
    · exact List.forall_mem_cons.mpr ⟨fits, later⟩
    · exact List.forall_mem_cons.mpr ⟨first, Entries.Fit.put fits later⟩

theorem Entries.Fit.lookup {k : String} {n : Node} : ∀ {es : Entries}, es.Fit → es.lookup k = some n → n.Fits
  | (k', m) :: es, all, found => by
    obtain ⟨first, later⟩ := List.forall_mem_cons.mp all
    rw [List.lookup_cons] at found
    split at found
    · cases found; exact first
    · exact Entries.Fit.lookup later found

/-- A change at the end of a path keeps what the change itself keeps. -/
theorem descend_fits {dotted : Bool} {change : Origin → Entries → Option Entries}
    (keeps : ∀ origin es es', es.Fit → change origin es = some es' → es'.Fit) :
    ∀ (path : List String) (origin : Origin) (es es' : Entries), es.Fit →
      descend dotted change path origin es = some es' → es'.Fit
  | [], origin, es, es', all, h => keeps origin es es' all h
  | k :: path, _, es, es', all, h => by
    unfold descend at h
    split at h
    · obtain ⟨inner, below, rfl⟩ := Option.map_eq_some_iff.mp h
      exact all.put (.table _ (descend_fits keeps path _ _ inner .nil below))
    · cases h
    next found =>
      split at h
      · cases h
      · obtain ⟨inner, below, rfl⟩ := Option.map_eq_some_iff.mp h
        cases all.lookup found with
        | table _ inside => exact all.put (.table _ (descend_fits keeps path _ _ inner inside below))
    next items found =>
      split at h
      · cases h
      next last at_end =>
        obtain ⟨inner, below, rfl⟩ := Option.map_eq_some_iff.mp h
        cases all.lookup found with
        | tables inside =>
          have final := inside last (List.mem_of_getLast? at_end)
          refine all.put (.tables fun es member => ?_)
          rcases List.mem_append.mp member with earlier | last'
          · exact inside es (List.dropLast_subset _ earlier)
          · rw [List.mem_singleton.mp last']
            exact descend_fits keeps path _ _ inner final below

theorem Entries.Fit.add {k : String} {es es' : Entries} (all : es.Fit) (fits : d.Fits)
    (h : es.add k d = some es') :
    es'.Fit := by
  unfold Entries.add at h
  split at h <;> cases h
  exact all.put (.leaf fits)

theorem Entries.Fit.assign {path : List String} {es es' : Entries} (all : es.Fit) (fits : d.Fits)
    (h : es.assign path d = some es') : es'.Fit := by
  obtain ⟨⟨way, k⟩, -, h⟩ := Option.bind_eq_some_iff.mp h
  refine descend_fits (fun origin inner inner' inside h => ?_) way .header es es' all h
  split at h
  · cases h
  · exact inside.add fits h

theorem Entries.Fit.openTable {path : List String} {es es' : Entries} (all : es.Fit)
    (h : es.openTable path = some es') : es'.Fit := by
  obtain ⟨⟨way, k⟩, -, h⟩ := Option.bind_eq_some_iff.mp h
  refine descend_fits (fun origin inner inner' inside h => ?_) way .header es es' all h
  split at h
  · cases h; exact inside.put (.table _ Entries.Fit.nil)
  next found =>
    cases h
    cases inside.lookup found with
    | table _ entries => exact inside.put (.table _ entries)
  · cases h

theorem Entries.Fit.openItem {path : List String} {es es' : Entries} (all : es.Fit)
    (h : es.openItem path = some es') : es'.Fit := by
  obtain ⟨⟨way, k⟩, -, h⟩ := Option.bind_eq_some_iff.mp h
  refine descend_fits (fun origin inner inner' inside h => ?_) way .header es es' all h
  split at h
  · cases h
    refine inside.put (.tables fun es member => ?_)
    rw [List.mem_singleton.mp member]
    nofun
  next items found =>
    cases h
    cases inside.lookup found with
    | tables tables =>
      refine inside.put (.tables fun es member => ?_)
      rcases List.mem_append.mp member with earlier | new
      · exact tables es earlier
      · rw [List.mem_singleton.mp new]
        nofun
  · cases h

/-! The data of a table. -/

theorem entryData_eq_map : ∀ es : Entries, entryData es = es.map fun e => (e.1, e.2.datum)
  | [] => rfl
  | (k, n) :: es => by
    rw [entryData, entryData_eq_map es]
    rfl

theorem itemData_eq_map : ∀ items : List Entries, itemData items = items.map fun es => .record (entryData es)
  | [] => rfl
  | es :: items => by
    rw [itemData, itemData_eq_map items]
    rfl

theorem Node.Fits.datum {n : Node} (fits : n.Fits) : n.datum.Fits := by
  have entries {es : Entries} (all : ∀ e ∈ es, e.2.datum.Fits) : (Datum.record (entryData es)).Fits := by
    rw [entryData_eq_map]
    refine .record fun m member => ?_
    obtain ⟨e, inside, rfl⟩ := List.mem_map.mp member
    exact all e inside
  induction fits with
  | leaf fits => exact fits
  | table origin _ ih => exact entries ih
  | tables _ ih =>
    rw [Node.datum, itemData_eq_map]
    refine .list fun d member => ?_
    obtain ⟨es, inside, rfl⟩ := List.mem_map.mp member
    exact entries (ih es inside)

theorem Entries.Fit.data {es : Entries} (all : es.Fit) : (Datum.record (entryData es)).Fits :=
  (Node.Fits.table .header all).datum

/-! ## Values -/

/-- Whatever a reader of values reads fits. -/
def ReadsFitting (item : List Char → Option (Datum × List Char)) : Prop :=
  ∀ cs d rest, item cs = some (d, rest) → d.Fits

variable {item : List Char → Option (Datum × List Char)}

theorem arrayItems_fits (each : ReadsFitting item) :
    ∀ (fuel : Nat) (cs : List Char) (ds : List Datum) (rest : List Char),
    arrayItems item fuel cs = some (ds, rest) → ∀ d ∈ ds, d.Fits
  | fuel + 1, cs, ds, rest, h => by
    unfold arrayItems at h
    split at h
    · cases h; nofun
    next =>
      obtain ⟨⟨d, more⟩, first, h⟩ := Option.bind_eq_some_iff.mp h
      dsimp only at h
      split at h
      · obtain ⟨⟨ds', more'⟩, later, h⟩ := Option.bind_eq_some_iff.mp h
        cases h
        exact List.forall_mem_cons.mpr ⟨each _ _ _ first, arrayItems_fits each fuel _ _ _ later⟩
      · cases h
        exact List.forall_mem_cons.mpr ⟨each _ _ _ first, nofun⟩
      · cases h

theorem keyValue_fits (each : ReadsFitting item) {path : List String}
    (h : keyValue item cs = some ((path, d), rest)) : d.Fits := by
  obtain ⟨⟨path', more⟩, -, h⟩ := Option.bind_eq_some_iff.mp h
  dsimp only at h
  split at h
  · obtain ⟨⟨d', more'⟩, read, h⟩ := Option.bind_eq_some_iff.mp h
    cases h
    exact each _ _ _ read
  · cases h

theorem inlinePairs_fits (each : ReadsFitting item) : ∀ (fuel : Nat) (cs : List Char)
    (ps : List (List String × Datum)) (rest : List Char),
    inlinePairs item fuel cs = some (ps, rest) → ∀ p ∈ ps, p.2.Fits
  | fuel + 1, cs, ps, rest, h => by
    unfold inlinePairs at h
    obtain ⟨⟨⟨path, d⟩, more⟩, first, h⟩ := Option.bind_eq_some_iff.mp h
    dsimp only at h
    split at h
    · obtain ⟨⟨ps', more'⟩, later, h⟩ := Option.bind_eq_some_iff.mp h
      cases h
      exact List.forall_mem_cons.mpr ⟨keyValue_fits each first, inlinePairs_fits each fuel _ _ _ later⟩
    · cases h
      exact List.forall_mem_cons.mpr ⟨keyValue_fits each first, nofun⟩
    · cases h

theorem foldlM_assign_fits : ∀ (ps : List (List String × Datum)) (es es' : Entries), es.Fit →
    (∀ p ∈ ps, p.2.Fits) →
    ps.foldlM (fun (es : Entries) p => es.assign p.1 p.2) es = some es' → es'.Fit
  | [], es, es', all, _, h => by
    cases h
    exact all
  | p :: ps, es, es', all, values, h => by
    obtain ⟨first, later⟩ := List.forall_mem_cons.mp values
    rw [List.foldlM_cons] at h
    obtain ⟨next, step, h⟩ := Option.bind_eq_some_iff.mp h
    exact foldlM_assign_fits ps next es' (all.assign first step) later h

theorem inline_fits {ps : List (List String × Datum)} (values : ∀ p ∈ ps, p.2.Fits) (h : inline ps = some d) :
    d.Fits := by
  obtain ⟨es, made, rfl⟩ := Option.map_eq_some_iff.mp h
  exact (foldlM_assign_fits ps [] es .nil values made).data

theorem value_fits : ∀ levels : Nat, ReadsFitting (value levels)
  | levels, cs, d, rest, h => by
    rw [value.eq_def] at h
    dsimp only at h
    split at h
    · obtain ⟨s, -, eq⟩ := Option.map_eq_some_iff.mp h
      cases eq
      exact .text _
    · obtain ⟨s, -, eq⟩ := Option.map_eq_some_iff.mp h
      cases eq
      exact .text _
    · split at h
      · cases h
      next levels =>
        obtain ⟨⟨ds, more⟩, items, eq⟩ := Option.map_eq_some_iff.mp h
        cases eq
        exact .list (arrayItems_fits (value_fits levels) _ _ _ _ items)
    · split at h
      · cases h
      next levels =>
        split at h
        · cases h
          exact .record nofun
        next =>
          obtain ⟨⟨ps, more⟩, pairs, h⟩ := Option.bind_eq_some_iff.mp h
          obtain ⟨d', made, h⟩ := Option.bind_eq_some_iff.mp h
          cases h
          exact inline_fits (inlinePairs_fits (value_fits levels) _ _ _ _ pairs) made
    · exact scalar_fits h

/-! ## Documents -/

/-- The same of the value that a statement assigns. -/
def Statement.Fits : Statement → Prop
  | .assign _ d => d.Fits
  | _ => True

theorem statement_fits {s : Statement} (h : statement cs = some (s, rest)) : s.Fits := by
  unfold statement at h
  split at h
  · obtain ⟨path, -, h⟩ := Option.bind_eq_some_iff.mp h
    cases h
    trivial
  · obtain ⟨path, -, h⟩ := Option.bind_eq_some_iff.mp h
    cases h
    trivial
  · obtain ⟨⟨⟨path, d⟩, more⟩, pair, h⟩ := Option.bind_eq_some_iff.mp h
    cases h
    exact keyValue_fits (value_fits depthLimit) pair

theorem statements_fits : ∀ (fuel : Nat) (cs : List Char) (ss : List Statement), 
    statements fuel cs = some ss →
    ∀ s ∈ ss, s.Fits
  | fuel + 1, cs, ss, h => by
    unfold statements at h
    split at h
    · cases h; nofun
    next =>
      obtain ⟨⟨s, more⟩, first, h⟩ := Option.bind_eq_some_iff.mp h
      obtain ⟨next, -, h⟩ := Option.bind_eq_some_iff.mp h
      obtain ⟨ss', later, h⟩ := Option.bind_eq_some_iff.mp h
      cases h
      exact List.forall_mem_cons.mpr ⟨statement_fits first, statements_fits fuel _ _ later⟩

theorem step_fits {draft draft' : Draft} {s : Statement} (all : draft.root.Fit) (fits : s.Fits)
    (h : draft.step s = some draft') : draft'.root.Fit := by
  cases s with
  | header path =>
    obtain ⟨root, opened, rfl⟩ := Option.map_eq_some_iff.mp h
    exact all.openTable opened
  | arrayHeader path =>
    obtain ⟨root, opened, rfl⟩ := Option.map_eq_some_iff.mp h
    exact all.openItem opened
  | assign path d =>
    obtain ⟨root, assigned, rfl⟩ := Option.map_eq_some_iff.mp h
    exact descend_fits (fun _ es es' inside h => inside.assign fits h) _ _ _ _ all assigned

theorem foldlM_step_fits : ∀ (ss : List Statement) (draft draft' : Draft), draft.root.Fit →
    (∀ s ∈ ss, s.Fits) →
    ss.foldlM Draft.step draft = some draft' → draft'.root.Fit
  | [], draft, draft', all, _, h => by
    cases h
    exact all
  | s :: ss, draft, draft', all, values, h => by
    obtain ⟨first, later⟩ := List.forall_mem_cons.mp values
    rw [List.foldlM_cons] at h
    obtain ⟨next, step, h⟩ := Option.bind_eq_some_iff.mp h
    exact foldlM_step_fits ss next draft' (step_fits all first step) later h

/-- Every whole number of a document is below 2^63. -/
theorem read_fits {text : String} (h : read text = some d) : d.Fits := by
  obtain ⟨ss, found, built⟩ := Option.bind_eq_some_iff.mp h
  obtain ⟨draft, followed, rfl⟩ := Option.map_eq_some_iff.mp built
  exact (foldlM_step_fits ss _ draft .nil (statements_fits _ _ _ found) followed).data

end Toml

end ClickGrant
