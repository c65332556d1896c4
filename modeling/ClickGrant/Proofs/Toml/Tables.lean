import ClickGrant.Toml.Table

/-!
# The tables of a printed document

Statements come in groups: assignments of the root, a header with the assignments of its table, a
header of an array of tables with those of its next table. The reader's draft is followed group by
group. Within a group every assignment goes to one place of the draft, wherever that is
(`foldlM_assignments`), and a header makes such a place (`place_root`, `place_table`,
`place_item`). `build_groups` puts the groups together.
-/
set_option autoImplicit false

namespace ClickGrant.Toml

variable {k : String} {es root : Entries} {n : Node} {cur : List String}

/-! ## Entries -/

theorem lookup_of_fresh {β : Type} {k : String} :
    ∀ {es : List (String × β)}, k ∉ es.map Prod.fst → es.lookup k = none
  | [], _ => rfl
  | (k', v) :: es, fresh => by
    have apart := List.ne_of_not_mem_cons fresh
    rw [List.lookup_cons, beq_false_of_ne apart]
    exact lookup_of_fresh (List.not_mem_of_not_mem_cons fresh)

theorem put_of_fresh : ∀ {es : Entries}, k ∉ es.map Prod.fst → es.put k n = es ++ [(k, n)]
  | [], _ => rfl
  | (k', m) :: es, fresh => by
    have apart : k' ≠ k := (List.ne_of_not_mem_cons fresh).symm
    rw [Entries.put, if_neg apart, put_of_fresh (List.not_mem_of_not_mem_cons fresh)]
    rfl

theorem lookup_last {m : Node} : ∀ {es : Entries}, k ∉ es.map Prod.fst → (es ++ [(k, m)]).lookup k = some m
  | [], _ => by simp
  | (k', v) :: es, fresh => by
    have apart := List.ne_of_not_mem_cons fresh
    rw [List.cons_append, List.lookup_cons, beq_false_of_ne apart]
    exact lookup_last (List.not_mem_of_not_mem_cons fresh)

theorem put_last {m : Node} : ∀ {es : Entries}, k ∉ es.map Prod.fst →
    Entries.put k n (es ++ [(k, m)]) = es ++ [(k, n)]
  | [], _ => by simp [Entries.put]
  | (k', v) :: es, fresh => by
    have apart : k' ≠ k := (List.ne_of_not_mem_cons fresh).symm
    rw [List.cons_append, Entries.put, if_neg apart, put_last (List.not_mem_of_not_mem_cons fresh)]
    rfl

/-! ## Assignments -/

/-- Assignments to bare keys. -/
def assignments (fields : List (String × Datum)) : List Statement := fields.map fun f => .assign [f.1] f.2

/-- What they put into a table. -/
def leaves (fields : List (String × Datum)) : Entries := fields.map fun f => (f.1, .leaf f.2)

theorem keys_leaves (fields : List (String × Datum)) :
    (leaves fields).map Prod.fst = fields.map Prod.fst := by
  rw [leaves, List.map_map]
  rfl

/-- The table that assignments go to: changing it changes the draft's root so. -/
def Place (cur : List String) (place : Entries → Entries) : Prop :=
  ∀ (change : Entries → Option Entries) (es : Entries),
    descend false (fun _ => change) cur .header (place es) = (change es).map place

theorem place_root : Place [] id := fun change es => by
  rw [Option.map_id]
  rfl

theorem place_table (fresh : k ∉ root.map Prod.fst) :
    Place [k] fun es => root ++ [(k, .table .header es)] := by
  intro change es
  rw [descend, lookup_last fresh]
  show (change es).map _ = _
  refine congrArg (fun f => (change es).map f) (funext fun es' => ?_)
  exact put_last fresh

theorem place_item (fresh : k ∉ root.map Prod.fst) (items : List Entries) :
    Place [k] fun es => root ++ [(k, .tables (items ++ [es]))] := by
  intro change es
  rw [descend, lookup_last fresh]
  dsimp only
  rw [List.getLast?_concat]
  show (change es).map _ = _
  refine congrArg (fun f => (change es).map f) (funext fun es' => ?_)
  rw [List.dropLast_concat]
  exact put_last fresh

theorem foldlM_assignments {place : Entries → Entries} (here : Place cur place) :
    ∀ (fields : List (String × Datum)) (es : Entries), (es.map Prod.fst ++ fields.map Prod.fst).Nodup →
      (assignments fields).foldlM Draft.step ⟨place es, cur⟩ = some ⟨place (es ++ leaves fields), cur⟩
  | [], es, _ => by
    rw [leaves, List.map_nil, List.append_nil]
    rfl
  | (k, d) :: fields, es, distinct => by
    have fresh : k ∉ es.map Prod.fst := fun member =>
      (List.nodup_append.mp distinct).2.2 k member k List.mem_cons_self rfl
    have added : Entries.assign [k] d es = some (es ++ [(k, Node.leaf d)]) := by
      show es.add k d = _
      rw [Entries.add, lookup_of_fresh fresh, put_of_fresh fresh]
    have step : Draft.step ⟨place es, cur⟩ (.assign [k] d) =
        some ⟨place (es ++ [(k, Node.leaf d)]), cur⟩ := by
      show (descend false (fun _ es => es.assign [k] d) cur .header (place es)).map _ = _
      rw [here, added]
      rfl
    have distinct' : ((es ++ [(k, Node.leaf d)]).map Prod.fst ++ fields.map Prod.fst).Nodup := by
      rw [List.map_append, List.append_assoc]
      exact distinct
    have ih := foldlM_assignments here fields (es ++ [(k, Node.leaf d)]) distinct'
    rw [assignments, List.map_cons, List.foldlM_cons]
    show Draft.step ⟨place es, cur⟩ (.assign [k] d) >>= _ = _
    rw [step]
    rw [List.append_assoc] at ih
    exact ih

/-! ## Groups -/

/-- A path of one part needs no descent. -/
theorem splitPath_single (k : String) : splitPath [k] = some ([], k) := rfl

/-- The fields of a table, each once. -/
abbrev Distinct (fields : List (String × Datum)) : Prop := (fields.map Prod.fst).Nodup

/-- A header with the assignments of its table. -/
def tableGroup (s : String × List (String × Datum)) : List Statement := .header [s.1] :: assignments s.2

/-- A header of an array of tables with the assignments of its next table. -/
def itemGroup (k : String) (fields : List (String × Datum)) : List Statement :=
  .arrayHeader [k] :: assignments fields

theorem foldlM_section (fresh : k ∉ root.map Prod.fst) {fields : List (String × Datum)}
    (distinct : Distinct fields) :
    (tableGroup (k, fields)).foldlM Draft.step ⟨root, cur⟩ =
      some ⟨root ++ [(k, .table .header (leaves fields))], [k]⟩ := by
  have opened : Draft.step ⟨root, cur⟩ (.header [k]) = some ⟨root ++ [(k, .table .header [])], [k]⟩ := by
    have new : root.openTable [k] = some (root ++ [(k, .table .header [])]) := by
      rw [Entries.openTable, splitPath_single, Option.bind_eq_bind, Option.bind_some]
      dsimp only [descend]
      rw [lookup_of_fresh fresh]
      exact congrArg some (put_of_fresh fresh)
    show (root.openTable [k]).map _ = _
    rw [new]
    rfl
  rw [tableGroup, List.foldlM_cons, opened]
  exact foldlM_assignments (place_table fresh) fields [] distinct

/-- What the sections put into the root. -/
def tables (sections : List (String × List (String × Datum))) : Entries :=
  sections.map fun s => (s.1, .table .header (leaves s.2))

theorem foldlM_sections :
    ∀ (sections : List (String × List (String × Datum))) (root : Entries) (cur : List String),
    (root.map Prod.fst ++ sections.map Prod.fst).Nodup → (∀ s ∈ sections, Distinct s.2) →
    ∃ cur', (sections.flatMap tableGroup).foldlM Draft.step ⟨root, cur⟩ = some ⟨root ++ tables sections, cur'⟩
  | [], root, cur, _, _ => ⟨cur, by rw [tables, List.map_nil, List.append_nil]; rfl⟩
  | (k, fields) :: sections, root, cur, names, distinct => by
    have fresh : k ∉ root.map Prod.fst := fun member =>
      (List.nodup_append.mp names).2.2 k member k List.mem_cons_self rfl
    have names' : ((root ++ [(k, Node.table .header (leaves fields))]).map Prod.fst ++
        sections.map Prod.fst).Nodup := by
      rw [List.map_append, List.append_assoc]
      exact names
    obtain ⟨cur', ih⟩ := foldlM_sections sections _ [k] names'
      fun s member => distinct s (List.mem_cons_of_mem _ member)
    refine ⟨cur', ?_⟩
    rw [List.flatMap_cons, List.foldlM_append, foldlM_section fresh (distinct _ List.mem_cons_self)]
    rw [List.append_assoc] at ih
    exact ih

/-- A root with an array of tables under a new key, unless there are none. -/
def withItems (root : Entries) (k : String) : List Entries → Entries
  | [] => root
  | items => root ++ [(k, .tables items)]

theorem openItem_withItems (fresh : k ∉ root.map Prod.fst) (items : List Entries) :
    (withItems root k items).openItem [k] = some (root ++ [(k, .tables (items ++ [[]]))]) := by
  rw [Entries.openItem, splitPath_single, Option.bind_eq_bind, Option.bind_some]
  dsimp only [descend]
  obtain _ | ⟨es, items⟩ := items
  · rw [withItems, lookup_of_fresh fresh]
    exact congrArg some (put_of_fresh fresh)
  · rw [withItems, lookup_last fresh]
    · exact congrArg some (put_last fresh)
    · nofun

theorem withItems_concat (root : Entries) (k : String) (items : List Entries) (es : Entries) :
    withItems root k (items ++ [es]) = root ++ [(k, .tables (items ++ [es]))] := by
  cases items <;> rfl

theorem foldlM_items (fresh : k ∉ root.map Prod.fst) : ∀ (later : List (List (String × Datum)))
    (items : List Entries) (cur : List String), (∀ fields ∈ later, Distinct fields) →
    ∃ cur', (later.flatMap (itemGroup k)).foldlM Draft.step ⟨withItems root k items, cur⟩ =
      some ⟨withItems root k (items ++ later.map leaves), cur'⟩
  | [], items, cur, _ => ⟨cur, by rw [List.map_nil, List.append_nil]; rfl⟩
  | fields :: later, items, cur, distinct => by
    have opened : Draft.step ⟨withItems root k items, cur⟩ (.arrayHeader [k]) =
        some ⟨root ++ [(k, .tables (items ++ [[]]))], [k]⟩ := by
      show ((withItems root k items).openItem [k]).map _ = _
      rw [openItem_withItems fresh]
      rfl
    have filled : (itemGroup k fields).foldlM Draft.step ⟨withItems root k items, cur⟩ =
        some ⟨withItems root k (items ++ [leaves fields]), [k]⟩ := by
      rw [itemGroup, List.foldlM_cons, opened, withItems_concat]
      exact foldlM_assignments (place_item fresh items) fields [] (distinct _ List.mem_cons_self)
    obtain ⟨cur', ih⟩ := foldlM_items fresh later (items ++ [leaves fields]) [k]
      fun s member => distinct s (List.mem_cons_of_mem _ member)
    refine ⟨cur', ?_⟩
    rw [List.flatMap_cons, List.foldlM_append, filled]
    rw [List.append_assoc] at ih
    exact ih

/-! ## The data -/

theorem entryData_append : ∀ es es' : Entries, entryData (es ++ es') = entryData es ++ entryData es'
  | [], _ => rfl
  | (k, n) :: es, es' => by
    rw [List.cons_append, entryData, entryData_append es es', entryData]
    rfl

theorem entryData_leaves : ∀ fields : List (String × Datum), entryData (leaves fields) = fields
  | [] => rfl
  | (k, d) :: fields => by
    show (k, d) :: entryData (leaves fields) = _
    rw [entryData_leaves fields]

theorem entryData_tables : ∀ sections : List (String × List (String × Datum)),
    entryData (tables sections) = sections.map fun s => (s.1, .record s.2)
  | [] => rfl
  | (k, fields) :: sections => by
    show (k, Datum.record (entryData (leaves fields))) :: entryData (tables sections) = _
    rw [entryData_leaves, entryData_tables sections]
    rfl

theorem itemData_leaves : ∀ items : List (List (String × Datum)),
    itemData (items.map leaves) = items.map .record
  | [] => rfl
  | fields :: items => by
    show Datum.record (entryData (leaves fields)) :: itemData (items.map leaves) = _
    rw [entryData_leaves, itemData_leaves items]
    rfl

/-- An array of tables as a member of the document, if there are any. -/
def itemsMember (k : String) (items : List (List (String × Datum))) : List (String × Datum) :=
  if items.isEmpty then [] else [(k, .list (items.map .record))]

theorem entryData_withItems (root : Entries) (k : String) (items : List (List (String × Datum))) :
    entryData (withItems root k (items.map leaves)) = entryData root ++ itemsMember k items := by
  obtain _ | ⟨fields, items⟩ := items
  · exact (List.append_nil _).symm
  · show entryData (root ++ [(k, .tables ((fields :: items).map leaves))]) = _
    rw [entryData_append]
    show _ ++ [(k, Datum.list (itemData ((fields :: items).map leaves)))] = _
    rw [itemData_leaves]
    rfl

/-- A document of assignments, tables and an array of tables, all under different keys. -/
theorem build_groups {top : List (String × Datum)} {sections : List (String × List (String × Datum))}
    {k : String}
    {items : List (List (String × Datum))} (names : (top.map Prod.fst ++ sections.map Prod.fst).Nodup)
    (fresh : items ≠ [] → k ∉ top.map Prod.fst ++ sections.map Prod.fst)
    (distinct : ∀ s ∈ sections, Distinct s.2) (distinctItems : ∀ fields ∈ items, Distinct fields) :
    build (assignments top ++ sections.flatMap tableGroup ++ items.flatMap (itemGroup k)) =
      some (.record (top ++ sections.map (fun s => (s.1, .record s.2)) ++ itemsMember k items)) := by
  have keys : (leaves top ++ tables sections).map Prod.fst = top.map Prod.fst ++ sections.map Prod.fst := by
    rw [List.map_append, keys_leaves, tables, List.map_map]
    rfl
  have first := foldlM_assignments place_root top [] (List.nodup_append.mp names).1
  obtain ⟨cur, second⟩ := foldlM_sections sections (leaves top) [] (by rw [keys_leaves]; exact names) distinct
  have third : ∃ cur', (items.flatMap (itemGroup k)).foldlM Draft.step ⟨leaves top ++ tables sections, cur⟩ =
      some ⟨withItems (leaves top ++ tables sections) k (items.map leaves), cur'⟩ := by
    by_cases some_item : items = []
    · rw [some_item]
      exact ⟨cur, rfl⟩
    · exact foldlM_items (by rw [keys]; exact fresh some_item) items [] cur distinctItems
  obtain ⟨cur', third⟩ := third
  have whole : (assignments top ++ sections.flatMap tableGroup ++ items.flatMap (itemGroup k)).foldlM Draft.step
      ⟨[], []⟩ = some ⟨withItems (leaves top ++ tables sections) k (items.map leaves), cur'⟩ := by
    rw [List.foldlM_append, List.foldlM_append]
    show ((assignments top).foldlM Draft.step ⟨id [], []⟩ >>= _) >>= _ = _
    rw [first]
    show ((sections.flatMap tableGroup).foldlM Draft.step ⟨leaves top, []⟩) >>= _ = _
    rw [second]
    exact third
  rw [build, whole, Option.map_some, entryData_withItems, entryData_append, entryData_leaves,
    entryData_tables]

end ClickGrant.Toml
