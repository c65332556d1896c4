import ClickGrant.Registry.Table

/-!
# Processes and places

The lemmas on `get?` say which processes are registered after each change of the table, and as
what. `Entry.place` is where a component stands, under its identifier. `Thins t t'` says that `t'`
registers no process that `t` does not, that its processes are as they were, and that their
components have not moved: some may have gone and their marks may have changed.
-/
set_option autoImplicit false

namespace ClickGrant

namespace Assoc

variable {κ α : Type} [DecidableEq κ]

theorem mem_of_find {k : κ} {v : α} : ∀ {l : List (κ × α)}, find k l = some v → (k, v) ∈ l
  | [], h => by cases h
  | (k', v') :: rest, h => by
    unfold find at h
    split at h
    next same => cases h; exact same ▸ .head _
    next => exact .tail _ (mem_of_find h)

theorem mem_values_of_get? {m : Assoc κ α} {k : κ} {v : α} (h : m.get? k = some v) : v ∈ m.values :=
  List.mem_map.mpr ⟨(k, v), mem_of_find h, rfl⟩

end Assoc

/-- The identifier of a component and the rectangle it is drawn in. -/
def Entry.place (e : Entry) : ComponentId × Rect := (e.id, e.component.screenRect)

namespace Registration

variable {p p' : Registration} {id : ComponentId} {f : Component → Component}

/-- The places of a process's components. -/
def places (p : Registration) : List (ComponentId × Rect) := p.components.map Entry.place

/-- A process that is as it was, with components that have not moved. -/
structure Thins (p p' : Registration) : Prop where
  token : p'.token = p.token
  foreground : p'.isForeground = p.isForeground
  places : p'.places.Sublist p.places

theorem Thins.refl (p : Registration) : Thins p p := ⟨rfl, rfl, List.Sublist.refl _⟩

theorem Thins.trans {p₁ p₂ p₃ : Registration} (h₁ : Thins p₁ p₂) (h₂ : Thins p₂ p₃) : Thins p₁ p₃ :=
  ⟨h₂.token.trans h₁.token, h₂.foreground.trans h₁.foreground, h₂.places.trans h₁.places⟩

/-- A change that does not move the component. -/
theorem places_modifyEntries (still : ∀ c, (f c).screenRect = c.screenRect) :
    ∀ es : List Entry, (modifyEntries id f es).map Entry.place = es.map Entry.place
  | [] => rfl
  | e :: rest => by
    unfold modifyEntries
    split
    · simp [Entry.place, still]
    · rw [List.map_cons, List.map_cons, places_modifyEntries still rest]

/-- Only the first entry of the identifier is changed. -/
theorem mem_modifyEntries {e : Entry} : ∀ {es : List Entry}, e ∈ modifyEntries id f es →
    e ∈ es ∨ ∃ old, es.find? (·.id = id) = some old ∧ e = { old with component := f old.component }
  | [], h => by cases h
  | e' :: rest, h => by
    unfold modifyEntries at h
    split at h
    next here =>
      rcases List.mem_cons.mp h with rfl | h
      · exact .inr ⟨e', List.find?_cons_of_pos (decide_eq_true here), rfl⟩
      · exact .inl (.tail _ h)
    next other =>
      rcases List.mem_cons.mp h with rfl | h
      · exact .inl (.head _)
      · rw [List.find?_cons_of_neg (by simpa using other)]
        exact (mem_modifyEntries h).imp_left (.tail _)

theorem ids_modifyEntries (id : ComponentId) (f : Component → Component) :
    ∀ es : List Entry, (modifyEntries id f es).map (·.id) = es.map (·.id)
  | [] => rfl
  | e :: rest => by
    unfold modifyEntries
    split
    · rfl
    · rw [List.map_cons, List.map_cons, ids_modifyEntries id f rest]

theorem thins_modify (still : ∀ c, (f c).screenRect = c.screenRect) (p : Registration) :
    Thins p (p.modify id f) :=
  ⟨rfl, rfl, by rw [places, modify, places_modifyEntries still]; exact List.Sublist.refl _⟩

theorem thins_erase (p : Registration) (id : ComponentId) : Thins p (p.erase id) :=
  ⟨rfl, rfl, List.Sublist.map _ List.eraseP_sublist⟩

end Registration

namespace ComponentTable

variable {t t' : ComponentTable} {pid pid' : Pid} {p : Registration} {id : ComponentId} {token : Token}

/-! ## Who is registered -/

theorem get?_insert (t : ComponentTable) (pid pid' : Pid) (token : Token) (e : Entry) :
    (t.insert pid token e).processes.get? pid' =
      if pid = pid' then
        some { t.processes.getD pid (.start token) with
          components := (t.processes.getD pid (.start token)).components ++ [e] }
      else t.processes.get? pid' :=
  Assoc.get?_set ..

theorem get?_modify (t : ComponentTable) (pid pid' : Pid) (id : ComponentId)
    (f : Component → Component) :
    (t.modify pid id f).processes.get? pid' =
      if pid = pid' then (t.processes.get? pid').map (·.modify id f) else t.processes.get? pid' :=
  Assoc.get?_modify ..

theorem get?_take (t : ComponentTable) (pid pid' : Pid) (id : ComponentId) :
    (t.take pid id).processes.get? pid' =
      if pid = pid' then (t.processes.get? pid').map (·.erase id) else t.processes.get? pid' :=
  Assoc.get?_modify ..

theorem get?_dropProcess (t : ComponentTable) (pid pid' : Pid) :
    (t.dropProcess pid).processes.get? pid' =
      if pid = pid' then none else t.processes.get? pid' :=
  Assoc.get?_erase ..

theorem get?_setForeground (t : ComponentTable) (pid pid' : Pid) (foreground : Bool) :
    (t.setForeground pid foreground).processes.get? pid' =
      if pid = pid' then
        (t.processes.get? pid').map fun p => { p with isForeground := foreground }
      else t.processes.get? pid' :=
  Assoc.get?_modify ..

/-- A process that is found after one process was changed has been there before. -/
theorem old_of_changed {changed : Prop} [Decidable changed] {g : Registration → Registration}
    {before : Option Registration} {p' : Registration}
    (found : (if changed then before.map g else before) = some p') :
    ∃ p, before = some p ∧ (p' = g p ∨ p' = p) := by
  split at found
  · obtain ⟨p, old, same⟩ := Option.map_eq_some_iff.mp found
    exact ⟨p, old, .inl same.symm⟩
  · exact ⟨p', found, .inr rfl⟩

/-! ## Tables that lose components -/

/-- Nobody is new, nobody has changed, and nothing has moved. -/
def Thins (t t' : ComponentTable) : Prop :=
  ∀ pid p', t'.processes.get? pid = some p' → ∃ p, t.processes.get? pid = some p ∧ p.Thins p'

theorem Thins.refl (t : ComponentTable) : Thins t t := fun _ p' h => ⟨p', h, .refl p'⟩

theorem Thins.trans {t₁ t₂ t₃ : ComponentTable} (h₁ : Thins t₁ t₂) (h₂ : Thins t₂ t₃) :
    Thins t₁ t₃ := by
  intro pid p₃ found
  obtain ⟨p₂, found, thins₂⟩ := h₂ pid p₃ found
  obtain ⟨p₁, found, thins₁⟩ := h₁ pid p₂ found
  exact ⟨p₁, found, thins₁.trans thins₂⟩

theorem thins_modify {f : Component → Component} (still : ∀ c, (f c).screenRect = c.screenRect)
    (t : ComponentTable) (pid : Pid) (id : ComponentId) : t.Thins (t.modify pid id f) := by
  intro pid' p' found
  rw [get?_modify] at found
  obtain ⟨p, old, rfl | rfl⟩ := old_of_changed found
  · exact ⟨p, old, Registration.thins_modify still p⟩
  · exact ⟨p', old, .refl p'⟩

theorem thins_take (t : ComponentTable) (pid : Pid) (id : ComponentId) : t.Thins (t.take pid id) := by
  intro pid' p' found
  rw [get?_take] at found
  obtain ⟨p, old, rfl | rfl⟩ := old_of_changed found
  · exact ⟨p, old, Registration.thins_erase p id⟩
  · exact ⟨p', old, .refl p'⟩

theorem thins_dropProcess (t : ComponentTable) (pid : Pid) : t.Thins (t.dropProcess pid) := by
  intro pid' p' found
  rw [get?_dropProcess] at found
  split at found
  · cases found
  · exact ⟨p', found, .refl p'⟩

theorem thins_dropIfEmpty (t : ComponentTable) (pid : Pid) : t.Thins (t.dropIfEmpty pid) := by
  unfold dropIfEmpty
  split
  · split
    · exact thins_dropProcess t pid
    · exact .refl t
  · exact .refl t

theorem thins_clearGranted (t : ComponentTable) (token : Token) (style : GrantStyle) :
    t.Thins (t.clearGranted token style) := by
  intro pid p' found
  rw [show (t.clearGranted token style).processes.get? pid = _ from Assoc.get?_mapValues ..] at found
  obtain ⟨p, old, rfl⟩ := Option.map_eq_some_iff.mp found
  refine ⟨p, old, ?_⟩
  split
  · refine ⟨rfl, rfl, ?_⟩
    show ((p.components.map _).map Entry.place).Sublist (p.components.map Entry.place)
    rw [List.map_map]
    have still : Entry.place ∘ _ = Entry.place := funext fun e : Entry => by
      show Entry.place (if e.component.kind.grantStyle = style then
        { e with component := { e.component with isGranted := false } } else e) = e.place
      split <;> rfl
    simp only [still]
    exact List.Sublist.refl _
  · exact .refl p

/-! ## Identifiers -/

/-- An identifier that is handed out is not in use. -/
theorem not_isLive_of_freeFrom {id' : ComponentId} : ∀ {attempts : Nat} {id : ComponentId},
    t.freeFrom attempts id = some id' → t.isLive id' = false
  | 0, _, h => by cases h
  | attempts + 1, id, h => by
    unfold freeFrom at h
    split at h
    next => exact not_isLive_of_freeFrom h
    next free => cases h; exact Bool.eq_false_iff.mpr free

theorem allocate_ends (h : t.allocate = some (id, t')) :
    t.isLive id = false ∧ t'.processes = t.processes := by
  unfold allocate at h
  obtain ⟨id', free, h⟩ := Option.map_eq_some_iff.mp h
  cases h
  exact ⟨not_isLive_of_freeFrom free, rfl⟩

/-- An identifier that is not in use stands for nothing in any process. -/
theorem id_notMem_of_not_isLive (free : t.isLive id = false) (found : t.processes.get? pid = some p) :
    id ∉ p.components.map (·.id) := by
  intro h
  obtain ⟨e, he, hid⟩ := List.mem_map.mp h
  have listed : p ∈ t.processes.values := Assoc.mem_values_of_get? found
  have live : t.isLive id = true := by
    unfold isLive
    rw [List.any_eq_true]
    refine ⟨p, listed, ?_⟩
    rw [Registration.get?, List.find?_isSome]
    exact ⟨e, he, by simpa using hid⟩
  rw [free] at live
  cases live

/-- No two components of a process have the same identifier. -/
def Distinct (t : ComponentTable) : Prop :=
  ∀ pid p, t.processes.get? pid = some p → (p.components.map (·.id)).Nodup

theorem distinct_empty : empty.Distinct := by
  intro pid p h
  cases h

theorem Distinct.thins (h : t.Distinct) (thins : t.Thins t') : t'.Distinct := by
  intro pid p' found
  obtain ⟨p, old, thin⟩ := thins pid p' found
  have ids : ∀ p : Registration, p.components.map (·.id) = p.places.map (·.1) := by
    intro p
    rw [Registration.places, List.map_map]
    rfl
  rw [ids]
  exact (ids p ▸ h pid p old).sublist (thin.places.map _)

theorem Distinct.modify (h : t.Distinct) (pid : Pid) (id : ComponentId) (f : Component → Component) :
    (t.modify pid id f).Distinct := by
  intro pid' p' found
  rw [get?_modify] at found
  obtain ⟨p, old, rfl | rfl⟩ := old_of_changed found
  · show ((Registration.modifyEntries id f p.components).map (·.id)).Nodup
    rw [Registration.ids_modifyEntries]
    exact h pid' p old
  · exact h pid' p' old

theorem Distinct.setForeground (h : t.Distinct) (pid : Pid) (foreground : Bool) :
    (t.setForeground pid foreground).Distinct := by
  intro pid' p' found
  rw [get?_setForeground] at found
  obtain ⟨p, old, rfl | rfl⟩ := old_of_changed found
  · exact h pid' p old
  · exact h pid' p' old

theorem Distinct.insert (h : t.Distinct) {e : Entry} (free : t.allocate = some (e.id, t')) (pid : Pid)
    (token : Token) : (t'.insert pid token e).Distinct := by
  obtain ⟨free, same⟩ := allocate_ends free
  intro pid' p' found
  rw [get?_insert, same] at found
  split at found
  next here =>
    cases found
    unfold Assoc.getD
    cases old : t.processes.get? pid with
    | none => simp [Registration.start]
    | some p =>
      simp only [Option.getD_some, List.map_append, List.map_cons, List.map_nil]
      rw [List.nodup_append]
      -- the new identifier is none of the process's own, since no process has it
      refine ⟨h pid p old, by simp, ?_⟩
      intro a ha b hb
      simp only [List.mem_singleton] at hb
      subst hb
      intro same
      exact id_notMem_of_not_isLive free old (same ▸ ha)
  next => exact h pid' p' found

end ComponentTable

end ClickGrant
