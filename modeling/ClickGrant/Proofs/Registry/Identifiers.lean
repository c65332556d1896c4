import ClickGrant.Proofs.Registry.Shutdown

/-!
# Identifiers of the stored components

A table is `Sound` if every process in it is listed once, has components but not more than it may,
and no identifier stands for two components, be they of one process or of two. What is proved:
  1. `Sound.wellFormed` — what this says of the table as a whole: its identifiers are pairwise
     different and lie in the cycle, and it is empty exactly if nothing is counted in it.
  2. `Change.sound` — every change of the registry keeps its table sound. A new component takes an
     identifier that no process has, a process goes with its last component, and every other change
     keeps the identifiers or takes some away (`Trims`).
  3. `tables_wellFormed` — so the table is well-formed in all traffic, wherever in the cycle the
     search for identifiers starts, and a registration that succeeds was given an identifier that was
     stored nowhere in the moment of storing.
-/
set_option autoImplicit false

namespace ClickGrant

/-! ## Keys of finite maps -/

namespace Assoc

variable {κ α : Type} [DecidableEq κ] {m : Assoc κ α} {k : κ} {v : α}

theorem find_of_mem : ∀ {l : List (κ × α)}, (l.map (·.1)).Nodup → (k, v) ∈ l → find k l = some v
  | [], _, h => by cases h
  | e :: rest, nodup, h => by
    obtain ⟨fresh, nodup⟩ := List.nodup_cons.mp nodup
    rcases List.mem_cons.mp h with rfl | h
    · simp [find]
    · have other : ¬e.1 = k := by
        rintro rfl
        exact fresh (List.mem_map.mpr ⟨(e.1, v), h, rfl⟩)
      rw [find, if_neg other]
      exact find_of_mem nodup h

theorem get?_of_mem (once : m.keys.Nodup) (h : (k, v) ∈ m.entries) : m.get? k = some v :=
  find_of_mem once h

theorem keys_put (k : κ) (v : α) : ∀ l : List (κ × α),
    (put k v l).map (·.1) = if k ∈ l.map (·.1) then l.map (·.1) else l.map (·.1) ++ [k]
  | [] => rfl
  | (k', v') :: rest => by
    unfold put
    by_cases here : k' = k
    · subst here
      simp
    · have ih := keys_put k v rest
      have other : k ≠ k' := Ne.symm here
      rw [if_neg here, List.map_cons, ih]
      by_cases there : k ∈ rest.map (·.1)
      · simp [there]
      · simp [there, other]

theorem nodup_keys_set (once : m.keys.Nodup) (k : κ) (v : α) : (m.set k v).keys.Nodup := by
  show ((put k v m.entries).map (·.1)).Nodup
  rw [keys_put]
  split
  · exact once
  next fresh =>
    refine List.nodup_append.mpr ⟨once, List.nodup_singleton k, ?_⟩
    intro k' hk' k'' hk'' same
    rw [List.mem_singleton.mp hk''] at same
    exact fresh (same ▸ hk')

theorem nodup_keys_modify (once : m.keys.Nodup) (k : κ) (f : α → α) : (m.modify k f).keys.Nodup := by
  unfold modify
  split
  · exact once
  · exact nodup_keys_set once k _

theorem nodup_keys_erase (once : m.keys.Nodup) (k : κ) : (m.erase k).keys.Nodup :=
  once.sublist (List.filter_sublist.map _)

omit [DecidableEq κ] in
theorem nodup_keys_mapValues (once : m.keys.Nodup) (f : α → α) : (m.mapValues f).keys.Nodup := by
  have same : (m.mapValues f).keys = m.keys := by simp [mapValues, keys, Function.comp_def]
  rw [same]
  exact once

end Assoc

/-- The identifiers of a process's components. -/
def Registration.ids (p : Registration) : List ComponentId := p.components.map (·.id)

theorem Registration.length_ids (p : Registration) : p.ids.length = p.components.length :=
  List.length_map _

namespace ComponentTable

variable {t t' : ComponentTable} {pid : Pid} {token : Token} {id : ComponentId} {most : Nat} {e : Entry}

/-! ## Tables as a whole -/

/-- The identifiers of all components, process by process. -/
def ids (t : ComponentTable) : List ComponentId := t.processes.values.flatMap Registration.ids

/-- The sizes, the identifiers and the counts of a table are as they should be; no process may have
more than `most` components. -/
structure WellFormed (most : Nat) (t : ComponentTable) : Prop where
  /-- No process without components is kept. -/
  sized : ∀ p ∈ t.processes.values, 1 ≤ p.components.length ∧ p.components.length ≤ most
  distinct : t.ids.Nodup
  inCycle : ∀ id ∈ t.ids, baseId ≤ id ∧ id ≤ lastId
  counted : t.isEmpty = true ↔ t.componentCount = 0

/-- What an identifier stands for is in no process more than once, nor in two processes. -/
structure Labelled (most : Nat) (t : ComponentTable) : Prop where
  room : ∀ pid p, t.processes.get? pid = some p → p.ids.length ≤ most
  distinct : t.Distinct
  apart : ∀ pid pid' p p', t.processes.get? pid = some p → t.processes.get? pid' = some p' →
    ∀ id ∈ p.ids, id ∈ p'.ids → pid = pid'
  inCycle : ∀ pid p, t.processes.get? pid = some p → ∀ id ∈ p.ids, baseId ≤ id

/-- Labelled, without idle processes, and ready to find the next identifier. -/
structure Sound (most : Nat) (t : ComponentTable) : Prop extends Labelled most t where
  once : t.processes.keys.Nodup
  occupied : ∀ pid p, t.processes.get? pid = some p → p.ids ≠ []
  next : baseId ≤ t.nextId

theorem sound_startingAt (most : Nat) (first : ComponentId) : (startingAt first).Sound most where
  room := nofun
  distinct := distinct_empty
  apart := nofun
  inCycle := nofun
  once := List.nodup_nil
  occupied := nofun
  next := by
    show baseId ≤ if first < baseId then baseId else first
    split
    · exact Int32.le_refl baseId
    next above => exact Int32.not_lt.mp above

theorem exists_get?_of_mem_values (once : t.processes.keys.Nodup) {p : Registration}
    (h : p ∈ t.processes.values) : ∃ pid, t.processes.get? pid = some p := by
  obtain ⟨⟨pid, p⟩, listed, rfl⟩ := List.mem_map.mp h
  exact ⟨pid, Assoc.get?_of_mem once listed⟩

theorem Sound.nodup_ids (sound : t.Sound most) : t.ids.Nodup := by
  show (t.processes.values.flatMap Registration.ids).Nodup
  rw [Assoc.values, List.flatMap_map, List.nodup_flatMap]
  constructor
  · intro e listed
    exact sound.distinct e.1 e.2 (Assoc.get?_of_mem sound.once listed)
  · -- two entries are of different processes, which have no identifier in common
    have differ : t.processes.entries.Pairwise fun e e' => e.1 ≠ e'.1 :=
      List.pairwise_map.mp sound.once
    refine (List.pairwise_iff_forall_sublist.mpr fun {e e'} both => ?_)
    have listed : e ∈ t.processes.entries := both.subset (List.mem_cons_self ..)
    have listed' : e' ∈ t.processes.entries := both.subset (by simp)
    have other := List.pairwise_iff_forall_sublist.mp differ both
    intro id here there
    exact other (sound.apart e.1 e'.1 e.2 e'.2 (Assoc.get?_of_mem sound.once listed)
      (Assoc.get?_of_mem sound.once listed') id here there)

theorem Sound.isEmpty_iff_count (sound : t.Sound most) : t.isEmpty = true ↔ t.componentCount = 0 := by
  obtain ⟨⟨entries⟩, nextId⟩ := t
  cases entries with
  | nil => exact ⟨fun _ => rfl, fun _ => rfl⟩
  | cons e rest =>
    have first : Assoc.find e.1 (e :: rest) = some e.2 := by simp [Assoc.find]
    have least : 0 < e.2.ids.length := List.length_pos_of_ne_nil (sound.occupied e.1 e.2 first)
    rw [Registration.length_ids] at least
    constructor
    · intro empty
      cases empty
    · intro none
      have sum : e.2.components.length +
          (rest.map (·.2)).foldr (fun p n => p.components.length + n) 0 = 0 := none
      omega

theorem Sound.wellFormed (sound : t.Sound most) : t.WellFormed most where
  sized := by
    intro p listed
    obtain ⟨pid, found⟩ := exists_get?_of_mem_values sound.once listed
    have least := List.length_pos_of_ne_nil (sound.occupied pid p found)
    have room := sound.room pid p found
    rw [Registration.length_ids] at least room
    exact ⟨least, room⟩
  distinct := sound.nodup_ids
  inCycle := by
    intro id listed
    obtain ⟨p, listed, here⟩ := List.mem_flatMap.mp listed
    obtain ⟨pid, found⟩ := exists_get?_of_mem_values sound.once listed
    exact ⟨sound.inCycle pid p found id here, Int32.le_iff_toInt_le.mpr (by
      have top : lastId.toInt = 2147483647 := by decide
      have below := id.toInt_lt
      omega)⟩
  counted := sound.isEmpty_iff_count

/-- An identifier that is not in use is stored nowhere. -/
theorem id_notMem_ids (free : t.isLive id = false) : id ∉ t.ids := by
  intro listed
  obtain ⟨p, listed, here⟩ := List.mem_flatMap.mp listed
  obtain ⟨e, he, same⟩ := List.mem_map.mp here
  have live : t.isLive id = true := by
    rw [isLive, List.any_eq_true]
    refine ⟨p, listed, ?_⟩
    rw [Registration.get?, List.find?_isSome]
    exact ⟨e, he, decide_eq_true same⟩
  rw [free] at live
  cases live

/-! ## Identifiers that are handed out -/

theorem le_successor (h : baseId ≤ id) : baseId ≤ successor id := by
  unfold successor
  split
  next => exact Int32.le_refl baseId
  next other =>
    have top : lastId.toInt = 2147483647 := by decide
    have base : baseId.toInt = 1000 := by decide
    have one : (1 : Int32).toInt = 1 := by decide
    have below := id.toInt_lt
    have ne : id.toInt ≠ lastId.toInt := fun same => other (Int32.toInt_inj.mp same)
    rw [Int32.le_iff_toInt_le] at h ⊢
    rw [Int32.toInt_add, one, Int.bmod_eq_of_le]
    all_goals omega

theorem le_of_freeFrom {found : ComponentId} : ∀ {attempts : Nat} {id : ComponentId}, baseId ≤ id →
    t.freeFrom attempts id = some found → baseId ≤ found
  | 0, _, _, h => by cases h
  | attempts + 1, id, low, h => by
    unfold freeFrom at h
    split at h
    · exact le_of_freeFrom (le_successor low) h
    · cases h; exact low

/-- The search ends in the cycle, and goes on in it. -/
theorem allocate_inCycle (low : baseId ≤ t.nextId) (h : t.allocate = some (id, t')) :
    baseId ≤ id ∧ baseId ≤ t'.nextId := by
  unfold allocate at h
  obtain ⟨id', found, h⟩ := Option.map_eq_some_iff.mp h
  cases h
  have inCycle := le_of_freeFrom low found
  exact ⟨inCycle, le_successor inCycle⟩

/-! ## Fewer identifiers -/

/-- No process is new, and none has new identifiers. -/
def Trims (t t' : ComponentTable) : Prop :=
  ∀ pid p', t'.processes.get? pid = some p' →
    ∃ p, t.processes.get? pid = some p ∧ p'.ids.Sublist p.ids

theorem Thins.trims (thins : t.Thins t') : t.Trims t' := by
  intro pid p' found
  obtain ⟨p, before, thin⟩ := thins pid p' found
  have ids (p : Registration) : p.ids = p.places.map (·.1) := by
    rw [Registration.places, List.map_map]
    rfl
  refine ⟨p, before, ?_⟩
  rw [ids, ids]
  exact thin.places.map _

theorem Labelled.trims (labelled : t.Labelled most) (trims : t.Trims t') : t'.Labelled most where
  room := by
    intro pid p' found
    obtain ⟨p, before, fewer⟩ := trims pid p' found
    exact Nat.le_trans fewer.length_le (labelled.room pid p before)
  distinct := by
    intro pid p' found
    obtain ⟨p, before, fewer⟩ := trims pid p' found
    exact (labelled.distinct pid p before).sublist fewer
  apart := by
    intro pid₁ pid₂ p₁' p₂' found₁ found₂ id here there
    obtain ⟨p₁, before₁, fewer₁⟩ := trims pid₁ p₁' found₁
    obtain ⟨p₂, before₂, fewer₂⟩ := trims pid₂ p₂' found₂
    exact labelled.apart pid₁ pid₂ p₁ p₂ before₁ before₂ id (fewer₁.subset here) (fewer₂.subset there)
  inCycle := by
    intro pid p' found id here
    obtain ⟨p, before, fewer⟩ := trims pid p' found
    exact labelled.inCycle pid p before id (fewer.subset here)

/-- The processes are the same, with the same identifiers. -/
def SameIds (t t' : ComponentTable) : Prop :=
  ∀ pid p', t'.processes.get? pid = some p' → ∃ p, t.processes.get? pid = some p ∧ p'.ids = p.ids

theorem Sound.sameIds (sound : t.Sound most) (same : t.SameIds t') (once : t'.processes.keys.Nodup)
    (next : t'.nextId = t.nextId) : t'.Sound most where
  toLabelled := sound.toLabelled.trims fun pid p' found => by
    obtain ⟨p, before, ids⟩ := same pid p' found
    exact ⟨p, before, ids ▸ List.Sublist.refl _⟩
  once := once
  occupied := by
    intro pid p' found
    obtain ⟨p, before, ids⟩ := same pid p' found
    rw [ids]
    exact sound.occupied pid p before
  next := next ▸ sound.next

theorem Sound.modify (sound : t.Sound most) (pid : Pid) (id : ComponentId) (f : Component → Component) :
    (t.modify pid id f).Sound most := by
  refine sound.sameIds ?_ (Assoc.nodup_keys_modify sound.once pid _) rfl
  intro pid' p' found
  rw [get?_modify] at found
  obtain ⟨p, before, rfl | rfl⟩ := old_of_changed found
  · exact ⟨p, before, Registration.ids_modifyEntries id f p.components⟩
  · exact ⟨p', before, rfl⟩

theorem Sound.setForeground (sound : t.Sound most) (pid : Pid) (foreground : Bool) :
    (t.setForeground pid foreground).Sound most := by
  refine sound.sameIds ?_ (Assoc.nodup_keys_modify sound.once pid _) rfl
  intro pid' p' found
  rw [get?_setForeground] at found
  obtain ⟨p, before, rfl | rfl⟩ := old_of_changed found
  · exact ⟨p, before, rfl⟩
  · exact ⟨p', before, rfl⟩

theorem Sound.clearGranted (sound : t.Sound most) (token : Token) (style : GrantStyle) :
    (t.clearGranted token style).Sound most := by
  refine sound.sameIds ?_ (Assoc.nodup_keys_mapValues sound.once _) rfl
  intro pid p' found
  rw [show (t.clearGranted token style).processes.get? pid = _ from Assoc.get?_mapValues ..] at found
  obtain ⟨p, before, rfl⟩ := Option.map_eq_some_iff.mp found
  refine ⟨p, before, ?_⟩
  split
  · show (p.components.map _).map Entry.id = p.components.map Entry.id
    rw [List.map_map]
    refine List.map_congr_left fun e _ => ?_
    simp only [Function.comp_apply]
    split <;> rfl
  · rfl

theorem Sound.dropProcess (sound : t.Sound most) (pid : Pid) : (t.dropProcess pid).Sound most where
  toLabelled := sound.toLabelled.trims (thins_dropProcess t pid).trims
  once := Assoc.nodup_keys_erase sound.once pid
  occupied := by
    intro pid' p' found
    rw [get?_dropProcess] at found
    split at found
    · cases found
    · exact sound.occupied pid' p' found
  next := sound.next

/-- A process does not outlive its last component. -/
theorem Sound.takenOut (sound : t.Sound most) (pid : Pid) (id : ComponentId) :
    ((t.take pid id).dropIfEmpty pid).Sound most := by
  have labelled := sound.toLabelled.trims (thins_takenOut t pid id).trims
  have once := Assoc.nodup_keys_modify sound.once pid fun p => p.erase id
  -- whoever has no component left after the removal is the process itself
  have others : ∀ pid' p', pid ≠ pid' → (t.take pid id).processes.get? pid' = some p' → p'.ids ≠ [] := by
    intro pid' p' other found
    rw [get?_take, if_neg other] at found
    exact sound.occupied pid' p' found
  unfold dropIfEmpty at labelled ⊢
  cases found : (t.take pid id).processes.get? pid with
  | none =>
    rw [found] at labelled
    refine ⟨labelled, once, fun pid' p' found' => others pid' p' ?_ found', sound.next⟩
    rintro rfl
    rw [found] at found'
    cases found'
  | some p =>
    simp only [found] at labelled ⊢
    split at labelled
    next empty =>
      rw [if_pos empty]
      refine ⟨labelled, Assoc.nodup_keys_erase once pid, fun pid' p' found' => ?_, sound.next⟩
      rw [get?_dropProcess] at found'
      split at found'
      · cases found'
      next other => exact others pid' p' other found'
    next left =>
      rw [if_neg left]
      refine ⟨labelled, once, fun pid' p' found' => ?_, sound.next⟩
      by_cases same : pid = pid'
      · subst same
        rw [found] at found'
        cases found'
        intro none
        exact left (List.isEmpty_iff.mpr (List.map_eq_nil_iff.mp none))
      · exact others pid' p' same found'

/-! ## One more identifier -/

/-- Whatever is stored after a component was stored was stored before, or is this component. -/
theorem ids_insert {pid' : Pid} {p' : Registration}
    (found : (t.insert pid token e).processes.get? pid' = some p') :
    (∃ p, t.processes.get? pid' = some p ∧ (p'.ids = p.ids ∨ pid' = pid ∧ p'.ids = p.ids ++ [e.id])) ∨
      t.processes.get? pid' = none ∧ pid' = pid ∧ p'.ids = [e.id] := by
  rw [get?_insert] at found
  split at found
  next here =>
    subst here
    cases found
    unfold Assoc.getD
    cases before : t.processes.get? pid with
    | none => exact .inr ⟨rfl, rfl, rfl⟩
    | some p => exact .inl ⟨p, rfl, .inr ⟨rfl, List.map_append⟩⟩
  next => exact .inl ⟨p', found, .inl rfl⟩

theorem mem_ids_insert {pid' : Pid} {p' : Registration}
    (found : (t.insert pid token e).processes.get? pid' = some p') (listed : id ∈ p'.ids) :
    (∃ p, t.processes.get? pid' = some p ∧ id ∈ p.ids) ∨ pid' = pid ∧ id = e.id := by
  obtain ⟨p, before, same | ⟨rfl, more⟩⟩ | ⟨-, rfl, one⟩ := ids_insert found
  · exact .inl ⟨p, before, same ▸ listed⟩
  · rw [more] at listed
    rcases List.mem_append.mp listed with listed | new
    · exact .inl ⟨p, before, listed⟩
    · exact .inr ⟨rfl, List.mem_singleton.mp new⟩
  · rw [one] at listed
    exact .inr ⟨rfl, List.mem_singleton.mp listed⟩

/-- A component is stored under an identifier that was handed out for it, where there is room. -/
theorem Sound.insert (sound : t.Sound most) (free : t.allocate = some (e.id, t')) (least : 1 ≤ most)
    (room : ∀ p, t.processes.get? pid = some p → p.components.length < most) :
    (t'.insert pid token e).Sound most := by
  obtain ⟨unused, processes⟩ := allocate_ends free
  obtain ⟨low, next⟩ := allocate_inCycle sound.next free
  have fresh : ∀ pid p, t.processes.get? pid = some p → e.id ∉ p.ids :=
    fun _ _ found => id_notMem_of_not_isLive unused found
  have before {pid' : Pid} {p' : Registration} {id : ComponentId}
      (found : (t'.insert pid token e).processes.get? pid' = some p') (listed : id ∈ p'.ids) :
      (∃ p, t.processes.get? pid' = some p ∧ id ∈ p.ids) ∨ pid' = pid ∧ id = e.id :=
    processes ▸ mem_ids_insert found listed
  refine ⟨⟨?_, sound.distinct.insert free pid token, ?_, ?_⟩, ?_, ?_, next⟩
  · intro pid' p' found
    obtain ⟨p, old, same | ⟨rfl, more⟩⟩ | ⟨-, -, one⟩ := ids_insert found
    · rw [processes] at old
      rw [same]
      exact sound.room pid' p old
    · rw [processes] at old
      have space := room p old
      rw [more, List.length_append, Registration.length_ids, List.length_singleton]
      omega
    · rw [one]
      exact least
  · intro pid₁ pid₂ p₁' p₂' found₁ found₂ id here there
    rcases before found₁ here with ⟨p₁, old₁, here⟩ | ⟨rfl, rfl⟩
    · rcases before found₂ there with ⟨p₂, old₂, there⟩ | ⟨rfl, rfl⟩
      · exact sound.apart pid₁ pid₂ p₁ p₂ old₁ old₂ id here there
      · exact absurd here (fresh pid₁ p₁ old₁)
    · rcases before found₂ there with ⟨p₂, old₂, there⟩ | ⟨rfl, -⟩
      · exact absurd there (fresh pid₂ p₂ old₂)
      · rfl
  · intro pid' p' found id listed
    rcases before found listed with ⟨p, old, listed⟩ | ⟨-, rfl⟩
    · exact sound.inCycle pid' p old id listed
    · exact low
  · show (Assoc.set _ _ _).keys.Nodup
    rw [processes]
    exact Assoc.nodup_keys_set sound.once _ _
  · intro pid' p' found
    obtain ⟨p, old, same | ⟨-, more⟩⟩ | ⟨-, -, one⟩ := ids_insert found
    · rw [processes] at old
      rw [same]
      exact sound.occupied pid' p old
    · rw [more]
      exact List.append_ne_nil_of_right_ne_nil _ (List.cons_ne_nil _ _)
    · rw [one]
      exact List.cons_ne_nil _ _

end ComponentTable

namespace Registry

open ComponentTable (Sound WellFormed)

variable {s : Settings} {caller : Caller} {kind : Kind} {c : Component} {declared : String}
  {r r' u w : Registry} {visits : List (Visit Registry)} {n most : Nat} {id : ComponentId}

/-! ## Changes of the registry -/

theorem table_beginShutdown (r : Registry) : (beginShutdown r).table = r.table := by
  unfold beginShutdown
  split <;> rfl

/-- Whatever is done at one blow, the table stays sound. -/
theorem Change.sound (least : 1 ≤ most) (enough : s.maxComponents.toNat ≤ most) (h : Change s r n r')
    (sound : r.table.Sound most) : r'.table.Sound most := by
  cases h with
  | flagged caller => rw [table_quarantineCaller]; exact sound
  | @stored caller c id =>
    rename_i stores
    obtain ⟨table, fits, rfl⟩ := fits_of_storeNew stores
    refine sound.insert (e := ⟨id, c⟩) fits.free least fun p found => ?_
    exact Nat.lt_of_lt_of_le (fits.room p found) enough
  | reshaped pid id f => exact sound.modify pid id f
  | takenOut takes =>
    obtain ⟨-, rfl⟩ := takeOut_ok takes
    exact sound.takenOut _ _
  | removed pid => exact sound.dropProcess pid
  | cameForward pid =>
    cases found : r.table.processes.get? pid with
    | none => rw [processForeground_of_none found]; exact sound
    | some p => rw [processForeground_of_some found]; exact sound.setForeground pid true
  | wentBack pid =>
    cases found : r.table.processes.get? pid with
    | none => rw [processBackground_of_none found]; exact sound
    | some p => rw [processBackground_of_some found]; exact sound.setForeground pid false
  | unmarked token => exact sound.clearGranted token .capability
  | withdrewSave token serial =>
    unfold withdrawSave changeGrants
    cases GrantState.revokeSave token serial r.toGrantState with
    | mk last g =>
      cases last with
      | true => exact sound.clearGranted token .perClick
      | false => exact sound
  | wentDown => rw [table_beginShutdown]; exact sound
  | _ => exact sound

theorem Changes.sound (least : 1 ≤ most) (enough : s.maxComponents.toNat ≤ most) (h : Changes s n r r')
    (sound : r.table.Sound most) : r'.table.Sound most := by
  induction h with
  | none n r => exact sound
  | more _ change _ ih => exact change.sound least enough (ih sound)

/-! ## Registrations -/

/-- Where a component fits it is stored. -/
theorem storeNew_of_fits {table : ComponentTable} (fits : Fits s caller c r id table) :
    ∃ n, storeNew s caller c r = .ok ((id, n),
      { r with table := table.insert caller.pid caller.token { id, component := c } }) := by
  refine ⟨(table.insert caller.pid caller.token { id, component := c }).componentCount, ?_⟩
  unfold storeNew
  rw [fits.running, fits.free]
  cases process : r.table.processes.get? caller.pid with
  | none => rfl
  | some p =>
    have room := Nat.not_le.mpr (fits.room p process)
    simp only [room, fits.apart p process, if_false]
    rfl

/-- In this state the component was stored, under an identifier that was stored nowhere. -/
structure StoresFresh (s : Settings) (caller : Caller) (id : ComponentId) (c : Component)
    (u w : Registry) : Prop where
  stores : ∃ n, storeNew s caller c u = .ok ((id, n), w)
  fresh : id ∉ u.table.ids
  present : w.table.lookup? caller.pid id = some ⟨id, c⟩

/-- A registration that succeeds has stored its component under a fresh identifier, in the state that
the last answer before storing has found. -/
theorem RegistersAmid.storesFresh
    (h : RegistersAmid s caller kind c declared r visits (.ok id) r') :
    ∃ u ∈ r :: visits.map (·.found), ∃ c' w, StoresFresh s caller id c' u w := by
  cases h with
  | @stored v₁ v₂ c' _ table n u w t welcome same quiet found admitted fits stored posture =>
    obtain ⟨free, processes⟩ := ComponentTable.allocate_ends fits.free
    have unused : table.isLive id = false := by
      unfold ComponentTable.isLive at free ⊢
      rw [processes]
      exact free
    refine ⟨u, ?_, c', w, ?_, ComponentTable.id_notMem_ids free, ?_⟩
    · rw [found, List.map_append, ← List.cons_append]
      exact List.mem_append_left _ (lastFound_mem r v₁)
    · rw [stored]
      exact storeNew_of_fits fits
    · rw [stored]
      exact ComponentTable.lookup?_insert (e := ⟨id, c'⟩) unused caller.pid caller.token

/-! ## Traffic -/

/-- The table is sound in all traffic, now and whenever a call began or went on. -/
theorem sound_throughout (least : 1 ≤ most) (enough : s.maxComponents.toNat ≤ most)
    (sound : r.table.Sound most) (moves : List (Move Act)) :
    (trafficFrom s r moves).state.table.Sound most ∧
      ∀ call ∈ (trafficFrom s r moves).courses, ∀ u ∈ call.starts, u.table.Sound most :=
  Traffic.run_preserves (fun r => r.table.Sound most) (moves_perform s) sound
    (fun _ _ changes sound => changes.sound least enough sound) moves

/-- In every state that traffic leads to, identifiers tell the components of a process apart. -/
theorem distinct_throughout (s : Settings) (now : UInt64) (consents : ConsentStore)
    (metrics : Option Metrics) (moves : List (Move Act)) :
    (trafficFrom s (start now consents metrics) moves).state.table.Distinct := by
  have least : 1 ≤ max 1 s.maxComponents.toNat := Nat.le_max_left ..
  have enough : s.maxComponents.toNat ≤ max 1 s.maxComponents.toNat := Nat.le_max_right ..
  have sound := ComponentTable.sound_startingAt (max 1 s.maxComponents.toNat) baseId
  exact (sound_throughout least enough sound moves).1.distinct

/-- A service without components whose search for identifiers starts at `first`. -/
def startAt (first : ComponentId) (now : UInt64) (consents : ConsentStore) (metrics : Option Metrics) :
    Registry :=
  { start now consents metrics with table := .startingAt first }

/-- Whatever is begun while calls wait for their collaborators, the table of a service with an
accepted configuration is well-formed, now and whenever a call began or went on; wherever the search
for identifiers starts, a registration that succeeds stores its component under an identifier that
was stored nowhere just before, and returns it. -/
theorem tables_wellFormed {config : Config} (accepted : config.validate = .ok ())
    (classifier : Option WindowClassifier) (enhanced : Bool) (first : ComponentId) (now : UInt64)
    (consents : ConsentStore) (metrics : Option Metrics) (moves : List (Move Act)) :
    let s := Settings.ofConfig config classifier enhanced
    let most := config.limits.maxComponentsPerProcess.toNat
    let t := trafficFrom s (startAt first now consents metrics) moves
    t.state.table.WellFormed most ∧
    ∀ call ∈ t.courses, (∀ u ∈ call.starts, u.table.WellFormed most) ∧
      ∀ caller kind c declared after, call.act = .register caller kind c declared →
        call.rest = .done after (.ok ()) →
        ∃ id, (register s caller kind c declared).Goes call.before call.visits (.ok id) after ∧
          ∃ u ∈ call.starts, ∃ c' w, StoresFresh s caller id c' u w := by
  intro s most t
  have least : 1 ≤ s.maxComponents.toNat := by
    have listed : ("limits.max_components_per_process", config.limits.maxComponentsPerProcess) ∈
        config.nonZeroSettings := by simp [Config.nonZeroSettings]
    have nonzero := Config.ne_zero_of_validate accepted listed
    have positive : config.limits.maxComponentsPerProcess.toNat ≠ 0 := fun zero =>
      nonzero (UInt64.toNat_inj.mp zero)
    exact Nat.one_le_iff_ne_zero.mpr positive
  have sound : (startAt first now consents metrics).table.Sound most :=
    ComponentTable.sound_startingAt most first
  obtain ⟨last, starts⟩ := sound_throughout least (Nat.le_refl s.maxComponents.toNat) sound moves
  have genuine : Traffic.Genuine (perform s) t := (Traffic.genuine_start _).run moves
  refine ⟨last.wellFormed, fun call hcall =>
    ⟨fun u hu => (starts call hcall u hu).wellFormed, ?_⟩⟩
  intro caller kind c declared after act ended
  have goes := genuine.goes hcall ended
  rw [act] at goes
  obtain ⟨v, result, u, v', registers, done, visits⟩ := Op.goes_bind.mp goes
  obtain ⟨rfl, same, rfl⟩ := Op.goes_pure.mp done
  rw [List.append_nil] at visits
  subst visits
  cases result with
  | error e => cases same
  | ok id =>
    obtain ⟨f, u', ends, rfl⟩ := register_goes registers
    exact ⟨id, registers, ends.storesFresh⟩

namespace Scene

/-- Two buttons are registered at the end of the cycle, the second one while the first one waits for
the display. -/
def atTheEnd : List (Move Act) :=
  [.begin (.register app .save saveButton ""), .begin (.register app .save lowerButton ""),
   .answer 0 reply, .answer 1 reply, .answer 0 reply, .answer 1 reply]

end Scene

open Scene in
/-- The first button takes the last identifier of the cycle, the second one the base. -/
theorem wellFormed_atTheEnd :
    config.validate = .ok () ∧
      (trafficFrom (.ofConfig config none false) (startAt lastId 1000000 (.ofFile .missing) none)
        atTheEnd).state.table.ids = [lastId, baseId] ∧
      (trafficFrom (.ofConfig config none false) (startAt lastId 1000000 (.ofFile .missing) none)
        atTheEnd).state.table.WellFormed 500 := by
  have wellFormed := (tables_wellFormed accepted_config none false lastId 1000000 (.ofFile .missing)
    none atTheEnd).1
  exact ⟨accepted_config, by decide +kernel, wellFormed⟩

end Registry

end ClickGrant
