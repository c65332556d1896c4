import Mathlib.Data.List.Forall2
import ClickGrant.Proofs.Registry.Conviction
import ClickGrant.Proofs.Registry.Processes

/-!
# What calls do to the processes in the table

A call, or news about a process, touches the registration of one process and leaves every other one
as it was. What is proved:
  1. `Outcome.reworks` — what each act does to the table, as one operation on it.
  2. `Reworks.sameBut` — every other process stays registered as it was.
  3. `Reworks.edits` — the process itself gets a component at the end, has one component declared
     anew, loses one, or none.
  4. `Run.kind_eq` — the kind of a component stays what it is for as long as the component is stored.
-/
set_option autoImplicit false

namespace ClickGrant

namespace ComponentTable

variable {t t' t'' : ComponentTable} {pid : Pid} {id : ComponentId}

/-! ## Other processes -/

/-- The same is registered, but for one process. -/
def SameBut (pid : Pid) (t t' : ComponentTable) : Prop :=
  ∀ other, other ≠ pid → t'.processes.get? other = t.processes.get? other

theorem SameBut.refl (pid : Pid) (t : ComponentTable) : t.SameBut pid t := fun _ _ => rfl

theorem SameBut.trans (h₁ : t.SameBut pid t') (h₂ : t'.SameBut pid t'') : t.SameBut pid t'' :=
  fun other ne => (h₂ other ne).trans (h₁ other ne)

theorem sameBut_insert (same : t'.processes = t.processes) (pid : Pid) (token : Token) (e : Entry) :
    t.SameBut pid (t'.insert pid token e) := by
  intro other ne
  rw [get?_insert, if_neg ne.symm, same]

theorem sameBut_modify (t : ComponentTable) (pid : Pid) (id : ComponentId) (f : Component → Component) :
    t.SameBut pid (t.modify pid id f) := by
  intro other ne
  rw [get?_modify, if_neg ne.symm]

theorem sameBut_setForeground (t : ComponentTable) (pid : Pid) (foreground : Bool) :
    t.SameBut pid (t.setForeground pid foreground) := by
  intro other ne
  rw [get?_setForeground, if_neg ne.symm]

theorem sameBut_dropProcess (t : ComponentTable) (pid : Pid) : t.SameBut pid (t.dropProcess pid) := by
  intro other ne
  rw [get?_dropProcess, if_neg ne.symm]

theorem sameBut_takenOut (t : ComponentTable) (pid : Pid) (id : ComponentId) :
    t.SameBut pid ((t.take pid id).dropIfEmpty pid) := by
  have taken : t.SameBut pid (t.take pid id) := by
    intro other ne
    rw [get?_take, if_neg ne.symm]
  unfold dropIfEmpty
  split
  · split
    · exact taken.trans (sameBut_dropProcess _ pid)
    · exact taken
  · exact taken

/-- Which process is left after a component has been taken out, and with what. -/
theorem get?_takenOut {p : Registration} (found : t.processes.get? pid = some p) :
    ((t.take pid id).dropIfEmpty pid).processes.get? pid =
      if (p.erase id).components.isEmpty then none else some (p.erase id) := by
  have taken : (t.take pid id).processes.get? pid = some (p.erase id) := by
    rw [get?_take, if_pos rfl, found]
    rfl
  unfold dropIfEmpty
  simp only [taken]
  split
  · rw [get?_dropProcess, if_pos rfl]
  · exact taken

/-! ## Kinds of components -/

/-- What is stored is of the same kind. -/
def SameKinds (t t' : ComponentTable) : Prop :=
  ∀ pid id, (t'.lookup? pid id).map (·.component.kind) = (t.lookup? pid id).map (·.component.kind)

theorem sameKinds_clearGranted (t : ComponentTable) (token : Token) (style : GrantStyle) :
    t.SameKinds (t.clearGranted token style) := by
  intro pid id
  unfold lookup?
  rw [show (t.clearGranted token style).processes.get? pid = _ from Assoc.get?_mapValues ..]
  cases t.processes.get? pid with
  | none => rfl
  | some p =>
    simp only [Option.map_some, Option.bind_some]
    split
    · show (List.find? _ (p.components.map _)).map _ = (p.get? id).map _
      rw [List.find?_map, Option.map_map]
      -- clearing a mark changes neither the identifier nor the kind
      have ids : ((fun e : Entry => decide (e.id = id)) ∘ fun e : Entry =>
          if e.component.kind.grantStyle = style then
            { e with component := { e.component with isGranted := false } } else e) =
          fun e => decide (e.id = id) := by
        funext e
        show decide ((if _ then _ else _ : Entry).id = id) = _
        split <;> rfl
      rw [ids, Registration.get?]
      refine congrArg (fun f => Option.map f (p.components.find? fun e => decide (e.id = id))) ?_
      funext e
      show (if _ then _ else _ : Entry).component.kind = _
      split <;> rfl
    · rfl

end ComponentTable

namespace Registry

open ComponentTable (SameBut SameKinds)

variable {s : Settings} {r r' : Registry} {act : Act} {log : List Exchange} {reply : Except Refusal Unit}
  {pid : Pid} {id : ComponentId} {token : Token} {p p' : Registration} {turns : List Turn} {t : Turn}

/-! ## What an act is about -/

/-- The process that makes a call, or that there is news about. -/
def Act.pid? : Act → Option Pid
  | .register caller .. | .update caller .. | .unregister caller _ | .reportClick caller .. =>
    some caller.pid
  | .foreground pid | .background pid | .died pid => some pid
  | _ => none

/-- The identifier that a call names. -/
def Act.target? : Act → Option ComponentId
  | .update _ id .. | .unregister _ id | .reportClick _ id .. => some id
  | _ => none

/-- What an act that is about a process can do to the table. -/
inductive Reworks (t : ComponentTable) : Act → ComponentTable → Prop where
  | same (act : Act) : Reworks t act t
  | inserted {caller : Caller} {kind : Kind} {c : Component} {declared : String} {u : ComponentTable}
      (processes : u.processes = t.processes) (e : Entry) :
      Reworks t (.register caller kind c declared) (u.insert caller.pid caller.token e)
  | redeclared {act : Act} {caller : Caller} {id : ComponentId} {f : Component → Component}
      (declares : act.declarer? = some caller) (target : act.target? = some id)
      (kept : ∀ e, t.lookup? caller.pid id = some e → (f e.component).kind = e.component.kind) :
      Reworks t act (t.modify caller.pid id f)
  | takenOut {caller : Caller} {id : ComponentId} (present : (t.lookup? caller.pid id).isSome) :
      Reworks t (.unregister caller id) ((t.take caller.pid id).dropIfEmpty caller.pid)
  | moved (pid : Pid) (foreground : Bool) :
      Reworks t (if foreground then .foreground pid else .background pid) (t.setForeground pid foreground)
  | dropped (pid : Pid) : Reworks t (.died pid) (t.dropProcess pid)

/-- The component that a call is let in for is the one that is stored. -/
theorem StoredAs.kind_eq {kind : Kind} (h : StoredAs r pid id kind token) {e : Entry}
    (found : r.table.lookup? pid id = some e) : e.component.kind = kind := by
  obtain ⟨p, e', process, entry, same, -⟩ := h
  rw [ComponentTable.lookup?, process, Option.bind_some, entry] at found
  cases found
  exact same

theorem Outcome.reworks (h : Outcome s r act log reply r') (about : act.pid? = some pid) :
    Reworks r.table act r'.table := by
  cases h with
  | register f ends =>
    cases ends with
    | barred => exact .same _
    | otherKind => exact .same _
    | unadmitted _ _ refused =>
      rw [table_measure, refused.table_eq]
      exact .same _
    | clash => exact .same _
    | stored _ _ _ fits stored =>
      rw [table_measure, showActive_eq, table_measure, table_synced, stored]
      exact .inserted (ComponentTable.allocate_ends fits.free).2 _
  | update ends =>
    cases ends with
    | turnedAway => exact .same _
    | unadmitted _ refused =>
      show Reworks r.table _ (ComponentTable.modify _ _ _ _)
      rw [refused.table_eq]
      exact .redeclared rfl rfl fun _ _ => rfl
    | replaced door admitted =>
      obtain ⟨-, screen, scale, rect, -, rfl, -⟩ := admitted.of_ok
      exact .redeclared rfl rfl fun e found => (door.present.kind_eq found).symm
  | unregister ends =>
    cases ends with
    | taken _ _ present left =>
      rw [table_synced, showActive_eq, table_measure, left]
      exact .takenOut present
    | _ => exact .same _
  | reportClick f ends =>
    rw [table_measure]
    cases ends with
    | turnedAway => exact .same _
    | unadmitted _ refused =>
      show Reworks r.table _ (ComponentTable.modify _ _ _ _)
      rw [refused.table_eq]
      exact .redeclared rfl rfl fun _ _ => rfl
    | unbelieved _ _ disbelief => rw [disbelief.table_eq]; exact .same _
    | unconsented => exact .same _
    | denied _ _ _ _ refused => cases refused; exact .same _
    | granted _ door admitted =>
      obtain ⟨-, screen, scale, rect, -, rfl, -⟩ := admitted.of_ok
      exact .redeclared rfl rfl fun e found => (door.present.kind_eq found).symm
  | foreground pid =>
    cases found : r.table.processes.get? pid with
    | none => rw [processForeground_of_none found]; exact .same _
    | some p => rw [processForeground_of_some found]; exact .moved pid true
  | background pid =>
    cases found : r.table.processes.get? pid with
    | none => rw [processBackground_of_none found]; exact .same _
    | some p => rw [processBackground_of_some found]; exact .moved pid false
  | died ends =>
    cases ends with
    | unknown => exact .dropped _
    | known _ _ left =>
      rw [table_synced, showActive_eq, table_measure, left]
      exact .dropped _
  | armIdleExit => cases about
  | fire => cases about
  | runDueTimers => cases about
  | setClock => cases about

/-- A call is made by the process that it declares a component for. -/
theorem Act.pid_of_declarer {caller : Caller} (declares : act.declarer? = some caller) :
    act.pid? = some caller.pid := by
  cases act <;> cases declares <;> rfl

theorem Reworks.sameBut {t t' : ComponentTable} (h : Reworks t act t') (about : act.pid? = some pid) :
    t.SameBut pid t' := by
  cases h with
  | same => exact .refl pid t
  | inserted processes e => cases about; exact ComponentTable.sameBut_insert processes _ _ e
  | redeclared declares =>
    obtain rfl := Option.some.inj ((Act.pid_of_declarer declares).symm.trans about)
    exact ComponentTable.sameBut_modify t _ _ _
  | takenOut => cases about; exact ComponentTable.sameBut_takenOut t _ _
  | moved pid' foreground =>
    cases foreground <;> cases about <;> exact ComponentTable.sameBut_setForeground t _ _
  | dropped => cases about; exact ComponentTable.sameBut_dropProcess t _

/-! ## The process itself -/

/-- The process is as it was, but that one component may have been declared anew, as the same kind. -/
structure Retouches (id : ComponentId) (p p' : Registration) : Prop where
  token : p'.token = p.token
  foreground : p'.isForeground = p.isForeground
  components : List.Forall₂ (fun e e' : Entry => e' = e ∨
    e.id = id ∧ e'.id = id ∧ e'.component.kind = e.component.kind) p.components p'.components

/-- What an act can do to the registration of the process that it is about. -/
inductive Edits : Act → Option Registration → Option Registration → Prop where
  | untouched (act : Act) (p? : Option Registration) : Edits act p? p?
  | appended {caller : Caller} {kind : Kind} {c : Component} {declared : String}
      {p? : Option Registration} {p : Registration} (old : p = p?.getD (.start caller.token)) (e : Entry) :
      Edits (.register caller kind c declared) p? (some { p with components := p.components ++ [e] })
  /-- By a call that declares the component. -/
  | retouched {act : Act} {id : ComponentId} {p p' : Registration} (declares : act.declarer?.isSome)
      (target : act.target? = some id) (retouches : Retouches id p p') : Edits act (some p) (some p')
  /-- The process goes with its last component. -/
  | removed {caller : Caller} {p : Registration} {l₁ l₂ : List Entry} {e : Entry}
      (components : p.components = l₁ ++ e :: l₂) :
      Edits (.unregister caller e.id) (some p)
        (if (l₁ ++ l₂).isEmpty then none else some { p with components := l₁ ++ l₂ })
  | moved (pid : Pid) (p : Registration) (foreground : Bool) :
      Edits (if foreground then .foreground pid else .background pid) (some p)
        (some { p with isForeground := foreground })
  | buried (pid : Pid) (p? : Option Registration) : Edits (.died pid) p? none

theorem retouches_modify {f : Component → Component}
    (kept : ∀ e, p.get? id = some e → (f e.component).kind = e.component.kind) :
    Retouches id p (p.modify id f) where
  token := rfl
  foreground := rfl
  components := by
    have same (es : List Entry) : List.Forall₂ (fun e e' : Entry => e' = e ∨
        e.id = id ∧ e'.id = id ∧ e'.component.kind = e.component.kind) es es :=
      List.forall₂_same.mpr fun _ _ => .inl rfl
    show List.Forall₂ _ p.components (Registration.modifyEntries id f p.components)
    rw [Registration.get?] at kept
    generalize p.components = es at kept ⊢
    induction es with
    | nil => exact .nil
    | cons e rest ih =>
      unfold Registration.modifyEntries
      split
      next here =>
        have first := kept e (List.find?_cons_of_pos (decide_eq_true here))
        exact .cons (.inr ⟨here, here, first⟩) (same rest)
      next other =>
        refine .cons (.inl rfl) (ih fun e' found => kept e' ?_)
        rw [List.find?_cons_of_neg (by simpa using other)]
        exact found

/-- What a rework means to the process that the act is about. -/
theorem Reworks.edits {t t' : ComponentTable} (h : Reworks t act t') (about : act.pid? = some pid) :
    Edits act (t.processes.get? pid) (t'.processes.get? pid) := by
  cases h with
  | same => exact .untouched act _
  | inserted processes e =>
    cases about
    rw [ComponentTable.get?_insert, if_pos rfl, processes]
    exact .appended rfl e
  | @redeclared _ caller id f declares target kept =>
    obtain rfl := Option.some.inj ((Act.pid_of_declarer declares).symm.trans about)
    rw [ComponentTable.get?_modify, if_pos rfl]
    cases found : t.processes.get? caller.pid with
    | none => exact .untouched act none
    | some p =>
      refine .retouched (Option.isSome_of_eq_some declares) target (retouches_modify fun e entry => kept e ?_)
      rw [ComponentTable.lookup?, found]
      exact entry
  | @takenOut caller id present =>
    cases about
    unfold ComponentTable.lookup? at present
    cases found : t.processes.get? caller.pid with
    | none => rw [found] at present; cases present
    | some p =>
      rw [found, Option.bind_some, Registration.get?, List.find?_isSome] at present
      obtain ⟨e, listed, here⟩ := present
      obtain ⟨e, l₁, l₂, -, here, components, erased⟩ := List.exists_of_eraseP (p := fun e => decide (e.id = id)) listed here
      obtain rfl : e.id = id := of_decide_eq_true here
      have left : p.erase e.id = { p with components := l₁ ++ l₂ } := by
        rw [Registration.erase, erased]
      rw [ComponentTable.get?_takenOut found, left]
      exact .removed components
  | moved pid' foreground =>
    obtain rfl : pid' = pid := by cases foreground <;> exact Option.some.inj about
    rw [ComponentTable.get?_setForeground, if_pos rfl]
    cases t.processes.get? pid' with
    | none => exact .untouched _ none
    | some p => exact .moved pid' p foreground
  | dropped pid' =>
    cases about
    rw [ComponentTable.get?_dropProcess, if_pos rfl]
    exact .buried _ _

/-! ## Kinds -/

theorem find?_ids {es : List Entry} {e : Entry} (once : (es.map (·.id)).Nodup) (listed : e ∈ es) :
    es.find? (fun e' => decide (e'.id = e.id)) = some e := by
  induction es with
  | nil => cases listed
  | cons first rest ih =>
    obtain ⟨fresh, once⟩ := List.nodup_cons.mp once
    rcases List.mem_cons.mp listed with rfl | listed
    · exact List.find?_cons_of_pos (decide_eq_true rfl)
    · have other : ¬first.id = e.id := fun same => fresh (List.mem_map.mpr ⟨e, listed, same.symm⟩)
      rw [List.find?_cons_of_neg (by simpa using other)]
      exact ih once listed

/-- The first component of an identifier is declared anew as the same kind. -/
theorem Retouches.kind_eq {target : ComponentId} (h : Retouches target p p') {e e' : Entry}
    (before : p.get? id = some e) (after : p'.get? id = some e') :
    e'.component.kind = e.component.kind := by
  have components := h.components
  rw [Registration.get?] at before after
  generalize p.components = es at components before
  generalize p'.components = es' at components after
  induction components with
  | nil => cases before
  | @cons x x' rest rest' same others ih =>
    have ids : x'.id = x.id := by
      rcases same with rfl | ⟨here, there, -⟩
      · rfl
      · exact there.trans here.symm
    have kinds : x'.component.kind = x.component.kind := by
      rcases same with rfl | ⟨-, -, kind⟩
      · rfl
      · exact kind
    -- the search stops at the same place in both lists
    have hit (x : Entry) (rest : List Entry) (here : x.id = id) :
        (x :: rest).find? (fun e => decide (e.id = id)) = some x :=
      List.find?_cons_of_pos (decide_eq_true here)
    have miss (x : Entry) (rest : List Entry) (other : ¬x.id = id) :
        (x :: rest).find? (fun e => decide (e.id = id)) = rest.find? fun e => decide (e.id = id) :=
      List.find?_cons_of_neg (by simpa using other)
    by_cases here : x.id = id
    · rw [hit x rest here] at before
      rw [hit x' rest' (ids.trans here)] at after
      cases before
      cases after
      exact kinds
    · rw [miss x rest here] at before
      rw [miss x' rest' (ids ▸ here)] at after
      exact ih before after

/-- A component that an act leaves in its process keeps its kind. -/
theorem Edits.kind_eq {p? p'? : Option Registration} (h : Edits act p? p'?)
    (once : ∀ p, p? = some p → (p.components.map (·.id)).Nodup) {e e' : Entry}
    (before : p?.bind (·.get? id) = some e) (after : p'?.bind (·.get? id) = some e') :
    e'.component.kind = e.component.kind := by
  cases h with
  | untouched => rw [before] at after; cases after; rfl
  | @appended _ _ _ _ _ p old new =>
    cases p? with
    | none => cases before
    | some p₀ =>
      obtain rfl : p = p₀ := old
      rw [Option.bind_some, Registration.get?] at before after
      rw [List.find?_append, before] at after
      cases after
      rfl
  | retouched _ _ retouches => exact retouches.kind_eq before after
  | @removed _ p l₁ l₂ gone components =>
    have once := once p rfl
    split at after
    · cases after
    · rw [Option.bind_some, Registration.get?] at before after
      -- what is found afterwards was listed before, and no other component has its identifier
      have listed : e' ∈ p.components := by
        rw [components]
        rcases List.mem_append.mp (List.mem_of_find?_eq_some after) with first | second
        · exact List.mem_append_left _ first
        · exact List.mem_append_right _ (.tail _ second)
      have same : e'.id = id := by simpa using List.find?_some after
      have found := find?_ids once listed
      rw [same, before] at found
      cases found
      rfl
  | moved pid p foreground => rw [show e' = e from Option.some.inj (after.symm.trans before)]
  | buried => cases after

theorem Fires.sameKinds {event : TimerEvent} (h : Fires r event log r') :
    r.table.SameKinds r'.table := by
  cases h with
  | save token serial =>
    unfold withdrawSave changeGrants
    cases GrantState.revokeSave token serial r.toGrantState with
    | mk last g =>
      cases last with
      | true => exact ComponentTable.sameKinds_clearGranted r.table token .perClick
      | false => exact fun _ _ => rfl
  | background =>
    unfold backgrounded
    dsimp only
    split
    · exact fun _ _ => rfl
    · exact ComponentTable.sameKinds_clearGranted r.table _ .capability
  | idle =>
    unfold beginShutdown
    split <;> exact fun _ _ => rfl

theorem FiresAll.sameKinds {events : List TimerEvent} (h : FiresAll r events log r') :
    r.table.SameKinds r'.table :=
  h.keeps (fun u => r.table.SameKinds u.table)
    (fun first same pid id => (first.sameKinds pid id).trans (same pid id)) fun _ _ => rfl

/-- What is about no process leaves every component what it is. -/
theorem Outcome.sameKinds (h : Outcome s r act log reply r') (nobody : act.pid? = none) :
    r.table.SameKinds r'.table := by
  cases h with
  | armIdleExit => exact fun _ _ => rfl
  | fire ends => exact ends.sameKinds
  | runDueTimers ends => exact ends.sameKinds
  | setClock now => exact fun _ _ => rfl
  | _ => cases nobody

/-- A component that is stored before and after a turn is of the same kind. -/
theorem Outcome.kind_eq (h : Outcome s r act log reply r') (distinct : r.table.Distinct) {e e' : Entry}
    (before : r.table.lookup? pid id = some e) (after : r'.table.lookup? pid id = some e') :
    e'.component.kind = e.component.kind := by
  cases about : act.pid? with
  | none =>
    have kinds := h.sameKinds about pid id
    rw [before, after] at kinds
    exact Option.some.inj kinds
  | some pid' =>
    have reworks := h.reworks about
    by_cases own : pid = pid'
    · subst own
      exact (reworks.edits about).kind_eq (fun p found => distinct pid p found) before after
    · have same : r'.table.lookup? pid id = r.table.lookup? pid id := by
        rw [ComponentTable.lookup?, reworks.sameBut about pid own]
        rfl
      rw [same, before] at after
      cases after
      rfl

/-- For as long as a component is stored it keeps its kind. -/
theorem Run.kind_eq (run : Run s r turns r') (distinct : r.table.Distinct) {e : Entry}
    (stored : r.table.lookup? pid id = some e)
    (stays : ∀ t ∈ turns, (t.after.table.lookup? pid id).isSome) :
    ∃ e', r'.table.lookup? pid id = some e' ∧ e'.component.kind = e.component.kind := by
  induction run generalizing e with
  | done r => exact ⟨e, stored, rfl⟩
  | @next t rest last taken run ih =>
    obtain ⟨first, others⟩ := List.forall_mem_cons.mp stays
    obtain ⟨e₁, found⟩ := Option.isSome_iff_exists.mp first
    have kind := taken.outcome.kind_eq distinct stored found
    obtain ⟨e', found', kind'⟩ := ih (taken.outcome.distinct distinct) found others
    exact ⟨e', found', kind'.trans kind⟩

end Registry

end ClickGrant
