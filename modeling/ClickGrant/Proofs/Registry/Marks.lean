import ClickGrant.Proofs.Registry.Processes
import ClickGrant.Proofs.Registry.Standalone

/-!
# Marks of grants

A stored component bears the mark of a grant from a granted click on. `Honest` says that every
mark stands for a permission that is outstanding: the identity of a marked save component has a
save grant, and that of a marked location or paste component holds the capability. What is proved:
  1. `Clicks.honest`, `Fires.honest` — a click marks what it grants, and a timer that takes the
     last permission of a style takes the marks from every component of the identity.
  2. `Outcome.honest_iff` — an act leaves every mark honest, unless it `Orphans` one: a process
     dies whose identity has another process with a marked component. Everything is taken back from
     the identity, but only the dead process's components go.
  3. `honest_throughout_iff` — so every mark is honest in every state of a run exactly if no turn
     of the run orphans one.
  4. `orphaned_by_death` — and that does happen: of two processes of an application one has a click
     granted and the other one dies.
-/
set_option autoImplicit false

namespace ClickGrant

/-- The identity has a permission of this kind. -/
structure Ledger.Outstanding (l : Ledger) (token : Token) (kind : Kind) : Prop where
  save : kind.grantStyle = .perClick → 0 < l.saveCount token
  capability : kind.grantStyle = .capability → l.hasCapability token kind = true

theorem Ledger.hasCapability_iff {l : Ledger} {token : Token} {kind : Kind} :
    l.hasCapability token kind = true ↔ kind ∈ l.kindsOf token := List.contains_iff_mem

namespace ComponentTable

variable {t t' : ComponentTable} {pid pid' : Pid} {token token' : Token} {kind : Kind}
  {id : ComponentId}

/-- The process, registered under this identity, has a component of this kind with the mark of a
grant. -/
def Marked (t : ComponentTable) (pid : Pid) (token : Token) (kind : Kind) : Prop :=
  ∃ p e, t.processes.get? pid = some p ∧ p.token = token ∧ e ∈ p.components ∧
    e.component.isGranted = true ∧ e.component.kind = kind

/-! ## Who is marked after each change -/

theorem Marked.of_modify {f : Component → Component} (h : (t.modify pid' id f).Marked pid token kind) :
    t.Marked pid token kind ∨
      ∃ p old, pid' = pid ∧ t.processes.get? pid = some p ∧ p.token = token ∧ p.get? id = some old ∧
        (f old.component).isGranted = true ∧ (f old.component).kind = kind := by
  obtain ⟨p', e, found, rfl, he, granted, rfl⟩ := h
  rw [get?_modify] at found
  split at found
  next here =>
    obtain ⟨p, old, rfl⟩ := Option.map_eq_some_iff.mp found
    rcases Registration.mem_modifyEntries he with he | ⟨first, present, rfl⟩
    · exact .inl ⟨p, e, old, rfl, he, granted, rfl⟩
    · exact .inr ⟨p, first, here, old, rfl, present, granted, rfl⟩
  next => exact .inl ⟨p', e, found, rfl, he, granted, rfl⟩

/-- A change that gives nobody the mark and leaves the kind as it is. -/
theorem Marked.of_modify_same {f : Component → Component}
    (same : ∀ c, (f c).isGranted = c.isGranted ∧ (f c).kind = c.kind)
    (h : (t.modify pid' id f).Marked pid token kind) : t.Marked pid token kind := by
  obtain before | ⟨p, old, rfl, found, rfl, present, granted, rfl⟩ := h.of_modify
  · exact before
  · obtain ⟨marks, kinds⟩ := same old.component
    exact ⟨p, old, found, rfl, List.mem_of_find?_eq_some present, marks ▸ granted, kinds.symm⟩

theorem Marked.of_take (h : (t.take pid' id).Marked pid token kind) : t.Marked pid token kind := by
  obtain ⟨p', e, found, rfl, he, granted, rfl⟩ := h
  rw [get?_take] at found
  obtain ⟨p, old, rfl | rfl⟩ := old_of_changed found
  · exact ⟨p, e, old, rfl, List.eraseP_sublist.mem he, granted, rfl⟩
  · exact ⟨p', e, old, rfl, he, granted, rfl⟩

theorem Marked.of_dropProcess (h : (t.dropProcess pid').Marked pid token kind) :
    t.Marked pid token kind ∧ pid' ≠ pid := by
  obtain ⟨p, e, found, rfl, he, granted, rfl⟩ := h
  rw [get?_dropProcess] at found
  split at found
  · cases found
  next other => exact ⟨⟨p, e, found, rfl, he, granted, rfl⟩, other⟩

theorem Marked.of_dropIfEmpty (h : (t.dropIfEmpty pid').Marked pid token kind) :
    t.Marked pid token kind := by
  unfold dropIfEmpty at h
  split at h
  · split at h
    · exact h.of_dropProcess.1
    · exact h
  · exact h

theorem Marked.of_setForeground {foreground : Bool}
    (h : (t.setForeground pid' foreground).Marked pid token kind) : t.Marked pid token kind := by
  obtain ⟨p', e, found, rfl, he, granted, rfl⟩ := h
  rw [get?_setForeground] at found
  obtain ⟨p, old, rfl | rfl⟩ := old_of_changed found
  · exact ⟨p, e, old, rfl, he, granted, rfl⟩
  · exact ⟨p', e, old, rfl, he, granted, rfl⟩

/-- No component of the style keeps its mark, in any process of the identity. -/
theorem Marked.of_clearGranted {style : GrantStyle}
    (h : (t.clearGranted token' style).Marked pid token kind) :
    t.Marked pid token kind ∧ ¬(token' = token ∧ kind.grantStyle = style) := by
  obtain ⟨p', e', found, rfl, he, granted, rfl⟩ := h
  rw [show (t.clearGranted token' style).processes.get? pid = _ from Assoc.get?_mapValues ..] at found
  obtain ⟨p, old, rfl⟩ := Option.map_eq_some_iff.mp found
  split at he
  next here =>
    obtain ⟨e, inside, rfl⟩ := List.mem_map.mp he
    rw [if_pos here]
    split at granted
    next => cases granted
    next kept =>
      rw [if_neg kept]
      exact ⟨⟨p, e, old, rfl, inside, granted, rfl⟩, fun h => kept h.2⟩
  next other =>
    rw [if_neg other]
    exact ⟨⟨p, e', old, rfl, he, granted, rfl⟩, fun h => other h.1.symm⟩

/-- A component that comes in without the mark. -/
theorem Marked.of_insert {e : Entry} {u : ComponentTable} (bare : e.component.isGranted = false)
    (same : u.processes = t.processes) (h : (u.insert pid' token' e).Marked pid token kind) :
    t.Marked pid token kind := by
  obtain ⟨p', e', found, rfl, he, granted, rfl⟩ := h
  rw [get?_insert, same] at found
  split at found
  next here =>
    cases found
    rcases List.mem_append.mp he with he | he
    · unfold Assoc.getD at he ⊢
      subst here
      cases old : t.processes.get? pid' with
      | none => rw [old] at he; cases he
      | some p => rw [old] at he; exact ⟨p, e', old, rfl, he, granted, rfl⟩
    · rw [List.mem_singleton.mp he, bare] at granted
      cases granted
  next => exact ⟨p', e', found, rfl, he, granted, rfl⟩

end ComponentTable

namespace Registry

variable {s : Settings} {r r' : Registry} {caller : Caller} {c : Component} {declared : String}
  {log : List Exchange} {act : Act} {reply : Except Refusal Unit} {pid : Pid} {id : ComponentId}
  {kind : Kind} {event : ClickEvent} {handle : Option UInt64} {token token' : Token}

/-- Every mark stands for a permission that is outstanding. -/
def Honest (r : Registry) : Prop :=
  ∀ pid token kind, r.table.Marked pid token kind → r.ledger.Outstanding token kind

/-- A process dies whose identity has another process with a marked component. -/
def Orphans (t : Turn) : Prop :=
  match t.act with
  | .died pid => ∃ p pid' kind, t.before.table.processes.get? pid = some p ∧ pid' ≠ pid ∧
      t.before.table.Marked pid' p.token kind
  | _ => False

/-- Nobody is newly marked, and nothing is taken back. -/
theorem Honest.mono (honest : Honest r)
    (marks : ∀ pid token kind, r'.table.Marked pid token kind → r.table.Marked pid token kind)
    (ledger : r'.ledger = r.ledger) : Honest r' := by
  intro pid token kind marked
  rw [ledger]
  exact honest pid token kind (marks pid token kind marked)

/-! ## Calls -/

theorem Honest.markInvalid (honest : Honest r) (pid : Pid) (id : ComponentId) :
    Honest (markInvalid pid id r) :=
  honest.mono (fun _ _ _ marked =>
    marked.of_modify_same (f := fun c => { c with isValid := false }) fun _ => ⟨rfl, rfl⟩) rfl

theorem Admits.honest {result : Except Refusal Component}
    (h : Admits s caller c declared r log result r') (honest : Honest r) : Honest r' :=
  honest.mono (fun _ _ _ marked => h.table_eq ▸ marked) (by rw [h.grants_eq])

/-- A new component comes in without the mark. -/
theorem Registers.honest {result : Except Refusal ComponentId}
    (h : Registers s caller kind c declared r log result r') (honest : Honest r) : Honest r' := by
  cases h with
  | barred => exact honest
  | otherKind => exact honest
  | unadmitted _ _ refused => exact refused.honest honest
  | clash => exact honest
  | @stored _ c' id u _ _ _ _ admitted fits stored =>
    subst stored
    obtain ⟨-, _, _, rect, -, rfl, -⟩ := admitted.of_ok
    refine honest.mono (fun pid token kind marked => ?_) (idleOnly_synced s rfl).ledger_eq
    rw [showActive_eq, table_measure, table_synced] at marked
    exact marked.of_insert (e := ⟨id, (unmarked c).shownAt rect⟩) rfl
      (ComponentTable.allocate_ends fits.free).2

/-- A component that is declared anew keeps its kind, and the mark if it bears it. -/
theorem Updates.honest (h : Updates s caller id c declared r log reply r') (honest : Honest r) :
    Honest r' := by
  cases h with
  | turnedAway => exact honest
  | unadmitted _ refused => exact (refused.honest honest).markInvalid caller.pid id
  | replaced door admitted =>
    obtain ⟨-, _, _, rect, -, rfl, -⟩ := admitted.of_ok
    refine honest.mono (fun pid token kind marked => ?_) rfl
    obtain before | ⟨p, old, rfl, found, rfl, present, granted, rfl⟩ := marked.of_modify
    · exact before
    · obtain ⟨p', e, found', present', same, -⟩ := door.present
      obtain rfl := Option.some.inj (found.symm.trans found')
      obtain rfl := Option.some.inj (present.symm.trans present')
      exact ⟨p, old, found, rfl, List.mem_of_find?_eq_some present, granted, same⟩

theorem Unregisters.honest (h : Unregisters s caller id r log reply r') (honest : Honest r) :
    Honest r' := by
  cases h with
  | taken _ _ _ left =>
    subst left
    refine honest.mono (fun pid token kind marked => ?_) (idleOnly_synced s rfl).ledger_eq
    rw [table_synced, showActive_eq, table_measure] at marked
    exact marked.of_dropIfEmpty.of_take
  | _ => exact honest

theorem Believes.honest {result : Except Refusal Unit} (h : Believes s caller c event r log result r')
    (honest : Honest r) : Honest r' :=
  honest.mono (fun _ _ _ marked => h.table_eq ▸ marked) (by rw [h.grants_eq])

/-- What is credited is outstanding. -/
theorem outstanding_credited (s : Settings) (token : Token) (kind : Kind) (g : GrantState) :
    (credited s token kind g).ledger.Outstanding token kind where
  save := by
    intro style
    rw [credited, style]
    show 0 < (GrantState.grantSave s.delays token g).2.ledger.saveCount token
    rw [GrantState.saveCount_grantSave, if_pos rfl]
    exact Nat.succ_pos _
  capability := by
    intro style
    rw [Ledger.hasCapability_iff, kindsOf_credited, if_pos ⟨rfl, style⟩]
    exact (Kind.mem_insert kind kind _).mpr (.inl rfl)

/-- What is outstanding stays so when something is credited. -/
theorem outstanding_after_credited {g : GrantState} {kind' : Kind} (h : g.ledger.Outstanding token' kind')
    (s : Settings) (token : Token) (kind : Kind) :
    (credited s token kind g).ledger.Outstanding token' kind' where
  save := by
    intro style
    have before := h.save style
    unfold Registry.credited
    split
    · rw [GrantState.saveCount_grantSave]
      split
      · exact Nat.succ_pos _
      · exact before
    · exact before
  capability := by
    intro style
    have before := Ledger.hasCapability_iff.mp (h.capability style)
    rw [Ledger.hasCapability_iff, kindsOf_credited]
    split
    next here => exact (Kind.mem_insert _ _ _).mpr (.inr (here.1 ▸ before))
    next => exact before

/-- A granted click marks its component, and the permission is outstanding. -/
theorem Clicks.honest (h : Clicks s caller id c declared event handle r log reply r')
    (honest : Honest r) : Honest r' := by
  cases h with
  | turnedAway => exact honest
  | unadmitted _ refused => exact (refused.honest honest).markInvalid caller.pid id
  | unbelieved _ _ disbelief => exact disbelief.honest honest
  | unconsented => exact honest
  | denied _ _ _ _ refused => cases refused; exact honest
  | @granted _ _ _ token _ _ f door admitted =>
    obtain ⟨-, _, _, rect, -, rfl, -⟩ := admitted.of_ok
    intro pid token' kind marked
    rw [table_measure] at marked
    rw [toGrantState_measure]
    obtain before | ⟨p, _, rfl, found, rfl, -, -, rfl⟩ := marked.of_modify
    · exact outstanding_after_credited (honest pid token' kind before) s token c.kind
    · obtain ⟨p', _, found', -, -, rfl⟩ := door.present
      obtain rfl := Option.some.inj (found.symm.trans found')
      exact outstanding_credited s p.token c.kind r.toGrantState

/-! ## Timers -/

theorem outstanding_after_revokeSave {serial : UInt64} {g : GrantState} (h : g.ledger.Outstanding token' kind)
    (other : ¬(token = token' ∧ kind.grantStyle = .perClick)) :
    (GrantState.revokeSave token serial g).2.ledger.Outstanding token' kind where
  save := by
    intro style
    rw [GrantState.saveCount_revokeSave_of_ne fun same => other ⟨same, style⟩]
    exact h.save style
  capability := by
    intro style
    rw [Ledger.hasCapability_iff, GrantState.kindsOf_revokeSave, ← Ledger.hasCapability_iff]
    exact h.capability style

/-- A save grant is taken back; with the last one the identity's save components lose the mark. -/
theorem Honest.withdrawSave (honest : Honest r) (token : Token) (serial : UInt64) :
    Honest (withdrawSave token serial r) := by
  intro pid token' kind marked
  rw [ledger_withdrawSave]
  unfold Registry.withdrawSave changeGrants at marked
  cases left : GrantState.revokeSave token serial r.toGrantState with
  | mk last g =>
    rw [left] at marked
    cases last with
    | true =>
      obtain ⟨before, other⟩ := marked.of_clearGranted
      rw [← left]
      exact outstanding_after_revokeSave (honest pid token' kind before) other
    | false =>
      have before := honest pid token' kind marked
      rw [← left]
      by_cases here : token = token' ∧ kind.grantStyle = .perClick
      · obtain ⟨rfl, style⟩ := here
        refine ⟨fun _ => GrantState.saveCount_pos_of_revokeSave (congrArg Prod.fst left), ?_⟩
        rw [style]
        exact nofun
      · exact outstanding_after_revokeSave before here

/-- An identity loses its capabilities, and its components the marks of them. -/
theorem Honest.backgrounded (honest : Honest r) (token : Token) : Honest (backgrounded token r) := by
  intro pid token' kind marked
  have before : r.table.Marked pid token' kind ∧
      ¬(token = token' ∧ kind.grantStyle = .capability ∧ r.ledger.kindsOf token ≠ []) := by
    unfold Registry.backgrounded at marked
    dsimp only at marked
    split at marked
    next none => exact ⟨marked, fun h => h.2.2 (List.isEmpty_iff.mp none)⟩
    next =>
      obtain ⟨before, other⟩ := marked.of_clearGranted
      exact ⟨before, fun h => other ⟨h.1, h.2.1⟩⟩
  have outstanding := honest pid token' kind before.1
  have other := before.2
  show (GrantState.dropCapabilities token r.toGrantState).2.ledger.Outstanding token' kind
  refine ⟨outstanding.save, fun style => ?_⟩
  have held := Ledger.hasCapability_iff.mp (outstanding.capability style)
  rw [Ledger.hasCapability_iff, GrantState.kindsOf_dropCapabilities, if_neg]
  · exact held
  · -- the identity held the capability, so its components were cleared
    rintro rfl
    exact other ⟨rfl, style, List.ne_nil_of_mem held⟩

theorem Fires.honest {fired : TimerEvent} (h : Fires r fired log r') (honest : Honest r) :
    Honest r' := by
  cases h with
  | save token serial => exact honest.withdrawSave token serial
  | background => exact honest.backgrounded _
  | idle =>
    refine honest.mono (fun _ _ _ marked => ?_) (ledger_beginShutdown r)
    unfold beginShutdown at marked
    split at marked <;> exact marked

theorem FiresAll.honest {events : List TimerEvent} (h : FiresAll r events log r') (honest : Honest r) :
    Honest r' :=
  h.keeps Honest (fun first honest => first.honest honest) honest

/-! ## Deaths -/

theorem outstanding_after_forfeited {g : GrantState} (h : g.ledger.Outstanding token' kind)
    (other : token ≠ token') : (forfeited token g).ledger.Outstanding token' kind where
  save := by
    intro style
    show 0 < (GrantState.revokeSaves token g).ledger.saveCount token'
    rw [GrantState.saveCount_revokeSaves, if_neg other]
    exact h.save style
  capability := by
    intro style
    rw [Ledger.hasCapability_iff, kindsOf_forfeited, if_neg other, ← Ledger.hasCapability_iff]
    exact h.capability style

/-- After a death nothing is outstanding for the identity. -/
theorem not_outstanding_forfeited (token : Token) (kind : Kind) (g : GrantState) :
    ¬(forfeited token g).ledger.Outstanding token kind := by
  intro h
  cases style : kind.grantStyle with
  | perClick =>
    have count : 0 < (GrantState.revokeSaves token g).ledger.saveCount token := h.save style
    rw [GrantState.saveCount_revokeSaves, if_pos rfl] at count
    exact Nat.lt_irrefl 0 count
  | capability =>
    have held := Ledger.hasCapability_iff.mp (h.capability style)
    rw [kindsOf_forfeited, if_pos rfl] at held
    cases held

/-- A death leaves every mark honest exactly if no other process of the identity is marked. -/
theorem Dies.honest_iff (h : Dies s pid r log r') (honest : Honest r) :
    Honest r' ↔ ¬∃ p pid' kind, r.table.processes.get? pid = some p ∧ pid' ≠ pid ∧
      r.table.Marked pid' p.token kind := by
  cases h with
  | unknown absent =>
    constructor
    · rintro - ⟨p, -, -, found, -⟩
      rw [absent] at found
      cases found
    · intro _
      exact honest.mono (fun _ _ _ marked => marked.of_dropProcess.1) rfl
  | @known p _ n u present _ left =>
    subst left
    have ledger := (idleOnly_synced s (u := showActive n
      { (removeProcess pid r).2 with toGrantState := forfeited p.token r.toGrantState }) rfl).ledger_eq
    constructor
    · rintro honest' ⟨p', pid', kind, found, other, p₂, e, found₂, same, he, granted, rfl⟩
      obtain rfl := Option.some.inj (present.symm.trans found)
      -- the other process is still there, and its identity has nothing
      have marked := honest' pid' p.token e.component.kind ⟨p₂, e, ?_, same, he, granted, rfl⟩
      · rw [ledger] at marked
        exact not_outstanding_forfeited p.token e.component.kind r.toGrantState marked
      · rw [table_synced, showActive_eq, table_measure]
        show (r.table.dropProcess pid).processes.get? pid' = some p₂
        rw [ComponentTable.get?_dropProcess, if_neg other.symm, found₂]
    · intro alone pid' token kind marked
      rw [table_synced, showActive_eq, table_measure] at marked
      obtain ⟨before, other⟩ := ComponentTable.Marked.of_dropProcess marked
      rw [ledger]
      refine outstanding_after_forfeited (honest pid' token kind before) ?_
      rintro rfl
      exact alone ⟨p, pid', kind, present, other.symm, before⟩

/-! ## Every act -/

/-- What is honest stays so, unless the act orphans a mark. -/
theorem Outcome.honest_iff (h : Outcome s r act log reply r') (honest : Honest r) :
    Honest r' ↔ ¬Orphans ⟨r, act, log, reply, r'⟩ := by
  have kept (after : Honest r') (other : ¬Orphans ⟨r, act, log, reply, r'⟩) :
      Honest r' ↔ ¬Orphans ⟨r, act, log, reply, r'⟩ := ⟨fun _ => other, fun _ => after⟩
  cases h with
  | register f ends => exact kept (ends.honest honest) id
  | update ends => exact kept (ends.honest honest) id
  | unregister ends => exact kept (ends.honest honest) id
  | reportClick f ends => exact kept (ends.honest honest) id
  | foreground pid =>
    refine kept (honest.mono (fun _ _ _ marked => ?_) (ledger_processForeground pid r)) id
    cases found : r.table.processes.get? pid with
    | none => rwa [processForeground_of_none found] at marked
    | some p => rw [processForeground_of_some found] at marked; exact marked.of_setForeground
  | background pid =>
    refine kept (honest.mono (fun _ _ _ marked => ?_) (ledger_processBackground s pid r)) id
    cases found : r.table.processes.get? pid with
    | none => rwa [processBackground_of_none found] at marked
    | some p => rw [processBackground_of_some found] at marked; exact marked.of_setForeground
  | died ends => exact ends.honest_iff honest
  | armIdleExit => exact kept (honest.mono (fun _ _ _ marked => marked) rfl) id
  | fire ends => exact kept (ends.honest honest) id
  | runDueTimers ends =>
    exact kept (ends.honest (honest.mono (fun _ _ _ marked => marked) rfl)) id
  | setClock now => exact kept (honest.mono (fun _ _ _ marked => marked) rfl) id

/-- Every mark is honest in every state of a run exactly if no turn of the run orphans one. -/
theorem honest_throughout_iff {now : UInt64} {consents : ConsentStore} {metrics : Option Metrics}
    {turns : List Turn} (run : Run s (.start now consents metrics) turns r) :
    (∀ t ∈ turns, Honest t.after) ↔ ∀ t ∈ turns, ¬Orphans t :=
  @Run.keeps_iff s _ _ _ (fun _ => True) Honest Orphans (fun _ _ _ => trivial)
    (fun _ taken _ honest => taken.outcome.honest_iff honest) run trivial
    (by rintro _ _ _ ⟨_, _, found, _⟩; cases found)

namespace Scene

/-- Another process of the application. -/
def helper : Caller := { app with pid := 4343 }

/-- Two processes of the application register a save button each, the helper's is clicked, and the
other process dies. -/
def leftBehind : List Act :=
  [.register app .save saveButton "", .register helper .save lowerButton "",
    .reportClick helper 1001 lowerButton "" (.point 1000000 ⟨150, 330⟩ (some [1])) none,
    .died app.pid]

end Scene

open Scene in
theorem honest_throughout_leftBehind :
    Run settings fresh (turns leftBehind) (state leftBehind) ∧
      ((∀ t ∈ turns leftBehind, Honest t.after) ↔ ∀ t ∈ turns leftBehind, ¬Orphans t) :=
  ⟨run_turns leftBehind, honest_throughout_iff (run_turns leftBehind)⟩

open Scene in
/-- The helper's button keeps the mark, and the save grant it stands for is gone. -/
theorem orphaned_by_death :
    ∃ turns r, Run settings fresh turns r ∧ turns.map (·.act) = leftBehind ∧ ¬Honest r := by
  refine ⟨_, _, run_turns _, map_act_turns _, fun honest => ?_⟩
  have marked : ((state leftBehind).table.processes.get? 4343).any (fun p => p.token = 537 ∧
      (p.components.any fun e => e.component.isGranted ∧ e.component.kind = .save) = true) = true := by
    decide +kernel
  obtain ⟨p, found, h⟩ := (Option.any_eq_true _ _).mp marked
  obtain ⟨token, h⟩ := of_decide_eq_true h
  obtain ⟨e, he, h⟩ := List.any_eq_true.mp h
  obtain ⟨granted, kind⟩ := of_decide_eq_true h
  have outstanding := honest 4343 537 .save ⟨p, e, found, token, he, granted, kind⟩
  exact absurd (outstanding.save rfl) (by decide +kernel)

end Registry

end ClickGrant
