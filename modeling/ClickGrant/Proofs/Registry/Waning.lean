import ClickGrant.Proofs.Chronicle
import ClickGrant.Proofs.Registry.Conviction
import ClickGrant.Proofs.Registry.Disturbed
import ClickGrant.Proofs.Registry.Identifiers

/-!
# Tables that wane

Except where a component is declared, nothing is ever added to the table: components are taken out,
and marks of grants are cleared. `ComponentTable.Wanes` says so of two tables. What is proved:
  1. `ComponentTable.wanes_takenOut`, `wanes_clearGranted` and their like — what each change of the
     table does.
  2. `same_verifyEvent`, `same_issue` and their like — belief, consent, issue and posture do not
     touch the table at all.
  3. `moves_wanes` — every act that declares no component lets the table wane, whatever others do
     while it waits.
-/
set_option autoImplicit false

namespace ClickGrant

open Registry (unmarked)

/-! ## Tables that wane -/

namespace ComponentTable

variable {t t' t'' : ComponentTable} {pid : Pid} {e : Entry}

/-- The component is one of the process's. -/
def Lists (t : ComponentTable) (pid : Pid) (e : Entry) : Prop :=
  ∃ p, t.processes.get? pid = some p ∧ e ∈ p.components

/-- Nothing is new, and nothing has changed but that marks of grants were cleared. -/
def Wanes (t t' : ComponentTable) : Prop :=
  ∀ pid e', t'.Lists pid e' → ∃ e, t.Lists pid e ∧ e'.id = e.id ∧
    (e'.component = e.component ∨ e'.component = unmarked e.component)

theorem Wanes.refl (t : ComponentTable) : t.Wanes t := fun _ e h => ⟨e, h, rfl, .inl rfl⟩

theorem Wanes.of_eq (same : t' = t) : t.Wanes t' := same ▸ .refl t

theorem Wanes.trans (h₁ : t.Wanes t') (h₂ : t'.Wanes t'') : t.Wanes t'' := by
  intro pid e'' listed
  obtain ⟨e', listed, id', same'⟩ := h₂ pid e'' listed
  obtain ⟨e, listed, id, same⟩ := h₁ pid e' listed
  refine ⟨e, listed, id'.trans id, ?_⟩
  rcases same' with same' | same' <;> rcases same with same | same
  · exact .inl (same'.trans same)
  · exact .inr (same'.trans same)
  · exact .inr (by rw [same', same])
  · exact .inr (by rw [same', same]; rfl)

/-- Processes that have nothing new among their components. -/
theorem Wanes.of_processes (h : ∀ pid p', t'.processes.get? pid = some p' →
    ∃ p, t.processes.get? pid = some p ∧ ∀ e' ∈ p'.components, ∃ e ∈ p.components, e'.id = e.id ∧
      (e'.component = e.component ∨ e'.component = unmarked e.component)) : t.Wanes t' := by
  rintro pid e' ⟨p', found, listed⟩
  obtain ⟨p, old, among⟩ := h pid p' found
  obtain ⟨e, listed, same⟩ := among e' listed
  exact ⟨e, ⟨p, old, listed⟩, same⟩

/-- Processes that have lost some of their components at most. -/
theorem Wanes.of_subsets (h : ∀ pid p', t'.processes.get? pid = some p' →
    ∃ p, t.processes.get? pid = some p ∧ ∀ e ∈ p'.components, e ∈ p.components) : t.Wanes t' := by
  refine .of_processes fun pid p' found => ?_
  obtain ⟨p, old, among⟩ := h pid p' found
  exact ⟨p, old, fun e listed => ⟨e, among e listed, rfl, .inl rfl⟩⟩

theorem wanes_dropProcess (t : ComponentTable) (pid : Pid) : t.Wanes (t.dropProcess pid) := by
  refine .of_subsets fun pid' p' found => ?_
  rw [get?_dropProcess] at found
  split at found
  · cases found
  · exact ⟨p', found, fun _ h => h⟩

theorem wanes_takenOut (t : ComponentTable) (pid : Pid) (id : ComponentId) :
    t.Wanes ((t.take pid id).dropIfEmpty pid) := by
  have taken : t.Wanes (t.take pid id) := by
    refine .of_subsets fun pid' p' found => ?_
    rw [get?_take] at found
    obtain ⟨p, old, rfl | rfl⟩ := old_of_changed found
    · exact ⟨p, old, fun _ h => List.mem_of_mem_eraseP h⟩
    · exact ⟨p', old, fun _ h => h⟩
  unfold dropIfEmpty
  split
  · split
    · exact taken.trans (wanes_dropProcess _ pid)
    · exact taken
  · exact taken

theorem wanes_setForeground (t : ComponentTable) (pid : Pid) (foreground : Bool) :
    t.Wanes (t.setForeground pid foreground) := by
  refine .of_subsets fun pid' p' found => ?_
  rw [get?_setForeground] at found
  obtain ⟨p, old, rfl | rfl⟩ := old_of_changed found
  · exact ⟨p, old, fun _ h => h⟩
  · exact ⟨p', old, fun _ h => h⟩

theorem wanes_clearGranted (t : ComponentTable) (token : Token) (style : GrantStyle) :
    t.Wanes (t.clearGranted token style) := by
  refine .of_processes fun pid p' found => ?_
  rw [show (t.clearGranted token style).processes.get? pid = _ from Assoc.get?_mapValues ..] at found
  obtain ⟨p, old, rfl⟩ := Option.map_eq_some_iff.mp found
  refine ⟨p, old, fun e' listed => ?_⟩
  split at listed
  · obtain ⟨e, among, rfl⟩ := List.mem_map.mp listed
    refine ⟨e, among, ?_⟩
    split
    · exact ⟨rfl, .inr rfl⟩
    · exact ⟨rfl, .inl rfl⟩
  · exact ⟨e', listed, rfl, .inl rfl⟩

end ComponentTable

namespace Registry

variable {s : Settings} {α : Type}

/-! ## Operations that leave the table alone, or let it wane -/

/-- The table is as it was. -/
def SameTable (_ : Nat) (r r' : Registry) : Prop := r'.table = r.table

/-- The table has waned. -/
def Wanes (_ : Nat) (r r' : Registry) : Prop := r.table.Wanes r'.table

theorem counted_sameTable : Counted SameTable where
  refl _ := rfl
  mono _ h := h
  trans h₁ h₂ := Eq.trans h₂ h₁

theorem counted_wanes : Counted Wanes where
  refl r := .refl r.table
  mono _ h := h
  trans := ComponentTable.Wanes.trans

theorem moves_wanes_of_same {n : Nat} {x : Op Registry α} (h : x.Moves (SameTable n)) :
    x.Moves (Wanes n) := fun r => (h r).mono fun _ _ same => .of_eq same

theorem moves_anyhow {σ : Type} (x : Op σ α) : x.Moves fun _ _ => True := by
  intro s
  generalize x s = d
  induction d generalizing s with
  | done t a => trivial
  | ask t q next ih => exact ⟨trivial, fun found r => ih found r found⟩

theorem same_onGrants (x : Op GrantState α) : (onGrants x).Moves (SameTable 0) :=
  Op.moves_within (fun _ _ _ => rfl) (moves_anyhow x)

theorem same_callConsents (x : Call ConsentStore α) : Call.Moves (SameTable 0) (callConsents x) :=
  Op.moves_within (fun _ _ _ => rfl) (moves_anyhow x.run)

theorem same_verifyEvent (caller : Caller) (c : Component) (event : ClickEvent) :
    Call.Moves (SameTable 0) (verifyEvent s caller c event) := by
  refine Op.AsksFirst.moves counted_sameTable.refl asksFirst_verifyEvent fun r log result r' does => ?_
  exact (verifyEvent_ends does).table_eq

theorem same_issue (token : Token) (kind : Kind) : Call.Moves (SameTable 0) (issue s token kind) := by
  refine Op.AsksFirst.moves counted_sameTable.refl asksFirst_issue fun r log result r' does => ?_
  cases issue_ends does <;> rfl

theorem same_syncPosture : (syncPosture s).Moves (SameTable 0) :=
  syncPosture_moves counted_sameTable (fun _ => rfl) (fun _ => rfl) fun _ => rfl

theorem wanes_withdrawSave (token : Token) (serial : UInt64) (r : Registry) :
    r.table.Wanes (withdrawSave token serial r).table := by
  unfold withdrawSave changeGrants
  dsimp only
  split
  next h =>
    obtain ⟨-, rfl⟩ := Prod.mk.inj h
    exact ComponentTable.wanes_clearGranted r.table token .perClick
  next h =>
    obtain ⟨-, rfl⟩ := Prod.mk.inj h
    exact .refl r.table

theorem wanes_withdraw (token : Token) (kind : Kind) (issued : Issued) :
    (withdraw token kind issued).Moves (Wanes 0) := by
  cases issued with
  | save serial => exact Op.moves_modify (wanes_withdrawSave token serial)
  | capability newly =>
    cases newly with
    | true =>
      exact moves_wanes_of_same (counted_sameTable.moves_then (same_onGrants _) fun _ =>
        counted_sameTable.moves_pure ())
    | false => exact counted_wanes.moves_pure ()

theorem wanes_unregister (caller : Caller) (id : ComponentId) :
    Call.Moves (Wanes 0) (unregister s caller id) := by
  have running : Call.Moves (Wanes 0) ensureRunning := by
    refine Call.moves_get_bind fun r => ?_
    split
    · exact Call.moves_throw counted_wanes _
    · exact Call.moves_pure counted_wanes ()
  have natural : Call.Moves (Wanes 0) (ensureId id) := by
    unfold ensureId
    split
    · exact Call.moves_throw counted_wanes _
    · exact Call.moves_pure counted_wanes ()
  refine Call.moves_then counted_wanes running fun _ => Call.moves_then counted_wanes natural fun _ => ?_
  refine Call.moves_then counted_wanes (Call.moves_attempt counted_wanes ?_) fun active => ?_
  · intro r active r' takes
    obtain ⟨-, rfl⟩ := takeOut_ok takes
    exact ComponentTable.wanes_takenOut r.table caller.pid id
  · exact Call.moves_then counted_wanes (Call.moves_modify fun r => .refl r.table) fun _ =>
      Call.moves_liftM counted_wanes (moves_wanes_of_same same_syncPosture)

theorem wanes_processDied (pid : Pid) : (processDied s pid).Moves (Wanes 0) := by
  have removes : Op.Moves (Wanes 0) (modifyGet (removeProcess pid)) :=
    Op.moves_modifyGet fun r => ComponentTable.wanes_dropProcess r.table pid
  have forfeits (p : Registration) (active : Nat) : Op.Moves (Wanes 0) (do
      onGrants (GrantState.revokeEverything p.token)
      modify (showActive active)
      syncPosture s) := by
    refine moves_wanes_of_same (counted_sameTable.moves_then (same_onGrants _) fun _ => ?_)
    exact counted_sameTable.moves_then (Op.moves_modify fun _ => rfl) fun _ => same_syncPosture
  refine counted_wanes.moves_then removes fun found => ?_
  obtain ⟨removed, active⟩ := found
  cases removed with
  | none =>
    dsimp only
    split
    · exact counted_wanes.moves_then (counted_wanes.moves_ask _) fun _ => counted_wanes.moves_pure ()
    · exact counted_wanes.moves_pure ()
  | some p =>
    dsimp only
    split
    · exact counted_wanes.moves_then (counted_wanes.moves_ask _) fun _ => forfeits p active
    · exact forfeits p active

theorem wanes_handleTimer (event : TimerEvent) : (handleTimer event).Moves (Wanes 0) := by
  cases event with
  | saveExpired token serial => exact Op.moves_modify (wanes_withdrawSave token serial)
  | idleExpired => exact Op.moves_modify fun r => .of_eq (table_beginShutdown r)
  | backgroundExpired token =>
    refine counted_wanes.moves_then (moves_wanes_of_same (same_onGrants _)) fun kinds => ?_
    split
    · exact Op.moves_modify fun r => ComponentTable.wanes_clearGranted r.table token .capability
    · exact counted_wanes.moves_pure ()

theorem wanes_handleTimers (events : List TimerEvent) : (handleTimers events).Moves (Wanes 0) := by
  induction events with
  | nil => exact counted_wanes.moves_pure ()
  | cons event rest ih => exact counted_wanes.moves_then (wanes_handleTimer event) fun _ => ih

theorem wanes_processForeground (pid : Pid) (r : Registry) :
    r.table.Wanes (processForeground pid r).2.table := by
  unfold processForeground
  split
  · exact .refl r.table
  · exact ComponentTable.wanes_setForeground r.table pid true

theorem wanes_processBackground (pid : Pid) (r : Registry) :
    r.table.Wanes (processBackground s pid r).2.table := by
  unfold processBackground
  split
  · exact .refl r.table
  · exact ComponentTable.wanes_setForeground r.table pid false

/-- Whatever declares no component lets the table wane. -/
theorem moves_wanes {act : Act} (silent : act.declarer? = none) : (perform s act).Moves (Wanes 0) := by
  -- an act whose result does not matter
  have replies {α : Type} {x : Op Registry α} (h : x.Moves (Wanes 0)) :
      (x >>= fun _ => (pure (.ok ()) : Op Registry (Except Refusal Unit))).Moves (Wanes 0) :=
    counted_wanes.moves_then h fun _ => counted_wanes.moves_pure _
  cases act with
  | register => cases silent
  | update => cases silent
  | unregister caller id => exact wanes_unregister caller id
  | reportClick => cases silent
  | foreground pid => exact replies (Op.moves_modifyGet (wanes_processForeground pid))
  | background pid => exact replies (Op.moves_modifyGet (wanes_processBackground pid))
  | died pid => exact replies (wanes_processDied pid)
  | armIdleExit => exact replies (Op.moves_modify fun r => .refl r.table)
  | fire event => exact replies (wanes_handleTimer event)
  | runDueTimers =>
    refine replies (counted_wanes.moves_then (Op.moves_modifyGet fun r => .refl r.table) fun due => ?_)
    exact counted_wanes.moves_then (wanes_handleTimers due) fun _ => counted_wanes.moves_pure _
  | setClock now => exact replies (Op.moves_modify fun r => .refl r.table)

end Registry

end ClickGrant
