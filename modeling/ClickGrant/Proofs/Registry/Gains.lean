import ClickGrant.Proofs.Grant.Permits
import ClickGrant.Proofs.Registry.Grants

/-!
# Calls that give nobody a permission

`gaining who` is the pact of those operations of the registry that record no consent, by which nobody
gains a kind but as `who` says, and which do not ask for consents. It expects nothing of others. What
is proved:
  1. `keeps_issue` — issuing the permission of a kind gives it to the one identity, and nothing else to
     anybody.
  2. `keeps_readmission`, `keeps_verifyEvent`, `keeps_withdraw` — the other parts of a click, the
     consent gate excepted, give nobody anything.
  3. `keeps_perform` — nor does any act that is not a click.
-/
set_option autoImplicit false

namespace ClickGrant.Registry

open GrantState (Gains nobody)

variable {s : Settings} {α : Type} {who : Token → Kind → Prop} {r r' : Registry}

/-- Nobody gains anything but as `who` says, no consent is recorded, and none is asked for. -/
def gaining (who : Token → Kind → Prop) : Pact Registry where
  moves r r' := r'.consents = r.consents ∧ Gains who r.toGrantState r'.toGrantState
  relies _ _ := True
  asks _ q := q.isConsent = false
  moves_refl _ := ⟨rfl, .of_ledger_eq rfl⟩
  moves_trans h₁ h₂ := ⟨h₂.1.trans h₁.1, h₁.2.trans h₂.2⟩
  relied _ := trivial
  relies_trans _ _ := trivial

/-- What leaves consents and grants alone. -/
theorem moves_of_eq (consents : r'.consents = r.consents) (grants : r'.toGrantState = r.toGrantState) :
    (gaining who).moves r r' := ⟨consents, .of_ledger_eq (grants ▸ rfl)⟩

theorem keeps_onGrants {x : Op GrantState α} (h : x.Keeps (GrantState.gaining who)) :
    (onGrants x).Keeps (gaining who) :=
  h.within (fun _ _ => trivial) (fun _ _ moved => ⟨rfl, moved⟩) fun _ _ _ asks => asks

theorem keeps_callGrants {x : Call GrantState α} (h : Call.Keeps (GrantState.gaining who) x) :
    Call.Keeps (gaining who) (callGrants x) := keeps_onGrants h

/-! ## Single changes -/

theorem moves_quarantineCaller (caller : Caller) (r : Registry) :
    (gaining who).moves r (quarantineCaller caller r) := by
  unfold quarantineCaller
  split
  · exact moves_of_eq rfl rfl
  · exact moves_of_eq rfl rfl

theorem moves_storeNew {caller : Caller} {c : Component} {found : ComponentId × Nat}
    (stores : storeNew s caller c r = .ok (found, r')) : (gaining who).moves r r' := by
  obtain ⟨table, -, rfl⟩ := fits_of_storeNew stores
  exact moves_of_eq rfl rfl

theorem moves_withdrawSave (token : Token) (serial : UInt64) (r : Registry) :
    (gaining who).moves r (withdrawSave token serial r) := by
  constructor
  · unfold withdrawSave changeGrants
    dsimp only
    split
    next h => obtain ⟨-, rfl⟩ := Prod.mk.inj h; rfl
    next h => obtain ⟨-, rfl⟩ := Prod.mk.inj h; rfl
  · rw [toGrantState_withdrawSave]
    exact GrantState.permits_revokeSave token serial _

theorem moves_processForeground (pid : Pid) (r : Registry) :
    (gaining who).moves r (processForeground pid r).2 := by
  unfold processForeground
  split
  · exact moves_of_eq rfl rfl
  · exact ⟨rfl, .of_ledger_eq rfl⟩

theorem moves_processBackground (pid : Pid) (r : Registry) :
    (gaining who).moves r (processBackground s pid r).2 := by
  unfold processBackground
  split
  · exact moves_of_eq rfl rfl
  · exact ⟨rfl, .of_ledger_eq (GrantState.ledger_deferRevocation ..)⟩

theorem moves_beginShutdown (r : Registry) : (gaining who).moves r (beginShutdown r) := by
  unfold beginShutdown
  split
  · exact moves_of_eq rfl rfl
  · exact moves_of_eq rfl rfl

/-! ## Calls on components -/

theorem keeps_check {test : Registry → Prop} [∀ r, Decidable (test r)] (e : Refusal) :
    Call.Keeps (gaining who) (do if test (← get) then throw e : Call Registry Unit) := by
  refine Call.keeps_get_bind fun r => ?_
  split
  · exact Call.keeps_throw e
  · exact Call.keeps_pure ()

theorem keeps_ensureId (id : ComponentId) : Call.Keeps (gaining who) (ensureId id) := by
  unfold ensureId
  split
  · exact Call.keeps_throw _
  · exact Call.keeps_pure ()

theorem keeps_stored (pid : Pid) (id : ComponentId) : Call.Keeps (gaining who) (stored pid id) := by
  refine Call.keeps_get_bind fun r => ?_
  split
  · exact Call.keeps_throw _
  · split
    · exact Call.keeps_throw _
    · exact Call.keeps_pure _

theorem keeps_admission (caller : Caller) (c : Component) (declared : String) :
    Call.Keeps (gaining who) (admission s caller c declared) := by
  have context : Call.Keeps (gaining who) (validityContext c) := by
    refine Call.keeps_bind (Call.keeps_ask fun _ => rfl) fun screen => ?_
    refine Call.keeps_bind (Call.keeps_ofExcept _ screen) fun _ => ?_
    refine Call.keeps_bind (Call.keeps_ask fun _ => rfl) fun scale => ?_
    exact Call.keeps_bind (Call.keeps_ofExcept _ scale) fun _ => Call.keeps_pure _
  refine Call.keeps_bind context fun ctx => ?_
  split
  · exact Call.keeps_throw _
  · split
    · refine Call.keeps_bind (Call.keeps_ask fun _ => rfl) fun answer => ?_
      split
      · exact Call.keeps_bind (Call.keeps_modify (moves_quarantineCaller caller)) fun _ =>
          Call.keeps_throw _
      · exact Call.keeps_pure _
    · exact Call.keeps_pure _

theorem keeps_readmission (caller : Caller) (id : ComponentId) (c : Component) (declared : String) :
    Call.Keeps (gaining who) (readmission s caller id c declared) := by
  refine Call.keeps_tryCatch (keeps_admission caller c declared) fun e => ?_
  exact Call.keeps_bind (Call.keeps_modify fun r => moves_of_eq rfl rfl) fun _ => Call.keeps_throw e

theorem keeps_syncPosture : (syncPosture s).Keeps (gaining who) := by
  have disarms : Op.Keeps (gaining who) (modify disarmIdleExit) :=
    Op.keeps_modify fun r => ⟨rfl, .of_ledger_eq rfl⟩
  have enables : Op.Keeps (gaining who) (modify fun r : Registry => { r with inputEnabled := true }) :=
    Op.keeps_modify fun r => moves_of_eq rfl rfl
  have disables : Op.Keeps (gaining who)
      (modify fun r => armIdleExit s { r with inputEnabled := false }) :=
    Op.keeps_modify fun r => ⟨rfl, .of_ledger_eq rfl⟩
  refine Op.keeps_get_bind fun r => ?_
  dsimp only
  split
  · refine Op.keeps_bind disarms fun _ => ?_
    split
    · split
      · exact Op.keeps_bind (Op.keeps_ask fun _ => rfl) fun _ => enables
      · exact enables
    · exact Op.keeps_pure ()
  · split
    · split
      · exact Op.keeps_bind (Op.keeps_ask fun _ => rfl) fun _ => disables
      · exact disables
    · exact Op.keeps_pure ()

theorem keeps_count (f : Metrics → Metrics) :
    Op.Keeps (gaining who) (modify (measure f) : Op Registry PUnit) :=
  Op.keeps_modify fun _ => moves_of_eq rfl rfl

theorem keeps_register (caller : Caller) (kind : Kind) (c : Component) (declared : String) :
    (register s caller kind c declared).Keeps (gaining who) := by
  have stores : Call.Keeps (gaining who) (do
      let c ← admission s caller { c with isGranted := false } declared
      let found ← Call.attempt (storeNew s caller c)
      syncPosture s
      modify (showActive found.2)
      return found.1) := by
    refine Call.keeps_bind (keeps_admission caller _ declared) fun c' => ?_
    refine Call.keeps_bind (Call.keeps_attempt fun _ _ _ => moves_storeNew) fun found => ?_
    refine Call.keeps_bind (Call.keeps_liftM keeps_syncPosture) fun _ => ?_
    exact Call.keeps_bind (Call.keeps_modify fun r => moves_of_eq rfl rfl) fun _ => Call.keeps_pure _
  have uncounted : Call.Keeps (gaining who) (registerUncounted s caller kind c declared) := by
    refine Call.keeps_bind (keeps_check _) fun _ => Call.keeps_bind (keeps_check _) fun _ => ?_
    dsimp only
    split
    · exact Call.keeps_bind (Call.keeps_throw _) fun _ => stores
    · exact stores
  exact Op.keeps_bind uncounted fun result => Op.keeps_bind (keeps_count _) fun _ => Op.keeps_pure result

theorem keeps_update (caller : Caller) (id : ComponentId) (c : Component) (declared : String) :
    Call.Keeps (gaining who) (update s caller id c declared) := by
  have stores : Call.Keeps (gaining who) (do
      let c ← readmission s caller id c declared
      Call.attempt (storeAgain caller.pid id c)) := by
    refine Call.keeps_bind (keeps_readmission caller id c declared) fun c' => ?_
    refine Call.keeps_attempt fun r _ r' replaces => ?_
    unfold storeAgain at replaces
    split at replaces
    · cases replaces
    · cases replaces
      exact moves_of_eq rfl rfl
  refine Call.keeps_bind (keeps_check _) fun _ => Call.keeps_bind (keeps_check _) fun _ => ?_
  refine Call.keeps_bind (keeps_ensureId id) fun _ => Call.keeps_bind (keeps_stored _ _) fun found => ?_
  dsimp only
  split
  · exact Call.keeps_bind (Call.keeps_throw _) fun _ => stores
  · exact stores

theorem keeps_unregister (caller : Caller) (id : ComponentId) :
    Call.Keeps (gaining who) (unregister s caller id) := by
  refine Call.keeps_bind (keeps_check _) fun _ => Call.keeps_bind (keeps_ensureId id) fun _ => ?_
  refine Call.keeps_bind (Call.keeps_attempt fun r _ r' takes => ?_) fun active => ?_
  · obtain ⟨-, rfl⟩ := takeOut_ok takes
    exact moves_of_eq rfl rfl
  · exact Call.keeps_bind (Call.keeps_modify fun r => moves_of_eq rfl rfl) fun _ =>
      Call.keeps_liftM keeps_syncPosture

/-! ## Clicks -/

theorem keeps_verifyEvent (caller : Caller) (c : Component) (event : ClickEvent) :
    Call.Keeps (gaining who) (verifyEvent s caller c event) := by
  have channel : Call.Keeps (gaining who) (ensureChannel caller event) := by
    cases event with
    | accessibility timestamp =>
      refine Call.keeps_bind (Call.keeps_ask fun _ => rfl) fun trusted => ?_
      split
      · exact Call.keeps_throw _
      · exact Call.keeps_pure ()
    | _ => exact Call.keeps_pure ()
  have windows : Call.Keeps (gaining who) (windowsFor event) := by
    cases event with
    | point timestamp target extra =>
      exact Call.keeps_bind (Call.keeps_ask fun _ => rfl) fun seen => Call.keeps_ofExcept _ seen
    | _ => exact Call.keeps_pure []
  refine Call.keeps_bind channel fun _ => Call.keeps_bind windows fun seen => ?_
  refine Call.keeps_get_bind fun r => ?_
  dsimp only
  split
  · exact Call.keeps_pure ()
  · split
    · exact Call.keeps_bind (Call.keeps_modify (moves_quarantineCaller caller)) fun _ => Call.keeps_throw _
    · exact Call.keeps_throw _

/-- The identity gains the kind, and nobody anything else. -/
theorem keeps_issue (token : Token) (kind : Kind) :
    Call.Keeps (gaining fun t k => t = token ∧ k = kind) (issue s token kind) := by
  unfold issue
  cases style : kind.grantStyle with
  | perClick =>
    have save : kind = .save := by cases kind <;> first | rfl | cases style
    subst save
    refine Call.keeps_bind (Call.keeps_modifyGet fun r => ?_) fun _ => Call.keeps_pure _
    exact ⟨rfl, GrantState.permits_grantSave s.delays token _⟩
  | capability =>
    exact Call.keeps_bind (keeps_callGrants (GrantState.keeps_grantCapability token kind)) fun _ =>
      Call.keeps_pure _

theorem keeps_withdraw (token : Token) (kind : Kind) (issued : Issued) :
    (withdraw token kind issued).Keeps (gaining who) := by
  cases issued with
  | save serial => exact Op.keeps_modify (moves_withdrawSave token serial)
  | capability newly =>
    cases newly with
    | true =>
      exact Op.keeps_bind (keeps_onGrants (GrantState.keeps_revokeCapability token kind)) fun _ =>
        Op.keeps_pure ()
    | false => exact Op.keeps_pure ()

/-- What a click does once it has issued something. -/
theorem keeps_mark (pid : Pid) (id : ComponentId) (c : Component) (token : Token) (kind : Kind)
    (issued : Issued) : Call.Keeps (gaining who) (do
      if ← modifyGet (storeGranted pid id c) then
        modify (measure fun m => { m with grants := m.grants.add [kind.name] })
      else
        withdraw token kind issued
        throw (.notFound id pid)) := by
  have marks : Call.Keeps (gaining who) (modifyGet (storeGranted pid id c)) := by
    refine Call.keeps_modifyGet fun r => ?_
    unfold storeGranted
    split
    · exact moves_of_eq rfl rfl
    · exact moves_of_eq rfl rfl
  refine Call.keeps_bind marks fun there => ?_
  split
  · exact keeps_count _
  · exact Call.keeps_bind (Call.keeps_liftM (keeps_withdraw token kind issued)) fun _ =>
      Call.keeps_throw _

/-! ## Lives and timers -/

theorem keeps_processDied (pid : Pid) : (processDied s pid).Keeps (gaining who) := by
  have forfeits (p : Registration) (active : Nat) : Op.Keeps (gaining who) (do
      onGrants (GrantState.revokeEverything p.token)
      modify (showActive active)
      syncPosture s) := by
    refine Op.keeps_bind (keeps_onGrants (GrantState.keeps_revokeEverything p.token)) fun _ => ?_
    exact Op.keeps_bind (keeps_count _) fun _ => keeps_syncPosture
  refine Op.keeps_bind (Op.keeps_modifyGet fun r => moves_of_eq rfl rfl) fun found => ?_
  obtain ⟨removed, active⟩ := found
  cases removed with
  | none =>
    dsimp only
    split
    · exact Op.keeps_bind (Op.keeps_ask fun _ => rfl) fun _ => Op.keeps_pure ()
    · exact Op.keeps_pure ()
  | some p =>
    dsimp only
    split
    · exact Op.keeps_bind (Op.keeps_ask fun _ => rfl) fun _ => forfeits p active
    · exact forfeits p active

theorem keeps_handleTimer (event : TimerEvent) : (handleTimer event).Keeps (gaining who) := by
  cases event with
  | saveExpired token serial => exact Op.keeps_modify (moves_withdrawSave token serial)
  | idleExpired => exact Op.keeps_modify moves_beginShutdown
  | backgroundExpired token =>
    refine Op.keeps_bind (keeps_onGrants (GrantState.keeps_revokeCapabilities token)) fun kinds => ?_
    split
    · exact Op.keeps_modify fun r => moves_of_eq rfl rfl
    · exact Op.keeps_pure ()

theorem keeps_handleTimers : ∀ events : List TimerEvent, (handleTimers events).Keeps (gaining who)
  | [] => Op.keeps_pure ()
  | event :: rest => Op.keeps_bind (keeps_handleTimer event) fun _ => keeps_handleTimers rest

/-- Whatever is no click gives nobody a permission, records no consent and asks for none. -/
theorem keeps_perform {act : Act} (other : ∀ caller id c declared event handle,
    act ≠ .reportClick caller id c declared event handle) : (perform s act).Keeps (gaining nobody) := by
  -- an act whose result does not matter
  have replies {α : Type} {x : Op Registry α} (h : x.Keeps (gaining nobody)) :
      (x >>= fun _ => (pure (.ok ()) : Op Registry (Except Refusal Unit))).Keeps (gaining nobody) :=
    Op.keeps_bind h fun _ => Op.keeps_pure _
  cases act with
  | register caller kind c declared =>
    exact Op.keeps_bind (keeps_register caller kind c declared) fun _ => Op.keeps_pure _
  | update caller id c declared => exact keeps_update caller id c declared
  | unregister caller id => exact keeps_unregister caller id
  | reportClick caller id c declared event handle => exact absurd rfl (other _ _ _ _ _ _)
  | foreground pid => exact replies (Op.keeps_modifyGet (moves_processForeground pid))
  | background pid => exact replies (Op.keeps_modifyGet (moves_processBackground pid))
  | died pid => exact replies (keeps_processDied pid)
  | armIdleExit => exact replies (Op.keeps_modify fun r => ⟨rfl, .of_ledger_eq rfl⟩)
  | fire event => exact replies (keeps_handleTimer event)
  | runDueTimers =>
    have takes : Op.Keeps (gaining nobody) (modifyGet takeDue : Op Registry (List TimerEvent)) :=
      Op.keeps_modifyGet fun r => ⟨rfl, .of_ledger_eq rfl⟩
    refine replies (Op.keeps_bind takes fun due => ?_)
    exact Op.keeps_bind (keeps_handleTimers due) fun _ => Op.keeps_pure _
  | setClock now => exact replies (Op.keeps_modify fun r => ⟨rfl, .of_ledger_eq rfl⟩)

end ClickGrant.Registry
