import ClickGrant.Proofs.Registry.Run
import ClickGrant.Proofs.Traffic

/-!
# What calls change at one blow

Between two of its requests a call changes the registry by changes of few sorts. `Change s r n r'`
lists them; it schedules at most `n` timers. `Changes s n` is any number of them, one after the
other, with at most `n` timers scheduled in all. What is proved:
  1. `counted_changes` — such moves add up, so what an operation does is what its parts do.
  2. `moves_perform` — every act moves the registry by such changes, whatever others do while it
     waits, and schedules at most one timer from each state it finds to the next one it asks in.

Whatever one change keeps is therefore kept by all calls, however they are nested in each other
(`trafficFrom`).
-/
set_option autoImplicit false

namespace ClickGrant.Registry

/-- What is changed at one blow, and how many timers that may schedule. -/
inductive Change (s : Settings) (r : Registry) : Nat → Registry → Prop where
  | counted (f : Metrics → Metrics) : Change s r 0 (measure f r)
  | flagged (caller : Caller) : Change s r 0 (quarantineCaller caller r)
  | consented (token : Token) (kind : Kind) :
      Change s r 0 { r with consents := r.consents.recordAndWrite token kind }
  | stored {caller : Caller} {c : Component} {id : ComponentId} {active : Nat} {r' : Registry}
      (stores : storeNew s caller c r = .ok ((id, active), r')) : Change s r 0 r'
  /-- A stored component is replaced or marked. -/
  | reshaped (pid : Pid) (id : ComponentId) (f : Component → Component) :
      Change s r 0 { r with table := r.table.modify pid id f }
  | takenOut {pid : Pid} {id : ComponentId} {active : Nat} {r' : Registry}
      (takes : takeOut pid id r = .ok (active, r')) : Change s r 0 r'
  | removed (pid : Pid) : Change s r 0 (removeProcess pid r).2
  | cameForward (pid : Pid) : Change s r 0 (processForeground pid r).2
  | wentBack (pid : Pid) : Change s r 1 (processBackground s pid r).2
  /-- No component of an identity is marked for its capabilities any more. -/
  | unmarked (token : Token) :
      Change s r 0 { r with table := r.table.clearGranted token .capability }
  | grantedSave (token : Token) :
      Change s r 1 { r with toGrantState := (GrantState.grantSave s.delays token r.toGrantState).2 }
  | withdrewSave (token : Token) (serial : UInt64) : Change s r 0 (withdrawSave token serial r)
  | droppedSaves (token : Token) :
      Change s r 0 { r with toGrantState := GrantState.revokeSaves token r.toGrantState }
  | addedCapability (token : Token) (kind : Kind) :
      Change s r 0 { r with toGrantState := (GrantState.addCapability token kind r.toGrantState).2 }
  | droppedCapability (token : Token) (kind : Kind) :
      Change s r 0 { r with toGrantState := (GrantState.dropCapability token kind r.toGrantState).2 }
  | droppedCapabilities (token : Token) :
      Change s r 0 { r with toGrantState := (GrantState.dropCapabilities token r.toGrantState).2 }
  | switched (enabled : Bool) : Change s r 0 { r with inputEnabled := enabled }
  | armed : Change s r 1 (armIdleExit s r)
  | disarmed : Change s r 0 (disarmIdleExit r)
  | wentDown : Change s r 0 (beginShutdown r)
  | tookDue : Change s r 0 (takeDue r).2
  | clockMoved (now : UInt64) : Change s r 0 { r with now }

/-- Changes one after the other, which schedule at most so many timers. -/
inductive Changes (s : Settings) : Nat → Registry → Registry → Prop where
  | none (n : Nat) (r : Registry) : Changes s n r r
  | more {k m n : Nat} {r u r' : Registry} (earlier : Changes s m r u) (change : Change s u n r')
      (le : m + n ≤ k) : Changes s k r r'

variable {s : Settings} {r r' u : Registry} {m n : Nat}

theorem Change.changes (h : Change s r n r') : Changes s n r r' :=
  .more (.none 0 r) h (Nat.le_of_eq (Nat.zero_add n))

theorem Changes.mono (le : m ≤ n) (h : Changes s m r r') : Changes s n r r' := by
  cases h with
  | none => exact .none n r
  | more earlier change le' => exact .more earlier change (Nat.le_trans le' le)

theorem Changes.trans (h₁ : Changes s m r u) (h₂ : Changes s n u r') : Changes s (m + n) r r' := by
  induction h₂ with
  | none n u => exact h₁.mono (Nat.le_add_right m n)
  | more earlier change le ih =>
    refine .more (ih h₁) change ?_
    rw [Nat.add_assoc]
    exact Nat.add_le_add_left le m

theorem counted_changes (s : Settings) : Counted (Changes s) where
  refl := .none 0
  mono := Changes.mono
  trans := Changes.trans

/-! ## Parts -/

theorem moves_modify (f : Registry → Registry) (h : ∀ r, Change s r n (f r)) :
    Op.Moves (Changes s n) (modify f : Op Registry PUnit) := Op.moves_modify fun r => (h r).changes

/-- Changes of a part, as changes of the registry. -/
def OfPart {σ : Type} (s : Settings) (part : Registry → σ) (put : Registry → σ → Registry) (n : Nat)
    (x x' : σ) : Prop := ∀ r, part r = x → Changes s n r (put r x')

theorem counted_ofPart {σ : Type} {part : Registry → σ} {put : Registry → σ → Registry}
    (put_part : ∀ r, put r (part r) = r) (part_put : ∀ r x, part (put r x) = x)
    (put_put : ∀ r x x', put (put r x) x' = put r x') : Counted (OfPart s part put) where
  refl := by
    rintro _ r rfl
    rw [put_part]
    exact .none 0 r
  mono := fun le h r same => (h r same).mono le
  trans := by
    intro m n x x' x'' h₁ h₂ r same
    have second := h₂ (put r x') (part_put r x')
    rw [put_put] at second
    exact (h₁ r same).trans second

/-- Changes of the grants. -/
def OfGrants (s : Settings) : Nat → GrantState → GrantState → Prop :=
  OfPart s Registry.toGrantState fun r g => { r with toGrantState := g }

/-- Changes of the consents. -/
def OfConsents (s : Settings) : Nat → ConsentStore → ConsentStore → Prop :=
  OfPart s Registry.consents fun r c => { r with consents := c }

theorem counted_ofGrants (s : Settings) : Counted (OfGrants s) :=
  counted_ofPart (fun _ => rfl) (fun _ _ => rfl) (fun _ _ _ => rfl)

theorem counted_ofConsents (s : Settings) : Counted (OfConsents s) :=
  counted_ofPart (fun _ => rfl) (fun _ _ => rfl) (fun _ _ _ => rfl)

theorem ofGrants_of_change {f : GrantState → GrantState}
    (h : ∀ r : Registry, Change s r n { r with toGrantState := f r.toGrantState }) (g : GrantState) :
    OfGrants s n g (f g) := by
  rintro r rfl
  exact (h r).changes

theorem moves_onGrants {α : Type} {x : Op GrantState α} (h : x.Moves (OfGrants s n)) :
    (onGrants x).Moves (Changes s n) := Op.moves_within (fun r _ change => change r rfl) h

theorem moves_callGrants {α : Type} {x : Call GrantState α} (h : x.Moves (OfGrants s n)) :
    (callGrants x).Moves (Changes s n) := Op.moves_within (fun r _ change => change r rfl) h

theorem moves_callConsents {α : Type} {x : Call ConsentStore α} (h : x.Moves (OfConsents s n)) :
    (callConsents x).Moves (Changes s n) := Op.moves_within (fun r _ change => change r rfl) h

theorem moves_revokePermissions (token : Token) : ∀ ps : List Permission,
    (GrantState.revokePermissions token ps).Moves (OfGrants s 0)
  | [] => (counted_ofGrants s).moves_pure ()
  | _ :: rest => (counted_ofGrants s).moves_then ((counted_ofGrants s).moves_ask _) fun _ =>
      moves_revokePermissions token rest

theorem moves_grantPermissions (token : Token) : ∀ ps : List Permission,
    (GrantState.grantPermissions token ps).Moves (OfGrants s 0)
  | [] => Call.moves_pure (counted_ofGrants s) ()
  | p :: rest => by
    refine Call.moves_then (counted_ofGrants s) (Call.moves_ask (counted_ofGrants s) _) fun answer => ?_
    cases answer with
    | error o => exact Call.moves_throw (counted_ofGrants s) _
    | ok _ => exact moves_grantPermissions token rest

theorem moves_revokeCapabilities (token : Token) :
    (GrantState.revokeCapabilities token).Moves (OfGrants s 0) := by
  have drops : Op.Moves (OfGrants s 0) (modifyGet (GrantState.dropCapabilities token)) :=
    Op.moves_modifyGet (ofGrants_of_change fun _ => .droppedCapabilities token)
  refine (counted_ofGrants s).moves_then drops fun kinds => ?_
  refine (counted_ofGrants s).moves_then (moves_revokePermissions token _) fun _ => ?_
  exact (counted_ofGrants s).moves_pure kinds

theorem moves_revokeEverything (token : Token) :
    (GrantState.revokeEverything token).Moves (OfGrants s 0) := by
  have drops : Op.Moves (OfGrants s 0) (modify (GrantState.revokeSaves token)) :=
    Op.moves_modify (ofGrants_of_change fun _ => .droppedSaves token)
  refine (counted_ofGrants s).moves_then drops fun _ => ?_
  refine (counted_ofGrants s).moves_then (moves_revokeCapabilities token) fun _ => ?_
  exact (counted_ofGrants s).moves_pure ()

theorem moves_revokeCapability (token : Token) (kind : Kind) :
    (GrantState.revokeCapability token kind).Moves (OfGrants s 0) := by
  have drops : Op.Moves (OfGrants s 0) (modifyGet (GrantState.dropCapability token kind)) :=
    Op.moves_modifyGet (ofGrants_of_change fun _ => .droppedCapability token kind)
  refine (counted_ofGrants s).moves_then drops fun held => ?_
  split
  · refine (counted_ofGrants s).moves_then (moves_revokePermissions token _) fun _ => ?_
    exact (counted_ofGrants s).moves_pure true
  · exact (counted_ofGrants s).moves_pure false

theorem moves_grantCapability (token : Token) (kind : Kind) :
    (GrantState.grantCapability token kind).Moves (OfGrants s 0) := by
  refine Call.moves_then (counted_ofGrants s) (moves_grantPermissions token _) fun _ => ?_
  exact Call.moves_modifyGet (ofGrants_of_change fun _ => .addedCapability token kind)

/-- Posture and idle exit are brought in line by moves that any way of counting may judge. -/
theorem syncPosture_moves {step : Nat → Registry → Registry → Prop} (counted : Counted step)
    (disarms : ∀ r, step 0 r (disarmIdleExit r)) (enables : ∀ r, step 1 r { r with inputEnabled := true })
    (disables : ∀ r, step 1 r (armIdleExit s { r with inputEnabled := false })) :
    (syncPosture s).Moves (step 1) := by
  have disarms : Op.Moves (step 0) (modify disarmIdleExit) := Op.moves_modify disarms
  have enables : Op.Moves (step 1) (modify fun r : Registry => { r with inputEnabled := true }) :=
    Op.moves_modify enables
  have disables : Op.Moves (step 1) (modify fun r => armIdleExit s { r with inputEnabled := false }) :=
    Op.moves_modify disables
  have nothing : Op.Moves (step 1) (pure () : Op Registry Unit) :=
    counted.moves_mono (Nat.zero_le 1) (counted.moves_pure ())
  unfold syncPosture
  refine Op.moves_get_bind fun r => ?_
  dsimp only
  split
  · refine counted.moves_then disarms fun _ => ?_
    split
    · split
      · exact counted.moves_then (counted.moves_ask _) fun _ => enables
      · exact enables
    · exact nothing
  · split
    · split
      · exact counted.moves_then (counted.moves_ask _) fun _ => disables
      · exact disables
    · exact nothing

theorem moves_syncPosture : (syncPosture s).Moves (Changes s 1) :=
  syncPosture_moves (counted_changes s) (fun _ => Change.disarmed.changes)
    (fun _ => (Change.switched true).changes.mono (Nat.zero_le 1))
    fun _ => (Change.switched false).changes.trans Change.armed.changes

/-! ## Calls on components -/

variable {α : Type}

theorem moves_throw (e : Refusal) : Call.Moves (Changes s 0) (throw e : Call Registry α) :=
  Call.moves_throw (counted_changes s) e

theorem moves_pure (a : α) : Call.Moves (Changes s 0) (pure a : Call Registry α) :=
  Call.moves_pure (counted_changes s) a

theorem moves_then {β : Type} {x : Call Registry α} {f : α → Call Registry β}
    (hx : Call.Moves (Changes s 0) x) (hf : ∀ a, Call.Moves (Changes s n) (f a)) :
    Call.Moves (Changes s n) (x >>= f) := Call.moves_then (counted_changes s) hx hf

theorem moves_ask (q : Request) : Call.Moves (Changes s 0) (Call.ask q : Call Registry q.Answer) :=
  Call.moves_ask (counted_changes s) q

theorem moves_ofExcept {ε : Type} (refuse : ε → Refusal) (x : Except ε α) :
    Call.Moves (Changes s 0) (Call.ofExcept refuse x : Call Registry α) :=
  Call.moves_ofExcept (counted_changes s) refuse x

theorem moves_change (f : Registry → Registry) (h : ∀ r, Change s r n (f r)) :
    Call.Moves (Changes s n) (modify f : Call Registry PUnit) := Call.moves_modify fun r => (h r).changes

/-- A check that changes nothing. -/
theorem moves_check {test : Registry → Prop} [∀ r, Decidable (test r)] (e : Refusal) :
    Call.Moves (Changes s 0) (do if test (← get) then throw e : Call Registry Unit) := by
  refine Call.moves_get_bind fun r => ?_
  split
  · exact moves_throw e
  · exact moves_pure ()

theorem moves_ensureRunning : Call.Moves (Changes s 0) ensureRunning := moves_check .exiting

theorem moves_ensureTrusted (caller : Caller) : Call.Moves (Changes s 0) (ensureTrusted caller) :=
  moves_check (.quarantined caller.pid)

theorem moves_ensureId (id : ComponentId) : Call.Moves (Changes s 0) (ensureId id) := by
  unfold ensureId
  split
  · exact moves_throw _
  · exact moves_pure ()

theorem moves_stored (pid : Pid) (id : ComponentId) : Call.Moves (Changes s 0) (stored pid id) := by
  refine Call.moves_get_bind fun r => ?_
  split
  · exact moves_throw _
  · split
    · exact moves_throw _
    · exact moves_pure _

/-- The door of a call on a stored component. -/
theorem moves_door (caller : Caller) (id : ComponentId) (kind : Kind) (mismatch : Kind → BadArgument)
    (x : Token → Call Registry α) (h : ∀ token, Call.Moves (Changes s n) (x token)) :
    Call.Moves (Changes s n) (do
      ensureRunning
      ensureTrusted caller
      ensureId id
      let (storedKind, token) ← stored caller.pid id
      if kind ≠ storedKind then throw (.invalidArgument (mismatch storedKind))
      x token) := by
  refine moves_then moves_ensureRunning fun _ => ?_
  refine moves_then (moves_ensureTrusted caller) fun _ => ?_
  refine moves_then (moves_ensureId id) fun _ => ?_
  refine moves_then (moves_stored caller.pid id) fun found => ?_
  dsimp only
  split
  · exact moves_then (moves_throw _) fun _ => h found.2
  · exact h found.2

theorem moves_admission (caller : Caller) (c : Component) (declared : String) :
    Call.Moves (Changes s 0) (admission s caller c declared) := by
  have context : Call.Moves (Changes s 0) (validityContext c) := by
    refine moves_then (moves_ask _) fun screen => moves_then (moves_ofExcept _ screen) fun _ => ?_
    refine moves_then (moves_ask _) fun scale => moves_then (moves_ofExcept _ scale) fun _ => ?_
    exact moves_pure _
  refine moves_then context fun ctx => ?_
  split
  · exact moves_throw _
  · split
    · refine moves_then (moves_ask _) fun answer => ?_
      split
      · exact moves_then (moves_change _ fun r => .flagged caller) fun _ => moves_throw _
      · exact moves_pure _
    · exact moves_pure _

theorem moves_readmission (caller : Caller) (id : ComponentId) (c : Component) (declared : String) :
    Call.Moves (Changes s 0) (readmission s caller id c declared) := by
  refine Call.moves_tryCatch (counted_changes s) (moves_admission caller c declared) fun e => ?_
  exact moves_then (moves_change _ fun r => .reshaped caller.pid id _) fun _ => moves_throw e

/-- A component that was admitted is stored, and the service follows the table. -/
theorem moves_admitted (caller : Caller) (c : Component) : Call.Moves (Changes s 1) (do
    let (id, active) ← Call.attempt (storeNew s caller c)
    syncPosture s
    modify (showActive active)
    return id) := by
  refine moves_then (Call.moves_attempt (counted_changes s) ?_) fun _ => ?_
  · intro r a r' stores
    exact (Change.stored stores).changes
  refine Call.moves_before (counted_changes s)
    (Call.moves_liftM (counted_changes s) moves_syncPosture) fun _ => ?_
  exact moves_then (moves_change _ fun r => .counted _) fun _ => moves_pure _

theorem moves_register (caller : Caller) (kind : Kind) (c : Component) (declared : String) :
    (register s caller kind c declared).Moves (Changes s 1) := by
  have uncounted : Call.Moves (Changes s 1) (registerUncounted s caller kind c declared) := by
    refine moves_then moves_ensureRunning fun _ => moves_then (moves_ensureTrusted caller) fun _ => ?_
    have rest := moves_then (moves_admission caller { c with isGranted := false } declared)
      (moves_admitted (s := s) caller)
    split
    · exact moves_then (moves_throw _) fun _ => rest
    · exact rest
  refine (counted_changes s).moves_before uncounted fun result => ?_
  exact (counted_changes s).moves_then (moves_modify _ fun r => .counted _) fun _ =>
    (counted_changes s).moves_pure result

theorem moves_update (caller : Caller) (id : ComponentId) (c : Component) (declared : String) :
    Call.Moves (Changes s 0) (update s caller id c declared) := by
  refine moves_door caller id c.kind (.kindChanged id) (fun _ => do
    let c ← readmission s caller id c declared
    Call.attempt (storeAgain caller.pid id c)) fun token => ?_
  refine moves_then (moves_readmission caller id c declared) fun c' => ?_
  refine Call.moves_attempt (counted_changes s) fun r a r' replaces => ?_
  unfold storeAgain at replaces
  split at replaces
  · cases replaces
  · cases replaces
    exact (Change.reshaped caller.pid id _).changes

theorem moves_unregister (caller : Caller) (id : ComponentId) :
    Call.Moves (Changes s 1) (unregister s caller id) := by
  refine moves_then moves_ensureRunning fun _ => moves_then (moves_ensureId id) fun _ => ?_
  refine moves_then (Call.moves_attempt (counted_changes s) fun r a r' takes => ?_) fun active => ?_
  · exact (Change.takenOut takes).changes
  · exact moves_then (moves_change _ fun r => .counted _) fun _ =>
      Call.moves_liftM (counted_changes s) moves_syncPosture

/-! ## Clicks -/

theorem moves_verifyEvent (caller : Caller) (c : Component) (event : ClickEvent) :
    Call.Moves (Changes s 0) (verifyEvent s caller c event) := by
  have channel : Call.Moves (Changes s 0) (ensureChannel caller event) := by
    cases event with
    | accessibility timestamp =>
      refine moves_then (moves_ask _) fun trusted => ?_
      split
      · exact moves_throw _
      · exact moves_pure ()
    | _ => exact moves_pure ()
  have windows : Call.Moves (Changes s 0) (windowsFor event) := by
    cases event with
    | point timestamp target extra => exact moves_then (moves_ask _) fun seen => moves_ofExcept _ seen
    | _ => exact moves_pure []
  refine moves_then channel fun _ => moves_then windows fun seen => Call.moves_get_bind fun r => ?_
  dsimp only
  split
  · exact moves_pure ()
  · split
    · exact moves_then (moves_change _ fun r => .flagged caller) fun _ => moves_throw _
    · exact moves_throw _

theorem moves_ensureConsent (required : List Kind) (token : Token) (kind : Kind)
    (handle : Option UInt64) :
    (ensureConsent required token kind handle).Moves (OfConsents s 0) := by
  have counted := counted_ofConsents s
  have records : Call.Moves (OfConsents s 0) (modify (ConsentStore.recordAndWrite token kind)) := by
    refine Call.moves_modify fun store => ?_
    rintro r rfl
    exact (Change.consented token kind).changes
  refine Call.moves_get_bind fun store => ?_
  split
  · exact Call.moves_pure counted ()
  · refine Call.moves_then counted (Call.moves_ask counted _) fun answer => ?_
    split
    · exact Call.moves_throw counted _
    · exact Call.moves_throw counted _
    · exact records

theorem moves_issue (token : Token) (kind : Kind) : Call.Moves (Changes s 1) (issue s token kind) := by
  unfold issue
  split
  · refine Call.moves_before (counted_changes s) (Call.moves_modifyGet fun r => ?_) fun _ => moves_pure _
    exact (Change.grantedSave token).changes
  · refine Call.moves_mono (counted_changes s) (Nat.zero_le 1) ?_
    exact moves_then (moves_callGrants (moves_grantCapability token kind)) fun _ => moves_pure _

theorem moves_withdraw (token : Token) (kind : Kind) (issued : Issued) :
    (withdraw token kind issued).Moves (Changes s 0) := by
  cases issued with
  | save serial => exact moves_modify _ fun r => .withdrewSave token serial
  | capability newly =>
    cases newly with
    | true =>
      exact (counted_changes s).moves_then (moves_onGrants (moves_revokeCapability token kind)) fun _ =>
        (counted_changes s).moves_pure ()
    | false => exact (counted_changes s).moves_pure ()

theorem moves_reportClick (caller : Caller) (id : ComponentId) (c : Component) (declared : String)
    (event : ClickEvent) (handle : Option UInt64) :
    (reportClick s caller id c declared event handle).Moves (Changes s 1) := by
  have store (c' : Component) :
      Call.Moves (Changes s 0) (modifyGet (storeGranted caller.pid id c')) := by
    refine Call.moves_modifyGet fun r => ?_
    unfold storeGranted
    split
    · exact .none 0 r
    · exact (Change.reshaped caller.pid id _).changes
  have inside (token : Token) :
      Call.Moves (Changes s 1) (reportInside s caller id c declared event handle token) := by
    refine moves_then (moves_readmission caller id c declared) fun c' => ?_
    refine moves_then (moves_verifyEvent caller c' event) fun _ => ?_
    refine moves_then (moves_callConsents (moves_ensureConsent _ token c.kind handle)) fun _ => ?_
    refine Call.moves_before (counted_changes s) (moves_issue token c.kind) fun issued => ?_
    refine moves_then (store c') fun there => ?_
    split
    · exact moves_change _ fun r => .counted _
    · refine moves_then (Call.moves_liftM (counted_changes s) (moves_withdraw token c.kind issued)) fun _ => ?_
      exact moves_throw _
  have uncounted := moves_door caller id c.kind (fun stored => .kindClicked id stored c.kind)
    (reportInside s caller id c declared event handle) inside
  refine (counted_changes s).moves_before uncounted fun result => ?_
  exact (counted_changes s).moves_then (moves_modify _ fun r => .counted _) fun _ =>
    (counted_changes s).moves_pure result

/-! ## Lives and timers -/

/-- An identity loses what it holds when its process has been removed. -/
theorem moves_forfeited (removed : Option Registration) (active : Nat) : Op.Moves (Changes s 1) (do
    match removed with
    | none => return ()
    | some p =>
      onGrants (GrantState.revokeEverything p.token)
      modify (showActive active)
      syncPosture s) := by
  cases removed with
  | none => exact (counted_changes s).moves_mono (Nat.zero_le 1) ((counted_changes s).moves_pure ())
  | some p =>
    refine (counted_changes s).moves_then (moves_onGrants (moves_revokeEverything p.token)) fun _ => ?_
    exact (counted_changes s).moves_then (moves_modify _ fun r => .counted _) fun _ => moves_syncPosture

theorem moves_processDied (pid : Pid) : (processDied s pid).Moves (Changes s 1) := by
  have removes : Op.Moves (Changes s 0) (modifyGet (removeProcess pid)) :=
    Op.moves_modifyGet fun r => (Change.removed pid).changes
  refine (counted_changes s).moves_then removes fun found => ?_
  dsimp only
  split
  · exact (counted_changes s).moves_then ((counted_changes s).moves_ask _) fun _ =>
      moves_forfeited found.1 found.2
  · exact moves_forfeited found.1 found.2

theorem moves_handleTimer (event : TimerEvent) : (handleTimer event).Moves (Changes s 0) := by
  cases event with
  | saveExpired token serial => exact moves_modify _ fun r => .withdrewSave token serial
  | idleExpired => exact moves_modify _ fun r => .wentDown
  | backgroundExpired token =>
    refine (counted_changes s).moves_then (moves_onGrants (moves_revokeCapabilities token)) fun kinds => ?_
    split
    · exact moves_modify _ fun r => .unmarked token
    · exact (counted_changes s).moves_pure ()

theorem moves_handleTimers : ∀ events : List TimerEvent, (handleTimers events).Moves (Changes s 0)
  | [] => (counted_changes s).moves_pure ()
  | event :: rest =>
    (counted_changes s).moves_then (moves_handleTimer event) fun _ => moves_handleTimers rest

/-- Whatever an act is told, and whatever it finds when it is told, it moves the registry by changes
that schedule at most one timer before it asks again or ends. -/
theorem moves_perform (s : Settings) (act : Act) : (perform s act).Moves (Changes s 1) := by
  have counted := counted_changes s
  -- an act whose result does not matter
  have replies {α : Type} {x : Op Registry α} (h : x.Moves (Changes s 1)) :
      (x >>= fun _ => (pure (.ok ()) : Op Registry (Except Refusal Unit))).Moves (Changes s 1) :=
    counted.moves_before h fun _ => counted.moves_pure _
  cases act with
  | register caller kind c declared =>
    exact counted.moves_before (moves_register caller kind c declared) fun _ => counted.moves_pure _
  | update caller id c declared =>
    exact counted.moves_mono (Nat.zero_le 1) (moves_update caller id c declared)
  | unregister caller id => exact moves_unregister caller id
  | reportClick caller id c declared event handle =>
    exact moves_reportClick caller id c declared event handle
  | foreground pid =>
    exact replies (Op.moves_modifyGet fun r => (Change.cameForward pid).changes.mono (Nat.zero_le 1))
  | background pid => exact replies (Op.moves_modifyGet fun r => (Change.wentBack pid).changes)
  | died pid => exact replies (moves_processDied pid)
  | armIdleExit => exact replies (moves_modify _ fun r => .armed)
  | fire event => exact replies (counted.moves_mono (Nat.zero_le 1) (moves_handleTimer event))
  | runDueTimers =>
    have takes : Op.Moves (Changes s 0) (modifyGet takeDue) :=
      Op.moves_modifyGet fun r => Change.tookDue.changes
    refine replies (counted.moves_mono (Nat.zero_le 1) ?_)
    refine counted.moves_then takes fun due => ?_
    exact counted.moves_then (moves_handleTimers due) fun _ => counted.moves_pure _
  | setClock now =>
    exact replies (counted.moves_mono (Nat.zero_le 1) (moves_modify _ fun r => .clockMoved now))

/-- The traffic that moves lead to from a registry in which nothing is under way. -/
def trafficFrom (s : Settings) (r : Registry) (moves : List (Move Act)) :
    Traffic Registry Act (Except Refusal Unit) := (Traffic.start r).run (perform s) moves

end ClickGrant.Registry
