import ClickGrant.Proofs.Registry.Run

/-!
# What each act does to the grants

A call on components leaves the grants as they are, up to the timer of the idle exit
(`IdleOnly`); of all calls only a granted click changes them (`credited`). A death takes everything
back from the identity the process is registered under, news from the foreground or the background
touches a deferred revocation, and a timer takes back what it stands for.

So the soundness of the grants is kept by every turn (`Outcome.sound`), and it holds in every state
of every run of a fresh registry (`Run.sound`).
-/
set_option autoImplicit false

namespace ClickGrant.Registry

/-- The grants are the same up to the timer of the idle exit. -/
inductive IdleOnly (g : GrantState) : GrantState → Prop where
  | same : IdleOnly g g
  | armed (deadline : UInt64) :
      IdleOnly g { g with timers := g.timers.schedule idleKey deadline .idleExpired }
  | disarmed : IdleOnly g { g with timers := g.timers.remove idleKey }

namespace IdleOnly

variable {g g' : GrantState}

theorem ledger_eq (h : IdleOnly g g') : g'.ledger = g.ledger := by
  cases h <;> rfl

theorem contains_eq (h : IdleOnly g g') {key : TimerKey} (other : key ≠ idleKey) :
    g'.timers.contains key = g.timers.contains key := by
  cases h with
  | same => rfl
  | armed deadline => simp [other.symm]
  | disarmed => simp [other.symm]

theorem sound (h : IdleOnly g g') (sound : g.Sound) : g'.Sound := by
  cases h with
  | same => exact sound
  | armed deadline => exact sound.schedule deadline .idleExpired (by intro _ _ h; cases h)
  | disarmed => exact sound.remove idleKey

end IdleOnly

variable {s : Settings} {caller : Caller} {c : Component} {declared : String} {r r' : Registry}
  {log : List Exchange} {id : ComponentId} {kind : Kind} {event : ClickEvent} {handle : Option UInt64}

theorem idleOnly_synced (s : Settings) {u : Registry} {g : GrantState} (same : u.toGrantState = g) :
    IdleOnly g (synced s u).toGrantState := by
  rw [← same]
  unfold synced
  split
  · exact .disarmed
  · split
    · exact .armed _
    · exact .same

@[simp] theorem table_synced (s : Settings) (r : Registry) : (synced s r).table = r.table := by
  unfold synced
  split
  · rfl
  · split <;> rfl

/-! ## Calls -/

theorem Admits.grants_eq {result : Except Refusal Component}
    (h : Admits s caller c declared r log result r') : r'.toGrantState = r.toGrantState := by
  cases h with
  | tampered => simp
  | _ => rfl

theorem Registers.idleOnly {result : Except Refusal ComponentId}
    (h : Registers s caller kind c declared r log result r') :
    IdleOnly r.toGrantState r'.toGrantState := by
  cases h with
  | barred => exact .same
  | otherKind => exact .same
  | unadmitted _ _ refused => rw [refused.grants_eq]; exact .same
  | clash => exact .same
  | stored _ _ _ _ stored =>
    subst stored
    exact idleOnly_synced s rfl

theorem Updates.grants_eq {reply : Except Refusal Unit}
    (h : Updates s caller id c declared r log reply r') : r'.toGrantState = r.toGrantState := by
  cases h with
  | turnedAway => rfl
  | unadmitted _ refused => exact refused.grants_eq
  | replaced => rfl

theorem Unregisters.idleOnly {reply : Except Refusal Unit}
    (h : Unregisters s caller id r log reply r') : IdleOnly r.toGrantState r'.toGrantState := by
  cases h with
  | exiting => exact .same
  | negative => exact .same
  | unknown => exact .same
  | taken _ _ _ left =>
    subst left
    exact idleOnly_synced s rfl

theorem Believes.grants_eq {result : Except Refusal Unit}
    (h : Believes s caller c event r log result r') : r'.toGrantState = r.toGrantState := by
  cases h with
  | rejected =>
    split
    · exact toGrantState_quarantineCaller r caller
    · rfl
  | _ => rfl

/-- A refused click leaves the grants as they are. -/
theorem Clicks.grants_of_error {e : Refusal}
    (h : Clicks s caller id c declared event handle r log (.error e) r') :
    r'.toGrantState = r.toGrantState := by
  cases h with
  | turnedAway => rfl
  | unadmitted _ refused => exact refused.grants_eq
  | unbelieved _ _ disbelief => exact disbelief.grants_eq
  | unconsented => rfl
  | denied _ _ _ _ refused => cases refused; rfl

/-- A granted click credits the identity its component is stored under. -/
theorem Clicks.grants_of_ok (h : Clicks s caller id c declared event handle r log (.ok ()) r') :
    ∃ token, LetsIn r caller id c.kind token ∧
      r'.toGrantState = credited s token c.kind r.toGrantState := by
  cases h with
  | granted f door => exact ⟨_, door, rfl⟩

theorem kindsOf_credited (s : Settings) (token token' : Token) (kind : Kind) (g : GrantState) :
    (credited s token kind g).ledger.kindsOf token' =
      if token = token' ∧ kind.grantStyle = .capability then kind.insert (g.ledger.kindsOf token)
      else g.ledger.kindsOf token' := by
  unfold credited
  split
  next style => rw [style]; simp; rfl
  next style =>
    rw [GrantState.kindsOf_addCapability, style]
    simp

theorem contains_credited (s : Settings) (token token' : Token) (kind : Kind) (g : GrantState) :
    (credited s token kind g).timers.contains (backgroundKey token') =
      g.timers.contains (backgroundKey token') := by
  unfold credited
  split
  · exact GrantState.contains_grantSave s.delays token token' g
  · rfl

/-! ## News about processes -/

/-- News about a process that is not registered changes nothing. -/
theorem processForeground_of_none {pid : Pid} (absent : r.table.processes.get? pid = none) :
    (processForeground pid r).2 = r := by
  rw [processForeground, absent]

theorem processForeground_of_some {pid : Pid} {p : Registration}
    (found : r.table.processes.get? pid = some p) :
    (processForeground pid r).2 =
      { r with
        toGrantState := (GrantState.cancelDeferred p.token r.toGrantState).2
        table := r.table.setForeground pid true } := by
  rw [processForeground, found]
  rfl

theorem processBackground_of_none {pid : Pid} (absent : r.table.processes.get? pid = none) :
    (processBackground s pid r).2 = r := by
  rw [processBackground, absent]

theorem processBackground_of_some {pid : Pid} {p : Registration}
    (found : r.table.processes.get? pid = some p) :
    (processBackground s pid r).2 =
      { r with
        toGrantState := (GrantState.deferRevocation s.delays p.token r.toGrantState).2
        table := r.table.setForeground pid false } := by
  rw [processBackground, found]
  rfl

theorem ledger_processForeground (pid : Pid) (r : Registry) :
    (processForeground pid r).2.ledger = r.ledger := by
  cases found : r.table.processes.get? pid with
  | none => rw [processForeground_of_none found]
  | some p => rw [processForeground_of_some found]; rfl

theorem ledger_processBackground (s : Settings) (pid : Pid) (r : Registry) :
    (processBackground s pid r).2.ledger = r.ledger := by
  cases found : r.table.processes.get? pid with
  | none => rw [processBackground_of_none found]
  | some p => rw [processBackground_of_some found]; exact GrantState.ledger_deferRevocation ..

/-! ## Deaths and timers -/

/-- A death takes everything back from the identity its process is registered under. -/
theorem Dies.grants {pid : Pid} (h : Dies s pid r log r') :
    (r.table.processes.get? pid = none ∧ r'.toGrantState = r.toGrantState) ∨
      ∃ p, r.table.processes.get? pid = some p ∧
        IdleOnly (forfeited p.token r.toGrantState) r'.toGrantState := by
  cases h with
  | unknown absent => exact .inl ⟨absent, rfl⟩
  | known present _ left =>
    subst left
    exact .inr ⟨_, present, idleOnly_synced s rfl⟩

theorem serialsOf_forfeited (token token' : Token) (g : GrantState) :
    (forfeited token g).ledger.serialsOf token' =
      if token = token' then [] else g.ledger.serialsOf token' :=
  GrantState.serialsOf_revokeSaves token token' g

theorem kindsOf_forfeited (token token' : Token) (g : GrantState) :
    (forfeited token g).ledger.kindsOf token' =
      if token = token' then [] else g.ledger.kindsOf token' := by
  rw [forfeited, GrantState.kindsOf_dropCapabilities, GrantState.kindsOf_revokeSaves]

theorem contains_forfeited (token token' : Token) (g : GrantState) :
    (forfeited token g).timers.contains (backgroundKey token') =
      (decide (token ≠ token') && g.timers.contains (backgroundKey token')) := by
  rw [forfeited, GrantState.contains_dropCapabilities, GrantState.contains_revokeSaves]

theorem toGrantState_withdrawSave (token : Token) (serial : UInt64) (r : Registry) :
    (withdrawSave token serial r).toGrantState =
      (GrantState.revokeSave token serial r.toGrantState).2 := by
  unfold withdrawSave changeGrants
  cases GrantState.revokeSave token serial r.toGrantState with
  | mk last g => cases last <;> rfl

theorem ledger_withdrawSave (token : Token) (serial : UInt64) (r : Registry) :
    (withdrawSave token serial r).ledger = (GrantState.revokeSave token serial r.toGrantState).2.ledger :=
  congrArg GrantState.ledger (toGrantState_withdrawSave token serial r)

theorem timers_withdrawSave (token : Token) (serial : UInt64) (r : Registry) :
    (withdrawSave token serial r).timers = (GrantState.revokeSave token serial r.toGrantState).2.timers :=
  congrArg GrantState.timers (toGrantState_withdrawSave token serial r)

theorem toGrantState_beginShutdown (r : Registry) : (beginShutdown r).toGrantState = r.toGrantState := by
  unfold beginShutdown
  split <;> rfl

theorem ledger_beginShutdown (r : Registry) : (beginShutdown r).ledger = r.ledger :=
  congrArg GrantState.ledger (toGrantState_beginShutdown r)

theorem timers_beginShutdown (r : Registry) : (beginShutdown r).timers = r.timers :=
  congrArg GrantState.timers (toGrantState_beginShutdown r)

/-! ## What every turn keeps -/

theorem sound_credited (s : Settings) (token : Token) (kind : Kind) {g : GrantState} (sound : g.Sound) :
    (credited s token kind g).Sound := by
  unfold credited
  split
  · exact sound.grantSave s.delays token
  · exact sound.addCapability token kind

theorem sound_forfeited (token : Token) {g : GrantState} (sound : g.Sound) :
    (forfeited token g).Sound := (sound.revokeSaves token).dropCapabilities token

theorem Fires.sound {event : TimerEvent} (h : Fires r event log r') (sound : r.toGrantState.Sound) :
    r'.toGrantState.Sound := by
  cases h with
  | save token serial =>
    rw [toGrantState_withdrawSave]
    exact sound.revokeSave token serial
  | background => exact sound.dropCapabilities _
  | idle => rw [toGrantState_beginShutdown]; exact sound

theorem FiresAll.sound {events : List TimerEvent} (h : FiresAll r events log r')
    (sound : r.toGrantState.Sound) : r'.toGrantState.Sound :=
  h.keeps (fun u => u.toGrantState.Sound) (fun first sound => first.sound sound) sound

theorem Outcome.sound {act : Act} {reply : Except Refusal Unit} (h : Outcome s r act log reply r')
    (sound : r.toGrantState.Sound) : r'.toGrantState.Sound := by
  cases h with
  | register f ends => exact ends.idleOnly.sound sound
  | update ends => rw [ends.grants_eq]; exact sound
  | unregister ends => exact ends.idleOnly.sound sound
  | reportClick f ends =>
    rw [toGrantState_measure]
    cases reply with
    | error e => rw [ends.grants_of_error]; exact sound
    | ok =>
      obtain ⟨token, _, grants⟩ := ends.grants_of_ok
      rw [grants]
      exact sound_credited s token _ sound
  | foreground pid =>
    cases found : r.table.processes.get? pid with
    | none => rw [processForeground_of_none found]; exact sound
    | some p => rw [processForeground_of_some found]; exact sound.cancelDeferred p.token
  | background pid =>
    cases found : r.table.processes.get? pid with
    | none => rw [processBackground_of_none found]; exact sound
    | some p => rw [processBackground_of_some found]; exact sound.deferRevocation s.delays p.token
  | died ends =>
    obtain ⟨-, same⟩ | ⟨p, -, idle⟩ := ends.grants
    · rw [same]; exact sound
    · exact idle.sound (sound_forfeited p.token sound)
  | armIdleExit => exact (IdleOnly.armed _).sound sound
  | fire ends => exact ends.sound sound
  | runDueTimers ends => exact ends.sound (sound.takeDue r.now)
  | setClock now => exact ⟨sound.timers, sound.counted, sound.expiring⟩

/-- The grants are sound in every state of every run of a fresh registry. -/
theorem Run.sound {now : UInt64} {consents : ConsentStore} {metrics : Option Metrics}
    {turns : List Turn} (run : Run s (.start now consents metrics) turns r) :
    r.toGrantState.Sound ∧ ∀ t ∈ turns, t.Taken s ∧ t.before.toGrantState.Sound ∧
      t.after.toGrantState.Sound :=
  @Run.keeps s _ _ _ (fun r => r.toGrantState.Sound)
    (fun _ taken sound => taken.outcome.sound sound) run (GrantState.sound_start now)

end ClickGrant.Registry
