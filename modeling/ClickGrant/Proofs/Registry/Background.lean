import ClickGrant.Proofs.Registry.Processes
import ClickGrant.Proofs.Registry.Standalone

/-!
# Capabilities in the background

A process that goes to the background while its identity holds a capability has the revocation
deferred: a timer is pending that takes the capability back. `Attended` says that this is so of
every process in the background. What is proved:
  1. `Fires.attended`, `FiresAll.attended` — a timer that goes off leaves nothing unattended. Due
     timers are taken out of the queue together, so while they are handled the events still to come
     count as pending.
  2. `FiresAll.kindsOf_nil` — and it does take the capabilities back.
  3. `Outcome.attended_iff` — an act leaves everything attended, unless it `Neglects` a process: a
     click on a component grants a capability to an identity with a process in the background, or
     one of two processes of an identity comes to the foreground and the revocation is given up for
     both of them.
  4. `attended_throughout_iff` — so every process in the background is attended in every state of a
     run exactly if no turn of the run neglects one.
  5. `neglected_after_click` — and that does happen: an application goes to the background and
     then reports a click.
-/
set_option autoImplicit false

namespace ClickGrant.Registry

variable {s : Settings} {r r' : Registry} {log : List Exchange} {act : Act}
  {reply : Except Refusal Unit} {token token' : Token} {pid pid' : Pid}

/-- The process is in the background, registered under this identity. -/
def Asleep (r : Registry) (token : Token) (pid : Pid) : Prop :=
  ∃ p, r.table.processes.get? pid = some p ∧ p.token = token ∧ p.isForeground = false

/-- For every process in the background whose identity holds a capability the revocation is
pending, or it is among the events to come. -/
def AttendedBy (events : List TimerEvent) (r : Registry) : Prop :=
  ∀ token pid, Asleep r token pid → r.ledger.kindsOf token ≠ [] →
    r.timers.contains (backgroundKey token) = true ∨ .backgroundExpired token ∈ events

/-- For every process in the background whose identity holds a capability the revocation is
pending. -/
def Attended (r : Registry) : Prop :=
  ∀ token pid, Asleep r token pid → r.ledger.kindsOf token ≠ [] →
    r.timers.contains (backgroundKey token) = true

theorem attendedBy_nil_iff : AttendedBy [] r ↔ Attended r := by
  unfold AttendedBy Attended
  simp

/-- The turn leaves a process in the background whose identity holds a capability without a
deferred revocation. -/
def Neglects (t : Turn) : Prop :=
  match t.act with
  | .reportClick caller _ c _ _ _ =>
    t.reply = .ok () ∧ c.kind.grantStyle = .capability ∧
      ∃ p pid, t.before.table.processes.get? caller.pid = some p ∧ Asleep t.before p.token pid ∧
        t.before.timers.contains (backgroundKey p.token) = false
  | .foreground pid =>
    ∃ p pid', t.before.table.processes.get? pid = some p ∧ pid' ≠ pid ∧
      Asleep t.before p.token pid' ∧ t.before.ledger.kindsOf p.token ≠ []
  | _ => False

/-! ## Who is in the background -/

theorem Asleep.of_thins (thins : r.table.Thins r'.table) (h : Asleep r' token pid) :
    Asleep r token pid := by
  obtain ⟨p', found, rfl, asleep⟩ := h
  obtain ⟨p, old, thin⟩ := thins pid p' found
  exact ⟨p, old, thin.token.symm, thin.foreground ▸ asleep⟩

/-- Only the news that it went there brings a process to the background. -/
theorem Outcome.asleep (h : Outcome s r act log reply r') (asleep : Asleep r' token pid) :
    Asleep r token pid ∨
      act = .background pid ∧ ∃ p, r.table.processes.get? pid = some p ∧ p.token = token := by
  cases h.reshapes with
  | thins thins => exact .inl (asleep.of_thins thins)
  | registered _ fits left =>
    obtain ⟨p', found, rfl, asleep⟩ := asleep
    rw [left, ComponentTable.get?_insert, (ComponentTable.allocate_ends fits.free).2] at found
    split at found
    next here =>
      cases found
      unfold Assoc.getD at asleep ⊢
      subst here
      cases old : r.table.processes.get? _ with
      | none => rw [old] at asleep; cases asleep
      | some p => rw [old] at asleep; exact .inl ⟨p, old, rfl, asleep⟩
    next => exact .inl ⟨p', found, rfl, asleep⟩
  | redrawn _ _ _ left =>
    obtain ⟨p', found, rfl, asleep⟩ := asleep
    rw [left, ComponentTable.get?_modify] at found
    split at found
    next =>
      obtain ⟨p, old, rfl⟩ := Option.map_eq_some_iff.mp found
      exact .inl ⟨p, old, rfl, asleep⟩
    next => exact .inl ⟨p', found, rfl, asleep⟩
  | moved pid' foreground act left =>
    obtain ⟨p', found, rfl, asleep⟩ := asleep
    rw [left, ComponentTable.get?_setForeground] at found
    split at found
    next here =>
      subst here
      obtain ⟨p, old, rfl⟩ := Option.map_eq_some_iff.mp found
      cases foreground with
      | true => cases asleep
      | false => exact .inr ⟨act, p, old, rfl⟩
    next => exact .inl ⟨p', found, rfl, asleep⟩

/-! ## Timers -/

/-- An event that goes off is no longer to come, and leaves nothing unattended. -/
theorem Fires.attended {event : TimerEvent} {rest : List TimerEvent} (h : Fires r event log r')
    (attended : AttendedBy (event :: rest) r) : AttendedBy rest r' := by
  intro token pid asleep holds
  have before := attended token pid (asleep.of_thins h.thins)
  cases h with
  | save token' serial =>
    rw [ledger_withdrawSave, GrantState.kindsOf_revokeSave] at holds
    rw [timers_withdrawSave, GrantState.contains_revokeSave]
    refine (before holds).imp_right fun h => ?_
    rcases List.mem_cons.mp h with h | h
    · cases h
    · exact h
  | @background token' =>
    unfold backgrounded at holds ⊢
    dsimp only at holds ⊢
    rw [GrantState.kindsOf_dropCapabilities] at holds
    rw [GrantState.contains_dropCapabilities]
    split at holds
    · exact absurd rfl holds
    next other =>
      rw [decide_eq_true other, Bool.true_and]
      refine (before holds).imp_right fun h => ?_
      rcases List.mem_cons.mp h with h | h
      · cases h; exact absurd rfl other
      · exact h
  | idle =>
    rw [ledger_beginShutdown] at holds
    rw [timers_beginShutdown]
    refine (before holds).imp_right fun h => ?_
    rcases List.mem_cons.mp h with h | h
    · cases h
    · exact h

theorem FiresAll.attended {events : List TimerEvent} (h : FiresAll r events log r')
    (attended : AttendedBy events r) : Attended r' := by
  induction h with
  | nil r => exact attendedBy_nil_iff.mp attended
  | cons first others ih => exact ih (first.attended attended)

/-- What is due is to come. -/
theorem attendedBy_takeDue (sound : r.toGrantState.Sound) (attended : Attended r) :
    AttendedBy (takeDue r).1 (takeDue r).2 := by
  intro token pid asleep holds
  have before := attended token pid asleep holds
  cases after : (takeDue r).2.timers.contains (TimerEvent.backgroundExpired token).key with
  | true => exact .inl after
  | false => exact .inr (TimerQueue.mem_takeDue sound.timers before after)

theorem Fires.kindsOf_nil {event : TimerEvent} (h : Fires r event log r')
    (gone : event = .backgroundExpired token ∨ r.ledger.kindsOf token = []) :
    r'.ledger.kindsOf token = [] := by
  cases h with
  | save token' serial =>
    rw [ledger_withdrawSave, GrantState.kindsOf_revokeSave]
    exact gone.resolve_left (by simp)
  | @background token' =>
    unfold backgrounded
    dsimp only
    rw [GrantState.kindsOf_dropCapabilities]
    split
    · rfl
    next other => exact gone.resolve_left fun same => other (TimerEvent.backgroundExpired.inj same)
  | idle =>
    rw [ledger_beginShutdown]
    exact gone.resolve_left (by simp)

/-- An identity has no capability left once its revocation has gone off. -/
theorem FiresAll.kindsOf_nil {events : List TimerEvent} (h : FiresAll r events log r')
    (gone : .backgroundExpired token ∈ events ∨ r.ledger.kindsOf token = []) :
    r'.ledger.kindsOf token = [] := by
  induction h with
  | nil r => exact gone.resolve_left (by simp)
  | cons first others ih =>
    rw [List.mem_cons] at gone
    rcases gone with (now | later) | already
    · exact ih (.inr (first.kindsOf_nil (.inl now.symm)))
    · exact ih (.inl later)
    · exact ih (.inr (first.kindsOf_nil (.inr already)))

/-! ## Every act -/

/-- Nobody newly holds a capability in the background, and no revocation is given up. -/
theorem Attended.mono (attended : Attended r)
    (asleep : ∀ token pid, Asleep r' token pid → Asleep r token pid)
    (ledger : ∀ token, r'.ledger.kindsOf token ≠ [] → r.ledger.kindsOf token ≠ [])
    (timers : ∀ token, r'.ledger.kindsOf token ≠ [] →
      r.timers.contains (backgroundKey token) = true → r'.timers.contains (backgroundKey token) = true) :
    Attended r' := by
  intro token pid sleeps holds
  exact timers token holds (attended token pid (asleep token pid sleeps) (ledger token holds))

theorem Attended.idleOnly (attended : Attended r)
    (asleep : ∀ token pid, Asleep r' token pid → Asleep r token pid)
    (grants : IdleOnly r.toGrantState r'.toGrantState) : Attended r' := by
  refine attended.mono asleep (fun token holds => ?_) (fun token _ pending => ?_)
  · rwa [grants.ledger_eq] at holds
  · rwa [grants.contains_eq (backgroundKey_ne_idleKey token)]

theorem Dies.attended (h : Dies s pid r log r')
    (asleep : ∀ token pid, Asleep r' token pid → Asleep r token pid) (attended : Attended r) :
    Attended r' := by
  obtain ⟨-, same⟩ | ⟨p, -, idle⟩ := h.grants
  · exact attended.idleOnly asleep (same ▸ .same)
  -- what the dead process's identity held is gone, and other identities are not touched
  have other {token : Token} (holds : r'.ledger.kindsOf token ≠ []) :
      p.token ≠ token ∧ r.ledger.kindsOf token ≠ [] := by
    rw [idle.ledger_eq, kindsOf_forfeited] at holds
    split at holds
    · exact absurd rfl holds
    next ne => exact ⟨ne, holds⟩
  refine attended.mono asleep (fun token holds => (other holds).2) (fun token holds pending => ?_)
  rw [idle.contains_eq (backgroundKey_ne_idleKey token), contains_forfeited, pending,
    decide_eq_true (other holds).1]
  rfl

/-- An identity that holds a capability has a record in the ledger. -/
theorem capabilities_contains {l : Ledger} (same : token = token') (holds : l.kindsOf token' ≠ []) :
    l.capabilities.contains token = true := by
  subst same
  unfold Ledger.kindsOf Assoc.getD at holds
  unfold Assoc.contains
  cases record : l.capabilities.get? token with
  | none => rw [record] at holds; exact absurd rfl holds
  | some kinds => rfl

/-- What is attended stays so, unless the act neglects a process in the background. -/
theorem Outcome.attended_of_not_neglects (h : Outcome s r act log reply r')
    (sound : r.toGrantState.Sound) (attended : Attended r)
    (minds : ¬Neglects ⟨r, act, log, reply, r'⟩) : Attended r' := by
  have went {token : Token} {pid : Pid} (sleeps : Asleep r' token pid) := h.asleep sleeps
  have asleep (other : ∀ pid, act ≠ .background pid) (token : Token) (pid : Pid)
      (sleeps : Asleep r' token pid) : Asleep r token pid := by
    rcases went sleeps with before | ⟨act, -⟩
    · exact before
    · exact absurd act (other pid)
  cases h with
  | register f ends => exact attended.idleOnly (asleep (by simp)) ends.idleOnly
  | update ends => exact attended.idleOnly (asleep (by simp)) (ends.grants_eq ▸ .same)
  | unregister ends => exact attended.idleOnly (asleep (by simp)) ends.idleOnly
  | reportClick f ends =>
    cases reply with
    | error e =>
      refine attended.idleOnly (asleep (by simp)) ?_
      rw [toGrantState_measure, ends.grants_of_error]
      exact .same
    | ok =>
      obtain ⟨token, door, grants⟩ := ends.grants_of_ok
      obtain ⟨p, _, found, -, -, rfl⟩ := door.present
      intro token pid sleeps holds
      have sleeps := asleep (by simp) token pid sleeps
      rw [toGrantState_measure, grants] at holds ⊢
      rw [kindsOf_credited] at holds
      rw [contains_credited]
      split at holds
      next clicked =>
        -- the identity gains a capability, so its revocation must be pending already
        obtain ⟨rfl, style⟩ := clicked
        rw [← Bool.not_eq_false]
        intro forgotten
        exact minds ⟨rfl, style, p, pid, found, sleeps, forgotten⟩
      next => exact attended token pid sleeps holds
  | foreground pid =>
    cases found : r.table.processes.get? pid with
    | none => rw [processForeground_of_none found]; exact attended
    | some p =>
      rw [processForeground_of_some found] at asleep ⊢
      intro token pid' sleeps holds
      have before := asleep (by simp) token pid' sleeps
      dsimp only
      rw [GrantState.contains_cancelDeferred, attended token pid' before holds, Bool.and_true,
        decide_eq_true_eq]
      intro same
      subst same
      -- the identity's revocation is given up, so the process in the background is not this one
      refine minds ⟨p, pid', found, ?_, before, holds⟩
      intro same
      subst same
      obtain ⟨p', found', -, sleeps⟩ := sleeps
      rw [ComponentTable.get?_setForeground, if_pos rfl, found] at found'
      cases found'
      cases sleeps
  | background pid =>
    cases found : r.table.processes.get? pid with
    | none => rw [processBackground_of_none found]; exact attended
    | some p =>
      rw [processBackground_of_some found] at went ⊢
      intro token pid' sleeps holds
      rw [GrantState.ledger_deferRevocation] at holds
      dsimp only
      rw [GrantState.contains_deferRevocation, Bool.or_eq_true, Bool.and_eq_true, decide_eq_true_eq]
      rcases went sleeps with before | ⟨act, p', found', same⟩
      · exact .inr (attended token pid' before holds)
      · cases act
        rw [found] at found'
        cases found'
        exact .inl ⟨same, capabilities_contains same holds⟩
  | died ends => exact ends.attended (asleep (by simp)) attended
  | armIdleExit => exact attended.idleOnly (asleep (by simp)) (.armed _)
  | @fire event _ _ ends =>
    refine FiresAll.attended (.cons ends (.nil _)) fun token pid sleeps holds => ?_
    exact .inl (attended token pid sleeps holds)
  | runDueTimers ends => exact ends.attended (attendedBy_takeDue sound attended)
  | setClock now => exact attended.mono (asleep (by simp)) (fun _ h => h) (fun _ _ h => h)

/-! ## Neglect -/

theorem Asleep.modify {id : ComponentId} {f : Component → Component}
    (left : r'.table = r.table.modify pid' id f) (h : Asleep r token pid) : Asleep r' token pid := by
  obtain ⟨p, found, rfl, asleep⟩ := h
  rw [Asleep, left, ComponentTable.get?_modify]
  split
  · exact ⟨p.modify id f, by rw [found]; rfl, rfl, asleep⟩
  · exact ⟨p, found, rfl, asleep⟩

theorem insert_ne_nil (kind : Kind) (kinds : List Kind) : kind.insert kinds ≠ [] :=
  List.ne_nil_of_mem ((Kind.mem_insert kind kind kinds).mpr (.inl rfl))

/-- A granted click in the background has nobody to take the capability back. -/
theorem Clicks.neglected {caller : Caller} {id : ComponentId} {c : Component} {declared : String}
    {event : ClickEvent} {handle : Option UInt64} {p : Registration}
    (h : Clicks s caller id c declared event handle r log (.ok ()) r')
    (style : c.kind.grantStyle = .capability) (found : r.table.processes.get? caller.pid = some p)
    (asleep : Asleep r p.token pid) (forgotten : r.timers.contains (backgroundKey p.token) = false) :
    ¬Attended r' := by
  intro attended
  cases h with
  | @granted _ _ _ token _ _ f door =>
    obtain ⟨p', _, found', -, -, rfl⟩ := door.present
    obtain rfl := Option.some.inj (found.symm.trans found')
    have pending := attended p.token pid (asleep.modify rfl)
    rw [toGrantState_measure] at pending
    dsimp only at pending
    rw [kindsOf_credited, if_pos ⟨rfl, style⟩, contains_credited, forgotten] at pending
    cases pending (insert_ne_nil _ _)

theorem Outcome.not_attended_of_neglects (h : Outcome s r act log reply r')
    (neglects : Neglects ⟨r, act, log, reply, r'⟩) : ¬Attended r' := by
  cases h with
  | reportClick f ends =>
    obtain ⟨ok, style, p, pid, found, asleep, forgotten⟩ := neglects
    cases ok
    exact ends.neglected style found asleep forgotten
  | foreground pid =>
    obtain ⟨p, pid', found, other, ⟨p', found', same, asleep⟩, holds⟩ := neglects
    dsimp only at found found' holds
    intro attended
    rw [processForeground_of_some found] at attended
    have pending := attended p.token pid' ⟨p', ?_, same, asleep⟩ holds
    · dsimp only at pending
      rw [GrantState.contains_cancelDeferred, decide_eq_false (not_not_intro rfl)] at pending
      cases pending
    · dsimp only
      rw [ComponentTable.get?_setForeground, if_neg other.symm, found']
  | _ => cases neglects

/-- What is attended stays so, unless the act neglects a process in the background. -/
theorem Outcome.attended_iff (h : Outcome s r act log reply r') (sound : r.toGrantState.Sound)
    (attended : Attended r) : Attended r' ↔ ¬Neglects ⟨r, act, log, reply, r'⟩ := by
  constructor
  · intro attended' neglects
    exact h.not_attended_of_neglects neglects attended'
  · exact h.attended_of_not_neglects sound attended

/-- Every process in the background is attended in every state of a run exactly if no turn of the
run neglects one. -/
theorem attended_throughout_iff {now : UInt64} {consents : ConsentStore} {metrics : Option Metrics}
    {turns : List Turn} (run : Run s (.start now consents metrics) turns r) :
    (∀ t ∈ turns, Attended t.after) ↔ ∀ t ∈ turns, ¬Neglects t :=
  @Run.keeps_iff s _ _ _ (fun r => r.toGrantState.Sound) Attended Neglects
    (fun _ taken sound => taken.outcome.sound sound)
    (fun _ taken sound attended => taken.outcome.attended_iff sound attended)
    run (GrantState.sound_start now) (by intro _ _ ⟨_, found, _⟩; cases found)

namespace Scene

/-- An application registers a location button, goes to the background and reports a click. -/
def clickAsleep : List Act :=
  [.register app .location locationButton "", .background app.pid, click 1000 locationButton 150 130]

end Scene

open Scene in
theorem attended_throughout_clickAsleep :
    Run settings fresh (turns clickAsleep) (state clickAsleep) ∧
      ((∀ t ∈ turns clickAsleep, Attended t.after) ↔ ∀ t ∈ turns clickAsleep, ¬Neglects t) :=
  ⟨run_turns clickAsleep, attended_throughout_iff (run_turns clickAsleep)⟩

open Scene in
/-- The click is granted, and nothing is pending that would take the capability back. -/
theorem neglected_after_click :
    ∃ turns r, Run settings fresh turns r ∧ turns.map (·.act) = clickAsleep ∧ ¬Attended r := by
  refine ⟨_, _, run_turns _, map_act_turns _, fun attended => ?_⟩
  have asleep : ((state clickAsleep).table.processes.get? 4242).any
      (fun p => p.token = 537 ∧ p.isForeground = false) = true := by decide +kernel
  obtain ⟨p, found, at537⟩ := (Option.any_eq_true _ _).mp asleep
  have pending := attended 537 4242 ⟨p, found, of_decide_eq_true at537⟩ (by decide +kernel)
  exact absurd pending (by decide +kernel)

end ClickGrant.Registry
