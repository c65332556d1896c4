import ClickGrant.Proofs.Registry.Background
import ClickGrant.Proofs.Registry.Marks

/-!
# Timers in flight

The timer loop takes what is due out of the queue and then hands one event after the other to the
registry, while others use the registry. An event that was taken and not yet handed over is in
flight: no key leads to it any more, so giving its timer up does not reach it, and a deferred
revocation takes the capabilities without another look at the processes. What is proved:
  1. `Outcome.unscheduled` — only the news that a process of the identity has gone to the background
     sets the timer of its deferred revocation.
  2. `Step.Taken.settled` — so once a process has come back, whatever the loop and others do, no
     revocation of the identity is pending, and none comes to be in flight that was not, until one
     of its processes goes to the background again.
  3. `Step.Taken.keeps_iff` — a revocation leaves everything in place exactly if there is no
     capability to take.
  4. `revoked_after_return` — both together, for everything that happens from a fresh start on.
  5. `overtaken_in_foreground` — and a revocation in flight does strike: an application comes back,
     has another click granted, and loses this capability too.
-/
set_option autoImplicit false

namespace ClickGrant.Registry

variable {s : Settings} {r r' : Registry} {act : Act} {log : List Exchange}
  {reply : Except Refusal Unit} {token : Token} {event : TimerEvent}

/-! ## The loop and the others -/

/-- The registry, and the events in flight in the order of the queue. -/
structure Driven where
  registry : Registry
  inFlight : List TimerEvent

/-- What happens next. -/
inductive Beat where
  /-- The loop takes what is due. -/
  | take
  /-- The loop hands an event over. -/
  | fire (event : TimerEvent)
  /-- Somebody else does something. -/
  | act (act : Act)

/-- One beat, from one state to another. -/
structure Step where
  before : Driven
  beat : Beat
  after : Driven

/-- A turn of somebody else's while these events are in flight. -/
def Turn.amid (inFlight : List TimerEvent) (t : Turn) : Step :=
  ⟨⟨t.before, inFlight⟩, .act t.act, ⟨t.after, inFlight⟩⟩

/-- The beat can go this way. The loop hands everything over before it takes more. -/
inductive Step.Taken (s : Settings) : Step → Prop where
  | take (r : Registry) : Step.Taken s ⟨⟨r, []⟩, .take, ⟨(takeDue r).2, (takeDue r).1⟩⟩
  | fire {r r' : Registry} {event : TimerEvent} {rest : List TimerEvent} {log : List Exchange}
      (handled : (handleTimer event).Does r log () r') :
      Step.Taken s ⟨⟨r, event :: rest⟩, .fire event, ⟨r', rest⟩⟩
  | act {t : Turn} (taken : t.Taken s) (inFlight : List TimerEvent) : Step.Taken s (t.amid inFlight)

/-- Steps from one state to another. -/
inductive Drive (s : Settings) : Driven → List Step → Driven → Prop where
  | done (d : Driven) : Drive s d [] d
  | next {t : Step} {steps : List Step} {d : Driven} (taken : t.Taken s)
      (rest : Drive s t.after steps d) : Drive s t.before (t :: steps) d

variable {d d' : Driven} {steps later : List Step} {t : Step}

/-- What each of these steps keeps holds at their end, and before each of them. -/
theorem Drive.keeps (Kept : Driven → Prop) (drive : Drive s d steps d')
    (step : ∀ t ∈ steps, t.Taken s → Kept t.before → Kept t.after) (start : Kept d) :
    Kept d' ∧ ∀ t ∈ steps, t.Taken s ∧ Kept t.before := by
  induction drive with
  | done d => exact ⟨start, by intro t h; cases h⟩
  | next taken rest ih =>
    obtain ⟨first, others⟩ := List.forall_mem_cons.mp step
    obtain ⟨last, all⟩ := ih others (first taken start)
    exact ⟨last, List.forall_mem_cons.mpr ⟨⟨taken, start⟩, all⟩⟩

/-- The loop and the others pass through a state between any two steps. -/
theorem Drive.split : ∀ {earlier : List Step} {d : Driven},
    Drive s d (earlier ++ later) d' → ∃ u, Drive s d earlier u ∧ Drive s u later d'
  | [], d, drive => ⟨d, .done d, drive⟩
  | _ :: _, _, .next taken rest => by
    obtain ⟨u, first, second⟩ := Drive.split rest
    exact ⟨u, .next taken first, second⟩

theorem Drive.append {u : Driven} (first : Drive s d steps u) (second : Drive s u later d') :
    Drive s d (steps ++ later) d' := by
  induction first with
  | done d => exact second
  | next taken rest ih => exact .next taken (ih second)

theorem Step.Taken.drive (taken : t.Taken s) : Drive s t.before [t] t.after :=
  .next taken (.done t.after)

/-- While the loop sleeps, the steps are the turns of the others. -/
theorem Run.drive {turns : List Turn} (run : Run s r turns r') (inFlight : List TimerEvent) :
    Drive s ⟨r, inFlight⟩ (turns.map (Turn.amid inFlight)) ⟨r', inFlight⟩ := by
  induction run with
  | done r => exact .done ⟨r, inFlight⟩
  | next taken rest ih => exact .next (.act taken inFlight) ih

/-! ## Timers that nobody sets -/

theorem Fires.unscheduled (h : Fires r event log r')
    (before : r.timers.contains (backgroundKey token) = false) :
    r'.timers.contains (backgroundKey token) = false := by
  cases h with
  | save token' serial => rwa [timers_withdrawSave, GrantState.contains_revokeSave]
  | @background token' =>
    show (GrantState.dropCapabilities token' r.toGrantState).2.timers.contains _ = false
    rw [GrantState.contains_dropCapabilities, before, Bool.and_false]
  | idle => rwa [timers_beginShutdown]

theorem unscheduled_takeDue (before : r.timers.contains (backgroundKey token) = false) :
    (takeDue r).2.timers.contains (backgroundKey token) = false := by
  rw [← Bool.not_eq_true] at before ⊢
  intro pending
  exact before ((TimerQueue.contains_takeDue _ _ _).mp pending).1

/-- Only the news that one of its processes has gone to the background sets the timer of an
identity's revocation. -/
theorem Outcome.unscheduled (h : Outcome s r act log reply r')
    (stays : ∀ pid p, act = .background pid → r.table.processes.get? pid = some p → p.token ≠ token)
    (before : r.timers.contains (backgroundKey token) = false) :
    r'.timers.contains (backgroundKey token) = false := by
  have idle {g g' : GrantState} (h : IdleOnly g g') (none : g.timers.contains (backgroundKey token) = false) :
      g'.timers.contains (backgroundKey token) = false := by
    rwa [h.contains_eq (backgroundKey_ne_idleKey token)]
  cases h with
  | register f ends => exact idle ends.idleOnly before
  | update ends => exact idle (ends.grants_eq ▸ .same) before
  | unregister ends => exact idle ends.idleOnly before
  | reportClick f ends =>
    rw [toGrantState_measure]
    cases reply with
    | error e => rwa [ends.grants_of_error]
    | ok =>
      obtain ⟨token', -, grants⟩ := ends.grants_of_ok
      rwa [grants, contains_credited]
  | foreground pid =>
    cases found : r.table.processes.get? pid with
    | none => rwa [processForeground_of_none found]
    | some p =>
      rw [processForeground_of_some found]
      dsimp only
      rw [GrantState.contains_cancelDeferred, before, Bool.and_false]
  | background pid =>
    cases found : r.table.processes.get? pid with
    | none => rwa [processBackground_of_none found]
    | some p =>
      have other : p.token ≠ token := stays pid p rfl found
      rw [processBackground_of_some found]
      dsimp only
      rw [GrantState.contains_deferRevocation, before, decide_eq_false other]
      rfl
  | died ends =>
    obtain ⟨-, same⟩ | ⟨p, -, posture⟩ := ends.grants
    · rwa [same]
    · refine idle posture ?_
      rw [contains_forfeited, before, Bool.and_false]
  | armIdleExit => exact idle (.armed _) before
  | fire ends => exact ends.unscheduled before
  | runDueTimers ends =>
    exact ends.keeps (fun u => u.timers.contains (backgroundKey token) = false)
      (fun first none => first.unscheduled none) (unscheduled_takeDue before)
  | setClock now => exact before

/-! ## From a process's return on -/

/-- A process of the identity has come to the foreground. -/
def Step.Returns (token : Token) (t : Step) : Prop :=
  ∃ pid p, t.beat = .act (.foreground pid) ∧
    t.before.registry.table.processes.get? pid = some p ∧ p.token = token

/-- A process of the identity has gone to the background. -/
def Step.Leaves (token : Token) (t : Step) : Prop :=
  ∃ pid p, t.beat = .act (.background pid) ∧
    t.before.registry.table.processes.get? pid = some p ∧ p.token = token

/-- No revocation of the identity is pending, and it is in flight only if it was among these. -/
structure Settled (token : Token) (events : List TimerEvent) (d : Driven) : Prop where
  sound : d.registry.toGrantState.Sound
  unscheduled : d.registry.timers.contains (backgroundKey token) = false
  inFlight : .backgroundExpired token ∈ d.inFlight → .backgroundExpired token ∈ events

theorem Outcome.foreground_eq {pid : Pid} (h : Outcome s r (.foreground pid) log reply r') :
    r' = (processForeground pid r).2 := by
  cases h
  rfl

theorem Step.Taken.sound (taken : t.Taken s) (sound : t.before.registry.toGrantState.Sound) :
    t.after.registry.toGrantState.Sound := by
  cases taken with
  | take r => exact sound.takeDue r.now
  | fire handled => exact (handleTimer_ends handled).sound sound
  | act taken => exact taken.outcome.sound sound

/-- With the return of a process the revocation is given up, if it is still pending. -/
theorem Step.Taken.settled_of_returns (taken : t.Taken s) (returns : t.Returns token)
    (sound : t.before.registry.toGrantState.Sound) : Settled token t.after.inFlight t.after := by
  refine ⟨taken.sound sound, ?_, id⟩
  obtain ⟨pid, p, beat, found, rfl⟩ := returns
  cases taken with
  | take => cases beat
  | fire => cases beat
  | @act turn taken inFlight =>
    obtain ⟨before, act, log, reply, after⟩ := turn
    cases beat
    have found : before.table.processes.get? pid = some p := found
    have left : after = (processForeground pid before).2 := taken.outcome.foreground_eq
    show after.timers.contains _ = false
    rw [left, processForeground_of_some found]
    dsimp only
    rw [GrantState.contains_cancelDeferred, decide_eq_false (not_not_intro rfl), Bool.false_and]

/-- Until a process of the identity goes to the background, no revocation of it becomes due. -/
theorem Step.Taken.settled {events : List TimerEvent} (taken : t.Taken s) (stays : ¬t.Leaves token)
    (settled : Settled token events t.before) : Settled token events t.after := by
  obtain ⟨sound, none, inFlight⟩ := settled
  refine ⟨taken.sound sound, ?_, ?_⟩
  · cases taken with
    | take => exact unscheduled_takeDue none
    | fire handled => exact (handleTimer_ends handled).unscheduled none
    | @act turn taken =>
      refine taken.outcome.unscheduled (fun pid p act found same => ?_) none
      exact stays ⟨pid, p, congrArg Beat.act act, found, same⟩
  · cases taken with
    | take r =>
      intro taken
      -- what was taken was pending
      obtain ⟨e, due, same⟩ := List.mem_map.mp taken
      have listed : e ∈ r.timers.entries := (List.takeWhile_sublist _).mem due
      have pending : r.timers.contains (backgroundKey token) = true := by
        have own := TimerQueue.contains_of_mem sound.timers listed
        rwa [same] at own
      exact absurd pending (Bool.eq_false_iff.mp none)
    | fire => exact fun later => inFlight (List.mem_cons_of_mem _ later)
    | act => exact inFlight

/-! ## What the loop takes back -/

/-- The identity keeps its capabilities, and its components keep their marks. -/
structure Step.Keeps (token : Token) (t : Step) : Prop where
  capabilities : t.after.registry.ledger.kindsOf token = t.before.registry.ledger.kindsOf token
  marks : ∀ pid kind, t.before.registry.table.Marked pid token kind →
    t.after.registry.table.Marked pid token kind

/-- A revocation leaves everything in place exactly if there is no capability to take. -/
theorem Step.Taken.keeps_iff (taken : t.Taken s) (fires : t.beat = .fire (.backgroundExpired token)) :
    t.Keeps token ↔ t.before.registry.ledger.kindsOf token = [] := by
  cases taken with
  | take => cases fires
  | act => cases fires
  | @fire r r' event rest log handled =>
    cases fires
    have revoked := handleTimer_ends handled
    have nothing : r'.ledger.kindsOf token = [] := revoked.kindsOf_nil (.inl rfl)
    constructor
    · intro keeps
      exact keeps.capabilities.symm.trans nothing
    · intro none
      refine ⟨nothing.trans none.symm, fun pid kind marked => ?_⟩
      have none : r.ledger.kindsOf token = [] := none
      cases revoked
      show (backgrounded token r).table.Marked pid token kind
      unfold backgrounded
      rw [none]
      exact marked

/-- The loop takes a capability of an identity only with a revocation of this identity. -/
theorem Step.Taken.kindsOf_eq (taken : t.Taken s) (loop : ∀ act, t.beat ≠ .act act)
    (other : t.beat ≠ .fire (.backgroundExpired token)) :
    t.after.registry.ledger.kindsOf token = t.before.registry.ledger.kindsOf token := by
  cases taken with
  | take r => rfl
  | act taken => exact absurd rfl (loop _)
  | @fire r r' event rest log handled =>
    show r'.ledger.kindsOf token = r.ledger.kindsOf token
    cases handleTimer_ends handled with
    | save token' serial => rw [ledger_withdrawSave, GrantState.kindsOf_revokeSave]
    | @background token' =>
      have ne : token' ≠ token := by
        rintro rfl
        exact other rfl
      show (GrantState.dropCapabilities token' r.toGrantState).2.ledger.kindsOf token = _
      rw [GrantState.kindsOf_dropCapabilities, if_neg ne]
    | idle => rw [ledger_beginShutdown]

/-- A process of an identity has come back, and none has gone to the background since. Then a
revocation of the identity that goes off was in flight already when the process came back, and it
leaves everything in place exactly if the identity has no capability. If none was in flight then,
the loop takes no capability from the identity. -/
theorem revoked_after_return {now : UInt64} {consents : ConsentStore} {metrics : Option Metrics}
    {earlier later : List Step} {back : Step}
    (drive : Drive s ⟨.start now consents metrics, []⟩ (earlier ++ back :: later) d)
    (returns : back.Returns token) (stays : ∀ t ∈ later, ¬t.Leaves token) :
    (∀ t ∈ later, t.beat = .fire (.backgroundExpired token) →
      .backgroundExpired token ∈ back.after.inFlight ∧
      (t.Keeps token ↔ t.before.registry.ledger.kindsOf token = [])) ∧
    (.backgroundExpired token ∉ back.after.inFlight → ∀ t ∈ later, (∀ act, t.beat ≠ .act act) →
      t.after.registry.ledger.kindsOf token = t.before.registry.ledger.kindsOf token) := by
  have start : (start now consents metrics).toGrantState.Sound := GrantState.sound_start now
  obtain ⟨u, first, second⟩ := drive.split
  obtain ⟨sound, -⟩ := first.keeps (fun d => d.registry.toGrantState.Sound)
    (fun t _ taken => taken.sound) start
  cases second with
  | next taken rest =>
    have settled := taken.settled_of_returns returns sound
    obtain ⟨-, all⟩ := rest.keeps (Settled token back.after.inFlight)
      (fun t ht taken => taken.settled (stays t ht)) settled
    -- an event that is handed over has been in flight
    have was (t : Step) (ht : t ∈ later) (fires : t.beat = .fire (.backgroundExpired token)) :
        .backgroundExpired token ∈ back.after.inFlight := by
      obtain ⟨taken, settled⟩ := all t ht
      refine settled.inFlight ?_
      cases taken with
      | take => cases fires
      | act => cases fires
      | fire => cases fires; exact List.mem_cons_self
    constructor
    · intro t ht fires
      obtain ⟨taken, -⟩ := all t ht
      exact ⟨was t ht fires, taken.keeps_iff fires⟩
    · intro none t ht loop
      obtain ⟨taken, -⟩ := all t ht
      exact taken.kindsOf_eq loop fun fires => none (was t ht fires)

namespace Scene

def pasteButton : Component := button (.paste (some .paste) none) 100 300

/-- An application has a location button clicked and is in the background until its revocation is
due. -/
def away : List Act :=
  [.register app .location locationButton "", .register app .paste pasteButton "",
    click 1000 locationButton 150 130, .background app.pid, .setClock 1010000]

/-- The revocation. -/
def revocation : TimerEvent := .backgroundExpired app.token

/-- The registry when the loop has taken it. -/
def taken : Registry := (takeDue (state away)).2

/-- The application comes back. -/
def back (r : Registry) : Turn := (playAct Environment.answer settings (.foreground app.pid) r environment).1

def pasteClick : Act := .reportClick app 1001 pasteButton "" (.point 1010000 ⟨150, 330⟩ (some [1])) none

/-- Then it has its paste button clicked. -/
def again (r : Registry) : Turn :=
  (playAct Environment.answer settings pasteClick (back r).after environment).1

/-- The loop hands over the only event that is in flight. -/
def handOver (event : TimerEvent) (r : Registry) : Step :=
  ⟨⟨r, [event]⟩, .fire event, ⟨((handleTimer event r).play Environment.answer environment).1.2.2, []⟩⟩

theorem taken_handOver (event : TimerEvent) (r : Registry) : (handOver event r).Taken settings :=
  .fire (Dialogue.ends_play Environment.answer (handleTimer event r) environment)

/-- Then the revocation goes off. -/
def struck (r : Registry) : Step := handOver revocation (again r).after

/-- What happens before the application comes back, and from then on. -/
def before : List Step :=
  (turns away).map (Turn.amid []) ++ [⟨⟨state away, []⟩, .take, ⟨taken, [revocation]⟩⟩]

def afterwards (r : Registry) : List Step := [(again r).amid [revocation], struck r]

theorem drive_back (r : Registry) :
    Drive settings ⟨r, [revocation]⟩ ((back r).amid [revocation] :: afterwards r) (struck r).after := by
  have comes : (back r).Taken settings := taken_playAct Environment.answer settings _ r environment
  have clicks : (again r).Taken settings :=
    taken_playAct Environment.answer settings pasteClick (back r).after environment
  have strikes : (struck r).Taken settings := taken_handOver revocation (again r).after
  exact .next (.act comes _) (.next (.act clicks _) (.next strikes (.done _)))

theorem drive_before : Drive settings ⟨fresh, []⟩ before ⟨taken, [revocation]⟩ := by
  have slept : Drive settings ⟨fresh, []⟩ ((turns away).map (Turn.amid [])) ⟨state away, []⟩ :=
    (run_turns away).drive []
  have due : (takeDue (state away)).1 = [revocation] := by decide +kernel
  have takes : Step.Taken settings ⟨⟨state away, []⟩, .take, ⟨taken, (takeDue (state away)).1⟩⟩ :=
    .take (state away)
  rw [due] at takes
  exact slept.append takes.drive

theorem returns_back : ((back taken).amid [revocation]).Returns app.token := by
  have found : (taken.table.processes.get? app.pid).any (fun p => p.token = app.token) = true := by
    decide +kernel
  obtain ⟨p, found, same⟩ := (Option.any_eq_true _ _).mp found
  exact ⟨app.pid, p, rfl, found, of_decide_eq_true same⟩

theorem stays_afterwards (r : Registry) : ∀ t ∈ afterwards r, ¬t.Leaves app.token := by
  have stays (t : Step) (other : ∀ pid, t.beat ≠ .act (.background pid)) : ¬t.Leaves app.token := by
    rintro ⟨pid, -, leaves, -⟩
    exact other pid leaves
  have clicks : ((again r).amid [revocation]).beat = .act pasteClick := rfl
  refine List.forall_mem_cons.mpr ⟨stays _ fun pid => ?_, List.forall_mem_singleton.mpr (stays _ ?_)⟩
  · rw [clicks, pasteClick]
    exact nofun
  · exact nofun

end Scene

open Scene in
/-- The revocation was in flight when the application came back, and it finds something to take. -/
theorem revoked_after_return_struck :
    Drive settings ⟨fresh, []⟩ (Scene.before ++ (back taken).amid [revocation] :: afterwards taken)
        (struck taken).after ∧
      ((back taken).amid [revocation]).Returns app.token ∧
      (∀ t ∈ afterwards taken, ¬t.Leaves app.token) ∧ struck taken ∈ afterwards taken ∧
      revocation ∈ ((back taken).amid [revocation]).after.inFlight ∧ ¬(struck taken).Keeps app.token := by
  have drive := drive_before.append (drive_back taken)
  have member : struck taken ∈ afterwards taken := List.mem_cons_of_mem _ List.mem_cons_self
  obtain ⟨revoked, -⟩ := revoked_after_return drive returns_back (stays_afterwards taken)
  obtain ⟨inFlight, keeps⟩ := revoked (struck taken) member rfl
  refine ⟨drive, returns_back, stays_afterwards taken, member, inFlight, ?_⟩
  rw [keeps]
  decide +kernel

open Scene in
/-- The only process of the application is in the foreground when the revocation goes off that was
taken before its return, and the capability goes that it has been granted since. -/
theorem overtaken_in_foreground :
    ∃ earlier back later t d, Drive settings ⟨fresh, []⟩ (earlier ++ back :: (later ++ [t])) d ∧
      back.Returns app.token ∧ (∀ t' ∈ later, ¬t'.Leaves app.token) ∧
      back.after.registry.ledger.hasCapability app.token .paste = false ∧
      t.beat = .fire (.backgroundExpired app.token) ∧
      t.before.registry.table.processes.keys = [app.pid] ∧
      (t.before.registry.table.processes.get? app.pid).any (·.isForeground) = true ∧
      t.before.registry.ledger.hasCapability app.token .paste = true ∧ ¬t.Keeps app.token := by
  obtain ⟨stays, -⟩ := List.forall_mem_cons.mp (stays_afterwards taken)
  refine ⟨Scene.before, (back taken).amid [revocation], [(again taken).amid [revocation]],
    struck taken, _, drive_before.append (drive_back taken), returns_back,
    List.forall_mem_singleton.mpr stays, by decide +kernel, rfl, by decide +kernel,
    by decide +kernel, by decide +kernel, fun keeps => ?_⟩
  have held : (struck taken).before.registry.ledger.kindsOf app.token = [.location, .paste] := by
    decide +kernel
  have left : (struck taken).after.registry.ledger.kindsOf app.token = [] := by decide +kernel
  have same := keeps.capabilities
  rw [held, left] at same
  cases same

end ClickGrant.Registry
