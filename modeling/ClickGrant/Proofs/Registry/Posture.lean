import ClickGrant.Proofs.Registry.Occupancy
import ClickGrant.Proofs.Registry.Standalone

/-!
# Posture and idle exit follow the table

Three facts are kept apart: whether any process is registered, whether the input path is protected,
and whether the idle exit is pending. `InLine` says that they agree. What is proved, for runs in
which nobody disturbs anybody and the idle exit is armed once, at the start:
  1. `Outcome.inLine` — every act other than arming the idle exit keeps them in line. While due
     timers go off, an idle exit that is still to be handled counts as pending (`InLineBy`).
  2. `Outcome.switches` — an act has the input path protected, or its protection ended, exactly if
     that turns the flag over.
  3. `inLine_throughout` — so they agree after every act, and the enhancement module is told to
     protect the input path and to stop, in turn.
-/
set_option autoImplicit false

namespace ClickGrant

/-- What the enhancement module was told about the input path. -/
def switchesIn (log : List Exchange) : List Bool := log.filterMap (·.request.switch?)

theorem switchesIn_append (l₁ l₂ : List Exchange) :
    switchesIn (l₁ ++ l₂) = switchesIn l₁ ++ switchesIn l₂ := List.filterMap_append

/-- Each switch turns over what was there before. -/
def Alternates : Bool → List Bool → Prop
  | _, [] => True
  | before, now :: rest => now = (!before) ∧ Alternates now rest

/-- What is there after switches, if anything is switched. -/
def lastSwitch (before : Bool) (switches : List Bool) : Bool := switches.getLastD before

namespace Registry

variable {s : Settings} {r r' : Registry} {act : Act} {log : List Exchange} {reply : Except Refusal Unit}

/-! ## In line -/

/-- Posture and idle exit agree with the table; an idle exit may be among the events still to be
handled. -/
structure InLineBy (events : List TimerEvent) (r : Registry) : Prop where
  posture : r.inputEnabled = !r.table.isEmpty
  cancelled : r.table.isEmpty = false → r.timers.contains idleKey = false
  armed : r.table.isEmpty = true →
    r.shuttingDown = true ∨ r.timers.contains idleKey = true ∨ .idleExpired ∈ events

/-- Posture and idle exit agree with the table. -/
def InLine (r : Registry) : Prop := InLineBy [] r

theorem InLineBy.calm {events : List TimerEvent} (h : InLineBy events r) (calm : Calm r r') :
    InLineBy events r' where
  posture := by rw [calm.posture, calm.table]; exact h.posture
  cancelled := by rw [calm.table, calm.idle]; exact h.cancelled
  armed := by
    intro empty
    rcases calm.down with same | gone
    · rw [same, calm.idle]
      exact h.armed (calm.table ▸ empty)
    · exact .inl gone.1

/-- Bringing posture and idle exit in line does so, unless the table was found empty with neither
the input path protected nor the idle exit armed. -/
theorem inLine_synced (armed : r.inputEnabled = false → r.table.isEmpty = true →
    r.shuttingDown = true ∨ r.timers.contains idleKey = true) : InLine (synced s r) := by
  unfold synced
  cases occupied : r.table.isEmpty with
  | false =>
    refine ⟨?_, fun _ => ?_, fun empty => ?_⟩
    · show true = !r.table.isEmpty
      rw [occupied]
      rfl
    · show (r.timers.remove idleKey).contains idleKey = false
      simp
    · have empty : r.table.isEmpty = true := empty
      rw [occupied] at empty
      cases empty
  | true =>
    cases enabled : r.inputEnabled with
    | true =>
      refine ⟨?_, fun some => ?_, fun _ => .inr (.inl ?_)⟩
      · show false = !r.table.isEmpty
        rw [occupied]
        rfl
      · have some : r.table.isEmpty = false := some
        rw [occupied] at some
        cases some
      · show (r.timers.schedule idleKey _ _).contains idleKey = true
        simp
    | false =>
      refine ⟨?_, fun some => ?_, fun _ => ?_⟩
      · show r.inputEnabled = !r.table.isEmpty
        rw [enabled, occupied]
        rfl
      · have some : r.table.isEmpty = false := some
        rw [occupied] at some
        cases some
      · exact (armed enabled occupied).imp_right .inl

/-- Posture and idle exit follow a table that has changed. -/
theorem InLine.synced {u : Registry} (h : InLine r) (posture : u.inputEnabled = r.inputEnabled)
    (idle : u.timers.contains idleKey = r.timers.contains idleKey)
    (down : u.shuttingDown = r.shuttingDown) : InLine (synced s u) := by
  refine inLine_synced fun unprotected _ => ?_
  -- the path was not protected because nobody was registered
  have empty : r.table.isEmpty = true := by
    rw [← Bool.not_eq_false', ← h.posture, ← posture]
    simpa using unprotected
  rw [down, idle]
  obtain gone | pending | awaited := h.armed empty
  · exact .inl gone
  · exact .inr pending
  · cases awaited

/-! ## What acts keep -/

theorem Fires.inLine {event : TimerEvent} {rest : List TimerEvent} (h : Fires r event log r')
    (inLine : InLineBy (event :: rest) r) : InLineBy rest r' := by
  have after := inLine.calm h.calm
  refine ⟨after.posture, after.cancelled, fun empty => ?_⟩
  obtain down | pending | awaited := after.armed empty
  · exact .inl down
  · exact .inr (.inl pending)
  · rcases List.mem_cons.mp awaited with rfl | awaited
    · -- the idle exit is handled now, and nobody is registered
      have before : r.table.isEmpty = true := h.calm.table ▸ empty
      cases h with
      | idle =>
        unfold beginShutdown
        rw [if_pos before]
        exact .inl rfl
    · exact .inr (.inr awaited)

theorem FiresAll.inLine {events : List TimerEvent} (h : FiresAll r events log r')
    (inLine : InLineBy events r) : InLine r' := by
  induction h with
  | nil r => exact inLine
  | cons first others ih => exact ih (first.inLine inLine)

/-- An idle exit that is due is among the events to be handled. -/
theorem inLineBy_takeDue (sound : r.toGrantState.Sound) (inLine : InLine r) :
    InLineBy (takeDue r).1 (takeDue r).2 where
  posture := inLine.posture
  cancelled := by
    intro some
    rw [← Bool.not_eq_true]
    intro pending
    have before := (TimerQueue.contains_takeDue _ _ _ |>.mp pending).1
    rw [inLine.cancelled some] at before
    cases before
  armed := by
    intro empty
    obtain down | pending | awaited := inLine.armed empty
    · exact .inl down
    · cases after : (r.timers.takeDue r.now).2.contains idleKey with
      | true => exact .inr (.inl after)
      | false => exact .inr (.inr (TimerQueue.mem_takeDue sound.timers pending after))
    · cases awaited

theorem Registers.inLine {caller : Caller} {kind : Kind} {c : Component} {declared : String}
    {result : Except Refusal ComponentId} (h : Registers s caller kind c declared r log result r')
    (inLine : InLine r) : InLine r' := by
  cases h with
  | barred => exact inLine
  | otherKind => exact inLine
  | unadmitted _ _ refused => exact inLine.calm refused.calm
  | clash => exact inLine
  | @stored _ _ _ _ _ u _ _ _ _ stored =>
    have kept : InLine (synced s u) :=
      inLine.synced (by rw [stored]) (by rw [stored]) (by rw [stored])
    exact kept.calm (calm_measure _ _)

theorem Unregisters.inLine {caller : Caller} {id : ComponentId}
    (h : Unregisters s caller id r log reply r') (inLine : InLine r) : InLine r' := by
  cases h with
  | exiting => exact inLine
  | negative => exact inLine
  | unknown => exact inLine
  | taken _ _ _ left =>
    subst left
    exact inLine.synced rfl rfl rfl

theorem Dies.inLine {pid : Pid} (h : Dies s pid r log r') (inLine : InLine r) : InLine r' := by
  cases h with
  | unknown absent =>
    refine inLine.calm ⟨?_, rfl, rfl, .inl rfl⟩
    exact ComponentTable.isEmpty_dropProcess_of_none absent
  | known _ _ left =>
    subst left
    refine inLine.synced rfl ?_ rfl
    show (forfeited _ r.toGrantState).timers.contains idleKey = _
    rw [forfeited, GrantState.idle_dropCapabilities, GrantState.idle_revokeSaves]

/-- Every act keeps posture and idle exit in line, except that arming the idle exit does not ask
whether anybody is registered. -/
theorem Outcome.inLine (h : Outcome s r act log reply r') (sound : r.toGrantState.Sound)
    (inLine : InLine r) (other : act ≠ .armIdleExit) : InLine r' := by
  cases h with
  | register f ends => exact (ends.inLine inLine).calm (calm_measure f _)
  | update ends => exact inLine.calm ends.calm
  | unregister ends => exact ends.inLine inLine
  | reportClick f ends => exact inLine.calm (ends.calm.trans (calm_measure f _))
  | foreground pid => exact inLine.calm (calm_processForeground pid r)
  | background pid => exact inLine.calm (calm_processBackground s pid r)
  | died ends => exact ends.inLine inLine
  | armIdleExit => exact absurd rfl other
  | fire ends => exact inLine.calm ends.calm
  | runDueTimers ends => exact ends.inLine (inLineBy_takeDue sound inLine)
  | setClock now => exact inLine.calm ⟨rfl, rfl, rfl, .inl rfl⟩

/-! ## Switches -/

/-- The flag was turned over once if it has changed, and else left alone. -/
def Switches (log : List Exchange) (before after : Bool) : Prop :=
  switchesIn log = if after = before then [] else [after]

theorem switches_of_none {flag flag' : Bool} (none : switchesIn log = []) (same : flag' = flag) :
    Switches log flag flag' := by
  rw [Switches, none, if_pos same]

theorem Admits.switchesIn_eq {caller : Caller} {c : Component} {declared : String}
    {result : Except Refusal Component} (h : Admits s caller c declared r log result r') :
    switchesIn log = [] := by
  cases h with
  | admitted =>
    unfold inspection
    split <;> rfl
  | _ => rfl

theorem Believes.switchesIn_eq {caller : Caller} {c : Component} {event : ClickEvent}
    {result : Except Refusal Unit} (h : Believes s caller c event r log result r') :
    switchesIn log = [] := by
  cases h with
  | rejected looks => cases looks <;> rfl
  | believed looks => cases looks <;> rfl
  | _ => rfl

theorem switchesIn_gives (token : Token) (ps : List Permission) :
    switchesIn (GrantState.gives token ps) = [] := by
  induction ps with
  | nil => rfl
  | cons p rest ih => exact ih

theorem switchesIn_takes {token : Token} : ∀ {ps : List Permission} {log : List Exchange},
    GrantState.Takes token ps log → switchesIn log = []
  | ps, log, takes => by
    have requests : switchesIn log = (log.map (·.request)).filterMap Request.switch? := by
      rw [List.filterMap_map]
      rfl
    rw [requests, takes, List.filterMap_map]
    exact List.filterMap_eq_nil_iff.mpr fun _ _ => rfl

theorem Clicks.switchesIn_eq {caller : Caller} {id : ComponentId} {c : Component} {declared : String}
    {event : ClickEvent} {handle : Option UInt64}
    (h : Clicks s caller id c declared event handle r log reply r') : switchesIn log = [] := by
  have consents {required : List Kind} {token : Token} {kind : Kind} {store store' : ConsentStore}
      {l : List Exchange} {result : Except Refusal Unit}
      (gate : Consents required token kind handle store l result store') : switchesIn l = [] := by
    cases gate <;> rfl
  cases h with
  | turnedAway => rfl
  | unadmitted _ refused => exact refused.switchesIn_eq
  | unbelieved _ admitted disbelief =>
    rw [switchesIn_append, admitted.switchesIn_eq, disbelief.switchesIn_eq]
    rfl
  | unconsented _ admitted belief gate =>
    rw [switchesIn_append, switchesIn_append, admitted.switchesIn_eq, belief.switchesIn_eq, consents gate]
    rfl
  | denied _ admitted belief gate refused =>
    rw [switchesIn_append, switchesIn_append, switchesIn_append, admitted.switchesIn_eq,
      belief.switchesIn_eq, consents gate]
    cases refused with
    | denied =>
      rw [switchesIn_append, switchesIn_gives]
      rfl
  | granted _ _ admitted belief gate =>
    rw [switchesIn_append, switchesIn_append, switchesIn_append, admitted.switchesIn_eq,
      belief.switchesIn_eq, consents gate, switchesIn_gives]
    rfl

theorem FiresAll.switchesIn_eq {events : List TimerEvent} (h : FiresAll r events log r') :
    switchesIn log = [] := by
  induction h with
  | nil => rfl
  | cons first _ ih =>
    rw [switchesIn_append, ih]
    cases first with
    | background takes => rw [switchesIn_takes takes]; rfl
    | _ => rfl

theorem FiresAll.calm {events : List TimerEvent} (h : FiresAll r events log r') : Calm r r' := by
  induction h with
  | nil r => exact .refl r
  | cons first _ ih => exact first.calm.trans ih

theorem switches_postureCalls (enhanced : s.enhanced = true) (r : Registry) :
    Switches (postureCalls s r) r.inputEnabled (synced s r).inputEnabled := by
  unfold Switches postureCalls synced
  rw [if_pos enhanced]
  cases occupied : r.table.isEmpty <;> cases enabled : r.inputEnabled <;> simp [enabled] <;> rfl

/-- An act has the input path protected, or its protection ended, exactly if that turns the flag
over. -/
theorem Outcome.switches (h : Outcome s r act log reply r') (enhanced : s.enhanced = true) :
    Switches log r.inputEnabled r'.inputEnabled := by
  cases h with
  | register f ends =>
    cases ends with
    | barred => exact switches_of_none rfl rfl
    | otherKind => exact switches_of_none rfl rfl
    | unadmitted _ _ refused => exact switches_of_none refused.switchesIn_eq refused.calm.posture
    | clash _ _ admitted => exact switches_of_none admitted.switchesIn_eq rfl
    | @stored _ _ _ _ _ u _ _ admitted _ stored =>
      have switched := switches_postureCalls enhanced u
      rw [show u.inputEnabled = r.inputEnabled by rw [stored]] at switched
      unfold Switches at switched ⊢
      rw [switchesIn_append, admitted.switchesIn_eq]
      exact switched
  | update ends =>
    refine switches_of_none ?_ ends.calm.posture
    cases ends with
    | turnedAway => rfl
    | unadmitted _ refused => exact refused.switchesIn_eq
    | replaced _ admitted => exact admitted.switchesIn_eq
  | unregister ends =>
    cases ends with
    | exiting => exact switches_of_none rfl rfl
    | negative => exact switches_of_none rfl rfl
    | unknown => exact switches_of_none rfl rfl
    | taken _ _ _ left =>
      subst left
      exact switches_postureCalls enhanced _
  | reportClick f ends => exact switches_of_none ends.switchesIn_eq ends.calm.posture
  | foreground pid => exact switches_of_none rfl (calm_processForeground pid r).posture
  | background pid => exact switches_of_none rfl (calm_processBackground s pid r).posture
  | died ends =>
    have notice (pid : Pid) : switchesIn (deathNotice s pid) = [] := by
      unfold deathNotice
      split <;> rfl
    cases ends with
    | unknown => exact switches_of_none (notice _) rfl
    | @known p l n u _ takes left =>
      have switched := switches_postureCalls enhanced (showActive n u)
      rw [show (showActive n u).inputEnabled = r.inputEnabled by rw [left]; rfl] at switched
      unfold Switches at switched ⊢
      rw [switchesIn_append, switchesIn_append, notice, switchesIn_takes takes]
      exact switched
  | armIdleExit => exact switches_of_none rfl rfl
  | fire ends =>
    have all : FiresAll r [_] (log ++ []) r' := .cons ends (.nil r')
    rw [List.append_nil] at all
    exact switches_of_none all.switchesIn_eq ends.calm.posture
  | runDueTimers ends => exact switches_of_none ends.switchesIn_eq ends.calm.posture
  | setClock now => exact switches_of_none rfl rfl

/-- Switches that turn the flag over, one after the other, alternate, and the last one leaves the
flag as it is. -/
theorem Switches.alternates {before now after : Bool} (h : Switches log before now) {rest : List Bool}
    (others : Alternates now rest ∧ lastSwitch now rest = after) :
    Alternates before (switchesIn log ++ rest) ∧ lastSwitch before (switchesIn log ++ rest) = after := by
  rw [h]
  split
  next same => rw [← same]; exact others
  next changed =>
    refine ⟨⟨?_, others.1⟩, ?_⟩
    · cases before <;> cases now <;> first | rfl | exact absurd rfl changed
    · rw [← others.2]
      cases rest <;> rfl

/-! ## Runs -/

/-- The exchanges of a run. -/
def exchangesOf (turns : List Turn) : List Exchange := turns.flatMap (·.log)

theorem Run.inLine {turns : List Turn} (run : Run s r turns r') (sound : r.toGrantState.Sound)
    (inLine : InLine r) (never : ∀ t ∈ turns, t.act ≠ .armIdleExit) :
    InLine r' ∧ (s.enhanced = true → Alternates r.inputEnabled (switchesIn (exchangesOf turns)) ∧
      lastSwitch r.inputEnabled (switchesIn (exchangesOf turns)) = r'.inputEnabled) := by
  induction run with
  | done r => exact ⟨inLine, fun _ => ⟨trivial, rfl⟩⟩
  | @next t turns r' taken rest ih =>
    obtain ⟨other, never⟩ := List.forall_mem_cons.mp never
    obtain ⟨last, switched⟩ := ih (taken.outcome.sound sound) (taken.outcome.inLine sound inLine other) never
    refine ⟨last, fun enhanced => ?_⟩
    rw [exchangesOf, List.flatMap_cons, switchesIn_append]
    exact (taken.outcome.switches enhanced).alternates (switched enhanced)

/-- A fresh service whose idle exit is armed once, at the start, keeps posture and idle exit in line
with the table: after every act, the input path is protected exactly if anybody is registered; while
somebody is, no idle exit is pending; and while nobody is, one is pending or the service is about to
end. The enhancement module is told in turn to protect the input path and to stop, and what it was
told last is what the flag says. -/
theorem inLine_throughout {now : UInt64} {consents : ConsentStore} {metrics : Option Metrics}
    {first : Turn} {turns : List Turn} (run : Run s (.start now consents metrics) (first :: turns) r)
    (arms : first.act = .armIdleExit) (once : ∀ t ∈ turns, t.act ≠ .armIdleExit) :
    r.inputEnabled = !r.table.isEmpty ∧
    (r.table.isEmpty = false → r.timers.contains idleKey = false) ∧
    (r.table.isEmpty = true → r.shuttingDown = true ∨ r.timers.contains idleKey = true) ∧
    (s.enhanced = true → Alternates false (switchesIn (exchangesOf (first :: turns))) ∧
      lastSwitch false (switchesIn (exchangesOf (first :: turns))) = r.inputEnabled) := by
  generalize before : Registry.start now consents metrics = fresh at run
  cases run with
  | next taken rest =>
    have armed := taken.outcome
    rw [arms] at armed
    have sound : first.before.toGrantState.Sound := before ▸ GrantState.sound_start now
    -- nobody is registered yet, and the idle exit is pending from the first act on
    obtain ⟨log, after⟩ : first.log = [] ∧ first.after = armIdleExit s first.before := by
      generalize first.log = log, first.reply = reply, first.after = after at armed
      cases armed with
      | armIdleExit => exact ⟨rfl, rfl⟩
    have inLine : InLine first.after := by
      rw [after, ← before]
      refine ⟨rfl, fun some => (nomatch some), fun _ => .inr (.inl ?_)⟩
      show (TimerQueue.empty.schedule idleKey _ _).contains idleKey = true
      simp
    have flag : first.after.inputEnabled = false := by
      rw [after, ← before]
      rfl
    obtain ⟨last, switched⟩ := rest.inLine (taken.outcome.sound sound) inLine once
    refine ⟨last.posture, last.cancelled, fun empty => ?_, fun enhanced => ?_⟩
    · obtain down | pending | awaited := last.armed empty
      · exact .inl down
      · exact .inr pending
      · cases awaited
    · rw [exchangesOf, List.flatMap_cons, log, List.nil_append, ← flag]
      exact switched enhanced

namespace Scene

/-- The scene with an enhancement module. -/
def watched : Settings := Settings.ofConfig config none true

/-- The enhancement module accepts every component. -/
def watch (e : Environment) : (q : Request) → q.Answer × Environment
  | .inspect .. => (.ok (), e)
  | q => e.answer q

/-- The application registers a button, takes it back, and registers another one. -/
def comingBack : List Act :=
  [.register app .save saveButton "", .unregister app 1000, .register app .save lowerButton ""]

/-- The turns of a service that is watched and arms the idle exit when it starts. -/
def watchedTurns (acts : List Act) : List Turn :=
  playActs watch watched (.armIdleExit :: acts) fresh environment

theorem watchedTurns_eq (acts : List Act) : ∃ first turns, watchedTurns acts = first :: turns ∧
    first.act = .armIdleExit ∧ turns.map (·.act) = acts := ⟨_, _, rfl, rfl, map_act_playActs ..⟩

end Scene

open Scene in
theorem inLine_comingBack :
    Run watched fresh (watchedTurns comingBack) (lastState fresh (watchedTurns comingBack)) ∧
    (lastState fresh (watchedTurns comingBack)).inputEnabled = true ∧
    (lastState fresh (watchedTurns comingBack)).timers.contains idleKey = false ∧
    switchesIn (exchangesOf (watchedTurns comingBack)) = [true, false, true] ∧
    Alternates false [true, false, true] := by
  have run : Run watched fresh (watchedTurns comingBack) (lastState fresh (watchedTurns comingBack)) :=
    run_playActs watch watched (.armIdleExit :: comingBack) fresh environment
  have occupied : (lastState fresh (watchedTurns comingBack)).table.isEmpty = false := by
    decide +kernel
  have switches : switchesIn (exchangesOf (watchedTurns comingBack)) = [true, false, true] := by
    decide +kernel
  obtain ⟨first, turns, eq, arms, acts⟩ := watchedTurns_eq comingBack
  have others : ∀ t ∈ turns, t.act ≠ .armIdleExit := by
    intro t ht
    have act : t.act ∈ comingBack := acts ▸ List.mem_map_of_mem ht
    simp only [comingBack, List.mem_cons, List.not_mem_nil, or_false] at act
    rcases act with h | h | h <;> rw [h] <;> simp
  rw [eq] at run occupied switches ⊢
  obtain ⟨posture, cancelled, -, alternating⟩ := inLine_throughout run arms others
  refine ⟨run, ?_, cancelled occupied, switches, ?_⟩
  · rw [posture, occupied]
    rfl
  · exact switches ▸ (alternating rfl).1

end Registry

end ClickGrant
