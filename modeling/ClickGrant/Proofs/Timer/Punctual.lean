import ClickGrant.Proofs.Timer.Journal
import ClickGrant.Timer.Loop

/-!
# The timer loop is punctual

A loop on an empty queue, in which the clock and real time advance together: timers are scheduled
and cancelled at any time, the flag is set to either value, and time passes in steps of any length,
though none of it during a pass. What anybody does to the queue while an event is handed over is
taken to be done by its target, of which nothing is known. `Noted` is a loop with the journal of its
queue, which is written as the loop goes along and does not influence it (`Noted.loop_run`). What is
proved of every run of fewer than 2^64 schedulings that ends before the last representable time:
  1. `resting_run` — the journal reports what happens to the queue, and the loop is not going to
     sleep past any deadline.
  2. `rests_of_settle` — passes go on until the loop has ended or is asleep, unless its target
     schedules another timer in each of them.
  3. `TimerLoop.fires_on_time` — so the loop is `OnTime`: its journal is `Journal.Punctual`, nothing
     is due while it is asleep, and it ends without firing anything more if it is told to.

The length of a sleep is that to the first deadline of the moment in which it begins. What carries
the proof is that nothing can bring a deadline closer without waking the loop: `Resting.watched`
claims nothing of a loop that has been roused.
-/
set_option autoImplicit false

namespace ClickGrant

variable {ρ : Type}

/-! ## Acts on a loop -/

/-- What happens to a loop. Where it wakes up, `fuel` bounds its passes. -/
inductive LoopAct where
  /-- A timer is scheduled or cancelled, and the loop does not run yet. -/
  | command (c : TimerCommand)
  /-- A timer is scheduled, and the loop runs. -/
  | schedule (key : TimerKey) (deadline : UInt64) (event : TimerEvent) (fuel : Nat)
  /-- The clock and real time advance. -/
  | advance (ms : Nat) (fuel : Nat)
  | signal (stop : Bool) (fuel : Nat)
  /-- While the loop is asleep, the last one who could set the flag goes away. -/
  | abandon
  /-- A loop that is awake runs. -/
  | proceed (fuel : Nat)

/-- How much time passes. -/
def LoopAct.elapsed : LoopAct → Nat
  | .advance ms _ => ms
  | _ => 0

/-- How much time passes in all. -/
def LoopAct.duration : List LoopAct → Nat
  | [] => 0
  | act :: acts => act.elapsed + duration acts

namespace TimerLoop

/-- The loop sleeps and nothing has woken it. -/
def asleep (l : TimerLoop ρ) : Bool := !l.ended && !l.roused && l.slept < l.sleep

theorem asleep_iff {l : TimerLoop ρ} :
    l.asleep = true ↔ (l.ended = false ∧ l.roused = false) ∧ l.slept < l.sleep := by
  simp [asleep]

def perform (t : TimerTarget ρ) (l : TimerLoop ρ) : LoopAct → TimerLoop ρ
  | .command c => l.command c
  | .schedule key deadline event fuel => l.schedule t fuel key deadline event
  | .advance ms fuel => (l.setClock (l.now + .ofNat ms)).elapse t fuel ms
  | .signal stop fuel => l.signal t fuel stop
  | .abandon => if l.asleep then l.abandon else l
  | .proceed fuel => if l.ended || l.asleep then l else l.settle t fuel

end TimerLoop

/-! ## A loop with its journal -/

/-- What a command is in the journal of a queue. -/
def TimerQueue.noteOf (q : TimerQueue) : TimerCommand → TimerNote
  | .schedule key deadline event => .scheduled (q.scheduled key deadline event)
  | .cancel key => .cancelled key (q.cancel key).1

/-- A loop and the journal of its queue, the latest first. -/
structure Noted (ρ : Type) where
  journal : List TimerNote
  loop : TimerLoop ρ

namespace Noted

/-- A command is given, which leads to the loop `loop`. -/
def note (n : Noted ρ) (c : TimerCommand) (loop : TimerLoop ρ) : Noted ρ where
  journal := n.loop.queue.noteOf c :: n.journal
  loop

def command (n : Noted ρ) (c : TimerCommand) : Noted ρ := n.note c (n.loop.command c)

/-- What is due is taken out of the queue. -/
def take (n : Noted ρ) : Noted ρ where
  journal := .taken n.loop.now :: n.journal
  loop := { n.loop with queue := (n.loop.queue.takeDue n.loop.now).2, roused := false }

def fire (t : TimerTarget ρ) (n : Noted ρ) (e : TimerEntry) : Noted ρ :=
  let (target, commands) := t.fire n.loop.target e.event
  commands.foldl command { journal := .fired e n.loop.now :: n.journal, loop := { n.loop with target } }

/-- The loop goes to sleep. -/
def doze (n : Noted ρ) : Noted ρ :=
  { n with loop := { n.loop with sleep := n.loop.queue.sleepLength n.loop.now, slept := 0 } }

def pass (t : TimerTarget ρ) (n : Noted ρ) : Noted ρ :=
  if n.loop.stop then { n with loop := { n.loop with ended := true } }
  else ((n.loop.queue.entries.takeWhile (TimerQueue.isDue n.loop.now)).foldl (fire t) n.take).doze

def settle (t : TimerTarget ρ) : Nat → Noted ρ → Noted ρ
  | 0, n => n.pass t
  | fuel + 1, n =>
    let n := n.pass t
    if n.loop.ended || !n.loop.roused then n else settle t fuel n

/-- Passes, unless the loop sleeps on. -/
def wake (t : TimerTarget ρ) (fuel : Nat) (sleeps : Bool) (n : Noted ρ) : Noted ρ :=
  if sleeps then n else n.settle t fuel

/-- Time passes. -/
def wait (n : Noted ρ) (ms : Nat) : Noted ρ :=
  { n with loop := { n.loop with now := n.loop.now + .ofNat ms, slept := n.loop.slept + ms } }

def perform (t : TimerTarget ρ) (n : Noted ρ) : LoopAct → Noted ρ
  | .command c => n.command c
  | .schedule key deadline event fuel =>
    wake t fuel n.loop.ended <| n.note (.schedule key deadline event)
      { n.loop with queue := n.loop.queue.schedule key deadline event }
  | .advance ms fuel => wake t fuel (n.loop.ended || n.loop.slept + ms < n.loop.sleep) (n.wait ms)
  | .signal stop fuel => wake t fuel n.loop.ended { n with loop := { n.loop with stop } }
  | .abandon => if n.loop.asleep then { n with loop := n.loop.abandon } else n
  | .proceed fuel => wake t fuel (n.loop.ended || n.loop.asleep) n

/-- A loop on an empty queue that has not made its first pass. -/
def start (now : UInt64) (target : ρ) (stop : Bool) : Noted ρ where
  journal := []
  loop := .start .empty now target stop

def run (t : TimerTarget ρ) (n : Noted ρ) (acts : List LoopAct) : Noted ρ := acts.foldl (perform t) n

/-! ### The journal does not influence the loop -/

theorem loop_foldl_command : ∀ (cs : List TimerCommand) (n : Noted ρ),
    (cs.foldl command n).loop = cs.foldl TimerLoop.command n.loop
  | [], _ => rfl
  | c :: cs, n => loop_foldl_command cs (n.command c)

theorem loop_fire (t : TimerTarget ρ) (n : Noted ρ) (e : TimerEntry) :
    (n.fire t e).loop = n.loop.fire t e.event := loop_foldl_command _ _

theorem loop_foldl_fire (t : TimerTarget ρ) : ∀ (es : List TimerEntry) (n : Noted ρ),
    (es.foldl (fire t) n).loop = (es.map (·.event)).foldl (TimerLoop.fire t) n.loop
  | [], _ => rfl
  | e :: es, n => by
    rw [List.foldl_cons, loop_foldl_fire t es, loop_fire, List.map_cons, List.foldl_cons]

theorem loop_pass (t : TimerTarget ρ) (n : Noted ρ) : (n.pass t).loop = n.loop.pass t := by
  unfold pass TimerLoop.pass
  split
  · rfl
  · unfold doze
    dsimp only
    rw [loop_foldl_fire]
    rfl

theorem loop_settle (t : TimerTarget ρ) : ∀ (fuel : Nat) (n : Noted ρ),
    (n.settle t fuel).loop = n.loop.settle t fuel
  | 0, n => loop_pass t n
  | fuel + 1, n => by
    unfold settle TimerLoop.settle
    simp only [loop_pass]
    split
    · exact loop_pass t n
    · rw [loop_settle t fuel, loop_pass]

theorem loop_wake (t : TimerTarget ρ) (fuel : Nat) (sleeps : Bool) (n : Noted ρ) :
    (wake t fuel sleeps n).loop = if sleeps then n.loop else n.loop.settle t fuel := by
  unfold wake
  split
  · rfl
  · exact loop_settle t fuel n

theorem loop_perform (t : TimerTarget ρ) (n : Noted ρ) (act : LoopAct) :
    (n.perform t act).loop = n.loop.perform t act := by
  cases act with
  | command => rfl
  | schedule => exact loop_wake ..
  | advance => exact loop_wake ..
  | signal => exact loop_wake ..
  | abandon => exact apply_ite Noted.loop ..
  | proceed => exact loop_wake ..

theorem loop_run (t : TimerTarget ρ) : ∀ (acts : List LoopAct) (n : Noted ρ),
    (n.run t acts).loop = acts.foldl (TimerLoop.perform t) n.loop
  | [], _ => rfl
  | act :: acts, n => by
    show ((n.perform t act).run t acts).loop = _
    rw [loop_run t acts, loop_perform, List.foldl_cons]

/-! ### The clock stands still during a pass -/

theorem now_foldl_command : ∀ (cs : List TimerCommand) (n : Noted ρ),
    (cs.foldl command n).loop.now = n.loop.now
  | [], _ => rfl
  | .schedule .. :: cs, n => now_foldl_command cs (n.command _)
  | .cancel _ :: cs, n => now_foldl_command cs (n.command _)

theorem now_foldl_fire (t : TimerTarget ρ) : ∀ (es : List TimerEntry) (n : Noted ρ),
    (es.foldl (fire t) n).loop.now = n.loop.now
  | [], _ => rfl
  | e :: es, n => (now_foldl_fire t es (n.fire t e)).trans (now_foldl_command _ _)

theorem now_pass (t : TimerTarget ρ) (n : Noted ρ) : (n.pass t).loop.now = n.loop.now := by
  unfold pass
  split
  · rfl
  · exact now_foldl_fire t _ n.take

theorem now_settle (t : TimerTarget ρ) : ∀ (fuel : Nat) (n : Noted ρ),
    (n.settle t fuel).loop.now = n.loop.now
  | 0, n => now_pass t n
  | fuel + 1, n => by
    unfold settle
    dsimp only
    split
    · exact now_pass t n
    · rw [now_settle t fuel, now_pass]

theorem now_wake (t : TimerTarget ρ) (fuel : Nat) (sleeps : Bool) (n : Noted ρ) :
    (wake t fuel sleeps n).loop.now = n.loop.now := by
  unfold wake
  split
  · rfl
  · exact now_settle t fuel n

theorem now_perform (t : TimerTarget ρ) (n : Noted ρ) (act : LoopAct) :
    (n.perform t act).loop.now = n.loop.now + .ofNat act.elapsed := by
  have still : n.loop.now = n.loop.now + .ofNat 0 := (UInt64.add_zero _).symm
  cases act with
  | command c => cases c <;> exact still
  | schedule => exact (now_wake ..).trans still
  | advance => exact now_wake ..
  | signal => exact (now_wake ..).trans still
  | abandon =>
    unfold perform
    dsimp only
    split <;> exact still
  | proceed => exact (now_wake ..).trans still

end Noted

/-! ## What is kept -/

open Journal (Few Reports)

theorem room_of_early {time : Nat} (early : time < lastTime.toNat) : time < UInt64.size :=
  Nat.lt_trans early lastTime.toNat_lt

theorem TimerQueue.sleepLength_le {q : TimerQueue} {now : UInt64} (sorted : TimerQueue.Sorted q.entries)
    (ahead : ∀ e ∈ q.entries, now < e.slot.deadline) :
    ∀ e ∈ q.entries, now.toNat + q.sleepLength now ≤ e.slot.deadline.toNat := by
  intro e he
  unfold sleepLength nextDeadline
  cases entries : q.entries with
  | nil => rw [entries] at he; cases he
  | cons first rest =>
    rw [entries] at he sorted ahead
    have first_le : first.slot.deadline.toNat ≤ e.slot.deadline.toNat := by
      rcases List.mem_cons.mp he with rfl | he
      · exact Nat.le_refl _
      · rcases Slot.precedes_iff.mp ((List.pairwise_cons.mp sorted).1 e he) with before | ⟨same, -⟩
        · exact Nat.le_of_lt (UInt64.lt_iff_toNat_lt.mp before)
        · exact Nat.le_of_eq (congrArg UInt64.toNat same)
    have later := UInt64.lt_iff_toNat_lt.mp (ahead first List.mem_cons_self)
    show now.toNat + min longestSleep (saturatingSub first.slot.deadline now).toNat ≤ _
    rw [toNat_saturatingSub]
    omega

theorem TimerQueue.sleepLength_pos {q : TimerQueue} {now : UInt64}
    (ahead : ∀ e ∈ q.entries, now < e.slot.deadline) : 0 < q.sleepLength now := by
  unfold sleepLength nextDeadline
  cases entries : q.entries with
  | nil => exact Nat.zero_lt_succ _
  | cons first rest =>
    rw [entries] at ahead
    have later := UInt64.lt_iff_toNat_lt.mp (ahead first List.mem_cons_self)
    show 0 < min longestSleep (saturatingSub first.slot.deadline now).toNat
    rw [toNat_saturatingSub, longestSleep]
    omega

/-- In a pass, with `due` still to be fired: unless the target has scheduled another timer,
everything that is pending has a later deadline. -/
structure Firing (n : Noted ρ) (due : List TimerEntry) : Prop where
  reports : Reports n.journal n.loop.queue due n.loop.now
  ahead : n.loop.roused = false → ∀ e ∈ n.loop.queue.entries, n.loop.now < e.slot.deadline

/-- A loop that nothing has woken is not going to sleep past a deadline. -/
def Watched (l : TimerLoop ρ) : Prop :=
  l.ended = false → l.roused = false →
    ∀ e ∈ l.queue.entries, l.now.toNat + l.sleep ≤ e.slot.deadline.toNat + l.slept

/-- The journal is that of the loop's queue, and nothing is left to be fired. -/
def Reported (n : Noted ρ) : Prop := ∃ now, Reports n.journal n.loop.queue [] now

/-- What holds between passes. -/
structure Resting (n : Noted ρ) : Prop where
  reports : Reported n
  watched : Watched n.loop

/-! Everything is kept as long as the count of schedulings does not wrap around, which is known only
of the journal at the end. So it is `Few n.journal → Firing n due` that is carried along. -/

section Kept

variable {n : Noted ρ} {t : TimerTarget ρ} {due : List TimerEntry} {e : TimerEntry}

theorem few_of_note {c : TimerCommand} {loop : TimerLoop ρ} (few : Few (n.note c loop).journal) :
    Few n.journal := by
  cases c with
  | schedule => exact Nat.lt_of_succ_lt few
  | cancel => exact few

theorem firing_command (firing : Few n.journal → Firing n due) (c : TimerCommand)
    (few : Few (n.command c).journal) : Firing (n.command c) due := by
  have before := firing (few_of_note few)
  cases c with
  | schedule key deadline event => exact ⟨before.reports.schedule key deadline event few, nofun⟩
  | cancel key =>
    refine ⟨before.reports.cancel key, fun quiet e he => before.ahead quiet e ?_⟩
    exact (TimerQueue.entries_remove n.loop.queue key).mem he

theorem firing_foldl_command : ∀ (cs : List TimerCommand) (n : Noted ρ), (Few n.journal → Firing n due) →
    Few (cs.foldl Noted.command n).journal → Firing (cs.foldl Noted.command n) due
  | [], _, firing => firing
  | c :: cs, n, firing => firing_foldl_command cs (n.command c) (firing_command firing c)

theorem firing_fire (firing : Few n.journal → Firing n (e :: due)) :
    Few (n.fire t e).journal → Firing (n.fire t e) due :=
  firing_foldl_command _ _ fun few => ⟨(firing few).reports.fire, (firing few).ahead⟩

theorem firing_foldl_fire : ∀ (due : List TimerEntry) (n : Noted ρ), (Few n.journal → Firing n due) →
    Few (due.foldl (Noted.fire t) n).journal → Firing (due.foldl (Noted.fire t) n) []
  | [], _, firing => firing
  | e :: due, n, firing => firing_foldl_fire due (n.fire t e) (firing_fire firing)

theorem firing_take (early : n.loop.now < lastTime) {now : UInt64}
    (reports : Reports n.journal n.loop.queue [] now) :
    Firing n.take (n.loop.queue.entries.takeWhile (TimerQueue.isDue n.loop.now)) := by
  refine ⟨reports.take early, fun _ e he => ?_⟩
  have he : e ∈ n.loop.queue.entries.dropWhile (TimerQueue.isDue n.loop.now) := he
  rw [reports.paired.sorted.dropWhile_isDue, List.mem_filter, Bool.not_eq_true', ← Bool.not_eq_true,
    TimerQueue.isDue_iff early] at he
  exact UInt64.not_le.mp he.2

theorem pass_of_stop (stop : n.loop.stop = true) :
    n.pass t = { n with loop := { n.loop with ended := true } } := if_pos stop

theorem firing_pass (early : n.loop.now < lastTime) (runs : n.loop.stop = false)
    (reported : Few n.journal → Reported n) (few : Few (n.pass t).journal) :
    ∃ m, Firing m [] ∧ n.pass t = m.doze := by
  unfold Noted.pass at few ⊢
  rw [runs] at few ⊢
  have taken (few : Few n.journal) := firing_take early (reported few).choose_spec
  exact ⟨_, firing_foldl_fire _ n.take taken few, rfl⟩

/-- After a pass the loop sleeps until the first deadline at most. -/
theorem resting_pass (early : n.loop.now < lastTime)
    (reported : Few n.journal → Reported n) (few : Few (n.pass t).journal) :
    Resting (n.pass t) := by
  cases stop : n.loop.stop with
  | true =>
    rw [pass_of_stop stop] at few ⊢
    exact ⟨reported few, nofun⟩
  | false =>
    obtain ⟨m, fired, same⟩ := firing_pass early stop reported few
    rw [same]
    refine ⟨⟨_, fired.reports⟩, fun _ quiet => ?_⟩
    exact TimerQueue.sleepLength_le fired.reports.paired.sorted (fired.ahead quiet)

/-- A pass ends the loop or sends it to sleep, unless the target has scheduled another timer. -/
theorem rests_of_pass (early : n.loop.now < lastTime)
    (reported : Few n.journal → Reported n) (few : Few (n.pass t).journal)
    (quiet : (n.pass t).loop.roused = false) : (n.pass t).loop.ended = true ∨ (n.pass t).loop.asleep = true := by
  cases stop : n.loop.stop with
  | true =>
    rw [pass_of_stop stop]
    exact .inl rfl
  | false =>
    obtain ⟨m, fired, same⟩ := firing_pass early stop reported few
    rw [same] at quiet ⊢
    have sleeps := TimerQueue.sleepLength_pos (fired.ahead quiet)
    cases ended : m.loop.ended with
    | true => exact .inl ended
    | false => exact .inr (TimerLoop.asleep_iff.mpr ⟨⟨ended, quiet⟩, sleeps⟩)

theorem resting_settle : ∀ (fuel : Nat) (n : Noted ρ), n.loop.now < lastTime →
    (Few n.journal → Reported n) →
      Few (n.settle t fuel).journal → Resting (n.settle t fuel)
  | 0, _, early, reported => resting_pass early reported
  | fuel + 1, n, early, reported => by
    unfold Noted.settle
    dsimp only
    split
    · exact resting_pass early reported
    · refine resting_settle fuel (n.pass t) ?_ fun few => (resting_pass early reported few).reports
      rwa [Noted.now_pass]

theorem resting_wake {fuel : Nat} {sleeps : Bool} (early : n.loop.now < lastTime)
    (reported : Few n.journal → Reported n)
    (watched : sleeps = true → Few n.journal → Watched n.loop) :
    Few (Noted.wake t fuel sleeps n).journal → Resting (Noted.wake t fuel sleeps n) := by
  unfold Noted.wake
  split
  next sleeps => exact fun few => ⟨reported few, watched sleeps few⟩
  next => exact resting_settle fuel n early reported

theorem resting_command (resting : Few n.journal → Resting n) (c : TimerCommand)
    (few : Few (n.command c).journal) : Resting (n.command c) := by
  obtain ⟨⟨now, reports⟩, watched⟩ := resting (few_of_note few)
  cases c with
  | schedule key deadline event => exact ⟨⟨now, reports.schedule key deadline event few⟩, fun _ => nofun⟩
  | cancel key =>
    refine ⟨⟨now, reports.cancel key⟩, fun runs quiet e he => watched runs quiet e ?_⟩
    exact (TimerQueue.entries_remove n.loop.queue key).mem he

/-- While time passes, a sleep gets shorter by as much as the deadlines come nearer. -/
theorem watched_wait (watched : Watched n.loop) {ms : Nat} (early : n.loop.now.toNat + ms < lastTime.toNat) :
    Watched (n.wait ms).loop := by
  intro runs quiet e he
  have before := watched runs quiet e he
  have now : (n.loop.now + .ofNat ms).toNat = n.loop.now.toNat + ms := toNat_add_ofNat (room_of_early early)
  show (n.loop.now + .ofNat ms).toNat + n.loop.sleep ≤ e.slot.deadline.toNat + (n.loop.slept + ms)
  omega

theorem resting_perform (resting : Few n.journal → Resting n) (act : LoopAct)
    (early : n.loop.now.toNat + act.elapsed < lastTime.toNat) :
    Few (n.perform t act).journal → Resting (n.perform t act) := by
  have before : n.loop.now < lastTime := UInt64.lt_iff_toNat_lt.mpr (by omega)
  cases act with
  | command c => exact resting_command resting c
  | schedule key deadline event fuel =>
    refine resting_wake before (fun few => ?_) fun ended few runs => ?_
    · obtain ⟨now, reports⟩ := (resting (few_of_note few)).reports
      exact ⟨now, reports.schedule key deadline event few⟩
    · exact absurd (ended.symm.trans runs) nofun
  | advance ms fuel =>
    have after : (n.loop.now + .ofNat ms).toNat = n.loop.now.toNat + ms := toNat_add_ofNat (room_of_early early)
    refine resting_wake ?_ (fun few => (resting few).reports)
      fun _ few => watched_wait (resting few).watched early
    show n.loop.now + .ofNat ms < lastTime
    rw [UInt64.lt_iff_toNat_lt, after]
    exact early
  | signal stop fuel =>
    exact resting_wake before (fun few => (resting few).reports) fun _ few => (resting few).watched
  | abandon =>
    unfold Noted.perform
    dsimp only
    split
    · exact fun few => ⟨(resting few).reports, nofun⟩
    · exact resting
  | proceed fuel =>
    exact resting_wake before (fun few => (resting few).reports) fun _ few => (resting few).watched

/-- However many passes follow each other: after the last one the loop has ended or is asleep, or its
target has kept it awake. -/
theorem rests_of_settle : ∀ (fuel : Nat) (n : Noted ρ), n.loop.now < lastTime →
    (Few n.journal → Reported n) → Few (n.settle t fuel).journal →
      (n.settle t fuel).loop.roused = false →
        (n.settle t fuel).loop.ended = true ∨ (n.settle t fuel).loop.asleep = true
  | 0, _, early, reported => rests_of_pass early reported
  | fuel + 1, n, early, reported => by
    unfold Noted.settle
    dsimp only
    split
    · exact rests_of_pass early reported
    · refine rests_of_settle fuel (n.pass t) ?_ fun few => (resting_pass early reported few).reports
      rwa [Noted.now_pass]

theorem toNat_now_perform (act : LoopAct) (early : n.loop.now.toNat + act.elapsed < lastTime.toNat) :
    (n.perform t act).loop.now.toNat = n.loop.now.toNat + act.elapsed := by
  rw [Noted.now_perform, toNat_add_ofNat (room_of_early early)]

/-- The clock shows how much time has passed. -/
theorem toNat_now_run : ∀ (acts : List LoopAct) (n : Noted ρ),
    n.loop.now.toNat + LoopAct.duration acts < lastTime.toNat →
      (n.run t acts).loop.now.toNat = n.loop.now.toNat + LoopAct.duration acts
  | [], _, _ => rfl
  | act :: acts, n, early => by
    rw [LoopAct.duration] at early
    have first := toNat_now_perform (t := t) (n := n) act (by omega)
    have rest := toNat_now_run acts (n.perform t act) (by omega)
    rw [LoopAct.duration, ← Nat.add_assoc, ← first]
    exact rest

theorem resting_start (now : UInt64) (target : ρ) (stop : Bool) : Resting (.start now target stop) where
  reports := ⟨0, .start⟩
  watched := fun _ _ => nofun

theorem resting_run : ∀ (acts : List LoopAct) (n : Noted ρ), (Few n.journal → Resting n) →
    n.loop.now.toNat + LoopAct.duration acts < lastTime.toNat →
      Few (n.run t acts).journal → Resting (n.run t acts)
  | [], _, resting, _ => resting
  | act :: acts, n, resting, early => by
    rw [LoopAct.duration] at early
    have first : n.loop.now.toNat + act.elapsed < lastTime.toNat := by omega
    refine resting_run acts (n.perform t act) (resting_perform resting act first) ?_
    rw [toNat_now_perform act first]
    omega

end Kept

/-! ## How it ends -/

namespace Noted

variable {t : TimerTarget ρ} {n : Noted ρ} {act : LoopAct} {fuel : Nat} {sleeps : Bool}

theorem settle_of_stop (stop : n.loop.stop = true) :
    n.settle t fuel = { n with loop := { n.loop with ended := true } } := by
  cases fuel with
  | zero => exact pass_of_stop stop
  | succ fuel =>
    unfold settle
    rw [pass_of_stop stop]
    rfl

/-- A loop that has ended does not run again. -/
theorem ended_perform (ended : n.loop.ended = true) (act : LoopAct) :
    (n.perform t act).loop.ended = true ∧ Journal.fired (n.perform t act).journal = Journal.fired n.journal := by
  have sleeps (b : Bool) : (n.loop.ended || b) = true := Bool.or_eq_true_iff.mpr (.inl ended)
  cases act with
  | command c => cases c <;> exact ⟨ended, rfl⟩
  | schedule key deadline event fuel =>
    have same : n.perform t (.schedule key deadline event fuel) = n.note (.schedule key deadline event)
      { n.loop with queue := n.loop.queue.schedule key deadline event } := if_pos ended
    rw [same]
    exact ⟨ended, rfl⟩
  | advance ms fuel =>
    have same : n.perform t (.advance ms fuel) = n.wait ms := if_pos (sleeps _)
    rw [same]
    exact ⟨ended, rfl⟩
  | signal stop fuel =>
    have same : n.perform t (.signal stop fuel) = { n with loop := { n.loop with stop } } := if_pos ended
    rw [same]
    exact ⟨ended, rfl⟩
  | abandon =>
    unfold perform
    dsimp only
    split
    · exact ⟨rfl, rfl⟩
    · exact ⟨ended, rfl⟩
  | proceed fuel =>
    have same : n.perform t (.proceed fuel) = n := if_pos (sleeps _)
    rw [same]
    exact ⟨ended, rfl⟩

theorem ended_run : ∀ (acts : List LoopAct) {n : Noted ρ}, n.loop.ended = true →
    (n.run t acts).loop.ended = true ∧ Journal.fired (n.run t acts).journal = Journal.fired n.journal
  | [], _, ended => ⟨ended, rfl⟩
  | act :: acts, _, ended => by
    obtain ⟨after, same⟩ := ended_perform (t := t) ended act
    obtain ⟨last, fired⟩ := ended_run acts after
    exact ⟨last, fired.trans same⟩

/-- After the act the loop has ended, and it fires nothing any more, whatever happens. -/
def StoppedBy (t : TimerTarget ρ) (n : Noted ρ) (act : LoopAct) : Prop :=
  ∀ later, (n.run t (act :: later)).loop.ended = true ∧
    Journal.fired (n.run t (act :: later)).journal = Journal.fired n.journal

theorem stoppedBy (ended : (n.perform t act).loop.ended = true)
    (fired : Journal.fired (n.perform t act).journal = Journal.fired n.journal) : n.StoppedBy t act := by
  intro later
  obtain ⟨last, same⟩ := ended_run (t := t) later ended
  exact ⟨last, same.trans fired⟩

theorem stoppedBy_of_ended (ended : n.loop.ended = true) (act : LoopAct) : n.StoppedBy t act :=
  fun later => ended_run (act :: later) ended

theorem stoppedBy_signal (n : Noted ρ) (fuel : Nat) : n.StoppedBy t (.signal true fuel) := by
  cases ended : n.loop.ended with
  | true => exact stoppedBy_of_ended ended _
  | false =>
    have after : n.perform t (.signal true fuel) =
        { n with loop := { n.loop with stop := true, ended := true } } :=
      (if_neg (Bool.eq_false_iff.mp ended)).trans (settle_of_stop rfl)
    exact stoppedBy (by rw [after]) (by rw [after])

theorem stoppedBy_abandon (asleep : n.loop.asleep = true) : n.StoppedBy t .abandon := by
  have after : n.perform t .abandon = { n with loop := n.loop.abandon } := if_pos asleep
  exact stoppedBy (by rw [after]; rfl) (by rw [after])

/-- The loop has been told to stop before it ever went to sleep. -/
structure Unstarted (n : Noted ρ) : Prop where
  stop : n.loop.stop = true
  sleep : n.loop.sleep = 0
  fired : Journal.fired n.journal = []

theorem Unstarted.wake (unstarted : n.Unstarted) : (wake t fuel sleeps n).Unstarted := by
  unfold Noted.wake
  split
  · exact unstarted
  · rw [settle_of_stop unstarted.stop]
    exact ⟨unstarted.stop, unstarted.sleep, unstarted.fired⟩

theorem Unstarted.perform (unstarted : n.Unstarted) (act : LoopAct) (told : ∀ fuel, act ≠ .signal false fuel) :
    (n.perform t act).Unstarted := by
  obtain ⟨stop, sleep, fired⟩ := unstarted
  cases act with
  | command c => cases c <;> exact ⟨stop, sleep, fired⟩
  | schedule => exact Unstarted.wake ⟨stop, sleep, fired⟩
  | advance => exact Unstarted.wake ⟨stop, sleep, fired⟩
  | signal flag fuel =>
    cases flag with
    | false => exact absurd rfl (told fuel)
    | true => exact Unstarted.wake ⟨rfl, sleep, fired⟩
  | abandon =>
    unfold Noted.perform
    dsimp only
    split <;> exact ⟨stop, sleep, fired⟩
  | proceed => exact Unstarted.wake ⟨stop, sleep, fired⟩

theorem Unstarted.run : ∀ (acts : List LoopAct) {n : Noted ρ}, n.Unstarted →
    (∀ fuel, .signal false fuel ∉ acts) → (n.run t acts).Unstarted
  | [], _, unstarted, _ => unstarted
  | act :: acts, _, unstarted, told => by
    have first : ∀ fuel, act ≠ .signal false fuel := fun fuel same => told fuel (same ▸ List.mem_cons_self)
    exact Unstarted.run acts (unstarted.perform act first)
      fun fuel there => told fuel (List.mem_cons_of_mem act there)

/-- A loop that has been told to stop ends as soon as it runs. -/
theorem Unstarted.stoppedBy_proceed (unstarted : n.Unstarted) (fuel : Nat) : n.StoppedBy t (.proceed fuel) := by
  cases ended : n.loop.ended with
  | true => exact stoppedBy_of_ended ended _
  | false =>
    have runs : (n.loop.ended || n.loop.asleep) = false := by
      rw [ended, TimerLoop.asleep, unstarted.sleep]
      simp
    have after : n.perform t (.proceed fuel) = { n with loop := { n.loop with ended := true } } :=
      (if_neg (Bool.eq_false_iff.mp runs)).trans (settle_of_stop unstarted.stop)
    exact stoppedBy (by rw [after]) (by rw [after])

end Noted

/-! ## Punctuality -/

/-- A loop that fires its timers on time, and ends when it is told to. -/
structure OnTime (t : TimerTarget ρ) (n : Noted ρ) : Prop where
  punctual : Journal.Punctual n.journal
  pending : ∀ e, e ∈ n.loop.queue.entries ↔ Journal.Awaited n.journal e
  /-- Nothing is late. -/
  asleep : n.loop.asleep = true → ∀ e ∈ n.loop.queue.entries, n.loop.now < e.slot.deadline
  /-- When it runs, it ends or falls asleep, unless its target has scheduled another timer. -/
  rests : ∀ fuel, let m := n.perform t (.proceed fuel)
    Few m.journal → m.loop.roused = false → m.loop.ended = true ∨ m.loop.asleep = true
  signalled : ∀ fuel, n.StoppedBy t (.signal true fuel)
  abandoned : n.loop.asleep = true → n.StoppedBy t .abandon

theorem Resting.onTime {n : Noted ρ} (resting : Resting n) (early : n.loop.now < lastTime)
    (t : TimerTarget ρ) : OnTime t n := by
  obtain ⟨⟨now, reports⟩, watched⟩ := resting
  refine ⟨reports.kept.punctual, reports.pending, fun asleep e he => ?_, fun fuel => ?_,
    n.stoppedBy_signal, Noted.stoppedBy_abandon⟩
  · obtain ⟨⟨runs, quiet⟩, sleeps⟩ := TimerLoop.asleep_iff.mp asleep
    have bound := watched runs quiet e he
    rw [UInt64.lt_iff_toNat_lt]
    omega
  · show Few (Noted.wake t fuel (n.loop.ended || n.loop.asleep) n).journal → _
    unfold Noted.perform Noted.wake
    split
    next sleeps => exact fun _ _ => Bool.or_eq_true_iff.mp sleeps
    next => exact rests_of_settle fuel n early fun _ => ⟨now, reports⟩

/-- Whatever is scheduled and cancelled, by whomever and whenever: a loop on an empty queue fires no
timer early, late, twice, out of order or after it has been withdrawn, and it ends without firing
anything more when it is told to stop while it is asleep or before it runs, or is left alone. -/
theorem TimerLoop.fires_on_time (t : TimerTarget ρ) (target : ρ) (now : UInt64) (stop : Bool)
    (acts : List LoopAct) (few : Few ((Noted.start now target stop).run t acts).journal)
    (early : now.toNat + LoopAct.duration acts < lastTime.toNat) :
    let n := (Noted.start now target stop).run t acts
    n.loop = acts.foldl (perform t) (.start .empty now target stop) ∧ OnTime t n ∧
      (stop = true → (∀ fuel, .signal false fuel ∉ acts) →
        Journal.fired n.journal = [] ∧ ∀ fuel, n.StoppedBy t (.proceed fuel)) := by
  have resting := resting_run acts (.start now target stop) (fun _ => resting_start now target stop) early few
  have clock : ((Noted.start now target stop).run t acts).loop.now < lastTime := by
    rw [UInt64.lt_iff_toNat_lt, toNat_now_run acts _ early]
    exact early
  refine ⟨Noted.loop_run t acts _, resting.onTime clock t, ?_⟩
  rintro rfl told
  have unstarted : ((Noted.start now target true).run t acts).Unstarted :=
    Noted.Unstarted.run acts ⟨rfl, rfl, rfl⟩ told
  exact ⟨unstarted.fired, unstarted.stoppedBy_proceed⟩

/-- A target that gives the commands it holds, one with each event. -/
def chained : TimerTarget (List TimerCommand) where
  fire commands _ := (commands.drop 1, commands.take 1)

/-- Two timers before the loop runs, an earlier one while it is asleep, which makes the target
schedule another, one that is cancelled, and the flag at last. -/
def busyLoop : List LoopAct :=
  [.command (.schedule "a" 1300 .idleExpired), .command (.schedule "b" 1200 (.backgroundExpired 1)),
    .proceed 1, .schedule "c" 1100 (.backgroundExpired 2) 1, .advance 100 1, .command (.cancel "a"),
    .advance 100 1, .signal true 0]

/-- The target's own timer goes off between the other two, in the same pass as the later one. -/
theorem fires_on_time_busy :
    let n := (Noted.start 1000 [.schedule "d" 1150 (.backgroundExpired 3)] false).run chained busyLoop
    Few n.journal ∧ (1000 : UInt64).toNat + LoopAct.duration busyLoop < lastTime.toNat ∧
      (Journal.fired n.journal).map (·.key) = ["b", "d", "c"] ∧ OnTime chained n := by
  have few : Few ((Noted.start 1000 [.schedule "d" 1150 (.backgroundExpired 3)] false).run chained
      busyLoop).journal := by
    decide +kernel
  have early : (1000 : UInt64).toNat + LoopAct.duration busyLoop < lastTime.toNat := by decide +kernel
  exact ⟨few, early, by decide +kernel, (TimerLoop.fires_on_time chained _ 1000 false busyLoop few early).2.1⟩

end ClickGrant
