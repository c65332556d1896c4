import ClickGrant.Timer.Queue

/-!
# Timer loop

The loop that makes timers go off. One pass ends the loop if it has been told to stop; otherwise
it takes what is due, hands each event to its target, and goes to sleep until the next deadline,
but no longer than a minute. Sleep ends when that much real time has passed, or at once if a timer
is scheduled or the stop flag is set to either value. The clock may move on its own; it wakes
nobody. The loop also ends when nobody is left who could set the flag.

Assumed: a pass takes no time. The clock stands still from taking what is due to going to sleep, so
the time that targets spend on their events is not counted against the sleep. What a wakeup brings
about is proved in `Proofs.Timer.Journal` and `Proofs.Timer.Punctual`.
-/
set_option autoImplicit false

namespace ClickGrant

/-- What a target does to the queue while it is handed an event. -/
inductive TimerCommand where
  | schedule (key : TimerKey) (deadline : UInt64) (event : TimerEvent)
  | cancel (key : TimerKey)

/-- What receives fired events. -/
structure TimerTarget (ρ : Type) where
  fire : ρ → TimerEvent → ρ × List TimerCommand

/-- Longest sleep, in milliseconds. -/
def longestSleep : Nat := 60000

/-- How long to sleep at the time `now`. -/
def TimerQueue.sleepLength (q : TimerQueue) (now : UInt64) : Nat :=
  match q.nextDeadline with
  | none => longestSleep
  | some deadline => min longestSleep (saturatingSub deadline now).toNat

/-- The loop between two passes. -/
structure TimerLoop (ρ : Type) where
  queue : TimerQueue
  now : UInt64
  target : ρ
  /-- The stop flag. -/
  stop : Bool
  /-- A timer was scheduled since the last pass began. -/
  roused : Bool
  /-- Length of the current sleep. -/
  sleep : Nat
  /-- Real time since the sleep began. -/
  slept : Nat
  ended : Bool

namespace TimerLoop

variable {ρ : Type}

/-- A loop that has not made its first pass. -/
def start (queue : TimerQueue) (now : UInt64) (target : ρ) (stop : Bool) : TimerLoop ρ :=
  { queue, now, target, stop, roused := false, sleep := 0, slept := 0, ended := false }

/-- One command of a target. -/
def command (l : TimerLoop ρ) : TimerCommand → TimerLoop ρ
  | .schedule key deadline event =>
    { l with queue := l.queue.schedule key deadline event, roused := true }
  | .cancel key => { l with queue := (l.queue.cancel key).2 }

/-- Hands one event over. -/
def fire (t : TimerTarget ρ) (l : TimerLoop ρ) (event : TimerEvent) : TimerLoop ρ :=
  let (target, commands) := t.fire l.target event
  commands.foldl command { l with target }

/-- One pass, which takes no time: what is due and how long to sleep go by one reading of the clock,
however long the targets may be busy with the events. -/
def pass (t : TimerTarget ρ) (l : TimerLoop ρ) : TimerLoop ρ :=
  if l.stop then { l with ended := true }
  else
    let (events, queue) := l.queue.takeDue l.now
    let l := events.foldl (fire t) { l with queue, roused := false }
    { l with sleep := l.queue.sleepLength l.now, slept := 0 }

/-- Passes until the loop is asleep or has ended, `fuel` more at most after the first. -/
def settle (t : TimerTarget ρ) : Nat → TimerLoop ρ → TimerLoop ρ
  | 0, l => l.pass t
  | fuel + 1, l =>
    let l := l.pass t
    if l.ended || !l.roused then l else settle t fuel l

/-- A timer is scheduled from outside. -/
def schedule (t : TimerTarget ρ) (fuel : Nat) (l : TimerLoop ρ) (key : TimerKey) (deadline : UInt64)
    (event : TimerEvent) : TimerLoop ρ :=
  let l := { l with queue := l.queue.schedule key deadline event }
  if l.ended then l else l.settle t fuel

/-- A timer is cancelled from outside. -/
def cancel (l : TimerLoop ρ) (key : TimerKey) : TimerLoop ρ := { l with queue := (l.queue.cancel key).2 }

/-- Real time passes. -/
def elapse (t : TimerTarget ρ) (fuel : Nat) (l : TimerLoop ρ) (ms : Nat) : TimerLoop ρ :=
  let l := { l with slept := l.slept + ms }
  if l.ended || l.slept < l.sleep then l else l.settle t fuel

/-- The clock is set. -/
def setClock (l : TimerLoop ρ) (now : UInt64) : TimerLoop ρ := { l with now }

/-- The stop flag is set. -/
def signal (t : TimerTarget ρ) (fuel : Nat) (l : TimerLoop ρ) (stop : Bool) : TimerLoop ρ :=
  let l := { l with stop }
  if l.ended then l else l.settle t fuel

/-- Nobody is left who could set the flag. -/
def abandon (l : TimerLoop ρ) : TimerLoop ρ := { l with ended := true }

end TimerLoop

end ClickGrant
