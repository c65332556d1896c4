import ClickGrant.Assoc
import ClickGrant.Saturating
import ClickGrant.Timer.Event

/-!
# Timer queue

Pending timers, found by key and taken by deadline. The entries stand in the order of their slots,
which compare by deadline and then by when they were scheduled; a second map leads from a key to
its slot. Scheduling a key that is pending replaces its timer, cancelling one that is not does
nothing.
-/
set_option autoImplicit false

namespace ClickGrant

/-- Place of a timer in the queue. -/
structure Slot where
  deadline : UInt64
  /-- Counts the schedulings. -/
  seq : UInt64
  deriving DecidableEq, Repr

/-- By deadline, then in the order of scheduling. -/
def Slot.precedes (a b : Slot) : Bool :=
  a.deadline < b.deadline || (a.deadline = b.deadline && a.seq < b.seq)

/-- A pending timer. -/
structure TimerEntry where
  slot : Slot
  key : TimerKey
  event : TimerEvent
  deriving DecidableEq, Repr

/-- Pending timers. -/
structure TimerQueue where
  /-- In ascending order of slots. -/
  entries : List TimerEntry
  slots : Assoc TimerKey Slot
  nextSeq : UInt64
  deriving DecidableEq, Repr

namespace TimerQueue

/-- No timer is pending. -/
def empty : TimerQueue := { entries := [], slots := .empty, nextSeq := 0 }

/-- The entries with one more in its place. -/
def place (e : TimerEntry) : List TimerEntry → List TimerEntry
  | [] => [e]
  | e' :: rest =>
    if e.slot.precedes e'.slot then e :: e' :: rest
    else if e.slot = e'.slot then e :: rest
    else e' :: place e rest

/-- The queue without the timer of a key. -/
def remove (q : TimerQueue) (key : TimerKey) : TimerQueue :=
  match q.slots.get? key with
  | none => q
  | some slot =>
    { q with entries := q.entries.filter (·.slot ≠ slot), slots := q.slots.erase key }

/-- A timer for `event` at `deadline`, instead of any other under this key. -/
def schedule (q : TimerQueue) (key : TimerKey) (deadline : UInt64) (event : TimerEvent) : TimerQueue :=
  let q := q.remove key
  let slot : Slot := { deadline, seq := q.nextSeq }
  { entries := place { slot, key, event } q.entries
    slots := q.slots.set key slot
    nextSeq := q.nextSeq + 1 }

/-- Whether a key is pending. -/
def contains (q : TimerQueue) (key : TimerKey) : Bool := q.slots.contains key

/-- The queue without a key, and whether it was pending. -/
def cancel (q : TimerQueue) (key : TimerKey) : Bool × TimerQueue := (q.contains key, q.remove key)

/-- When a key is due. -/
def deadlineOf (q : TimerQueue) (key : TimerKey) : Option UInt64 := (q.slots.get? key).map (·.deadline)

/-- The earliest deadline. -/
def nextDeadline (q : TimerQueue) : Option UInt64 := q.entries.head?.map (·.slot.deadline)

/-- How many timers are pending. -/
def size (q : TimerQueue) : Nat := q.entries.length

def isEmpty (q : TimerQueue) : Bool := q.size = 0

/-- Whether an entry stands before the first slot after the time `now`. -/
def isDue (now : UInt64) (e : TimerEntry) : Bool :=
  e.slot.precedes { deadline := saturatingAdd now 1, seq := 0 }

/-- The events due at a time, earliest first, and what stays pending. -/
def takeDue (q : TimerQueue) (now : UInt64) : List TimerEvent × TimerQueue :=
  let due := q.entries.takeWhile (isDue now)
  (due.map (·.event),
   { q with entries := q.entries.dropWhile (isDue now)
            slots := due.foldl (fun m e => m.erase e.key) q.slots })

end TimerQueue

end ClickGrant
