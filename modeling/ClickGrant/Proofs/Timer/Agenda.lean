import ClickGrant.Proofs.Timer.Index

/-!
# What a timer queue stands for

A timer queue stands for an `Agenda`: for each key at most one appointment, that is a deadline and
an event, in the order in which they were made. An agenda knows no slots and has no second index.
Making an appointment under a key drops an earlier one of this key; what is due at a time are the
appointments whose deadline has come, by deadline and then in the order of the agenda.

What is proved:
  1. `Holds.carryOut` — an act on a queue that holds an agenda gets the reply that the agenda
     gives, and leaves a queue that holds the agenda as the act leaves it.
  2. `Holds.agrees` — a queue that holds an agenda answers every question as the agenda does.
  3. `agrees_with_agenda` — so every run of fewer than 2^64 schedulings on an empty queue gets the
     replies of the run on the empty agenda and ends in agreement with it, both indexes being two
     views of one set of timers.
  4. `taken_in_order` — what is due after such a run is taken by deadline, and what has one deadline in
     the order of the agenda (`Agenda.filter_due`), for which the sort has to be stable.
-/
set_option autoImplicit false

namespace ClickGrant

/-- What is to happen under a key, and when. -/
structure Appointment where
  key : TimerKey
  deadline : UInt64
  event : TimerEvent
  deriving DecidableEq, Repr

/-- Appointments under different keys, in the order in which they were made. -/
abbrev Agenda := List Appointment

namespace Agenda

/-- The appointment of a key. -/
def at? (a : Agenda) (key : TimerKey) : Option Appointment := a.find? (·.key = key)

theorem of_at? {a : Agenda} {key : TimerKey} {x : Appointment} (h : a.at? key = some x) :
    x ∈ a ∧ x.key = key :=
  ⟨List.mem_of_find?_eq_some h, of_decide_eq_true (List.find?_some h :)⟩

/-- The agenda without a key. -/
def without (a : Agenda) (key : TimerKey) : Agenda := a.filter (·.key ≠ key)

/-- One more appointment, instead of any other under its key. -/
def schedule (a : Agenda) (x : Appointment) : Agenda := a.without x.key ++ [x]

/-- What is due at a time: by deadline, and what has the same deadline in the order of the
agenda. -/
def due (a : Agenda) (now : UInt64) : List Appointment :=
  (a.filter (·.deadline ≤ now)).mergeSort fun x y => x.deadline ≤ y.deadline

/-- What is not yet due. -/
def later (a : Agenda) (now : UInt64) : Agenda := a.filter (now < ·.deadline)

/-- The least deadline of an agenda, if it has any. -/
def IsNext (a : Agenda) : Option UInt64 → Prop
  | none => a = []
  | some deadline => (∃ x ∈ a, x.deadline = deadline) ∧ ∀ x ∈ a, deadline ≤ x.deadline

end Agenda

/-! ## A sort that keeps the order of equals -/

section Stable

variable {α : Type} (f : α → UInt64)

theorem rank_trans (x y z : α) (hxy : decide (f x ≤ f y) = true) (hyz : decide (f y ≤ f z) = true) :
    decide (f x ≤ f z) = true :=
  decide_eq_true (UInt64.le_trans (of_decide_eq_true hxy) (of_decide_eq_true hyz))

theorem rank_total (x y : α) : (decide (f x ≤ f y) || decide (f y ≤ f x)) = true := by
  rw [Bool.or_eq_true, decide_eq_true_eq, decide_eq_true_eq]
  exact UInt64.le_total _ _

theorem pairwise_sorted (l : List α) :
    (l.mergeSort fun x y => f x ≤ f y).Pairwise fun x y => f x ≤ f y :=
  (List.pairwise_mergeSort (rank_trans f) (rank_total f) l).imp of_decide_eq_true

/-- Those of one rank stand in the order they had before the sort. -/
theorem filter_sorted (l : List α) (n : UInt64) :
    (l.mergeSort fun x y => f x ≤ f y).filter (f · = n) = l.filter (f · = n) := by
  -- they are a sorted part of the list, which a stable sort leaves standing in this order
  have equals : (l.filter (f · = n)).Pairwise fun x y => decide (f x ≤ f y) = true := by
    refine List.pairwise_of_forall_mem_list fun x hx y hy => ?_
    have hx := of_decide_eq_true (List.mem_filter.mp hx).2
    have hy := of_decide_eq_true (List.mem_filter.mp hy).2
    rw [decide_eq_true_eq, hx, hy]
    exact UInt64.le_refl n
  have stands : (l.filter (f · = n)).Sublist (l.mergeSort fun x y => f x ≤ f y) :=
    List.sublist_mergeSort (rank_trans f) (rank_total f) equals List.filter_sublist
  have part := stands.filter (f · = n)
  rw [List.filter_filter] at part
  simp only [Bool.and_self] at part
  exact (part.eq_of_length ((List.mergeSort_perm l _).filter _).length_eq.symm).symm

end Stable

/-- Of what has one deadline, what is due comes in the order of the agenda. -/
theorem Agenda.filter_due (a : Agenda) (now deadline : UInt64) :
    (a.due now).filter (·.deadline = deadline) =
      if deadline ≤ now then a.filter (·.deadline = deadline) else [] := by
  rw [Agenda.due, filter_sorted Appointment.deadline, List.filter_filter]
  split
  next come =>
    refine List.filter_congr fun x _ => ?_
    by_cases here : x.deadline = deadline <;> simp [here, come]
  next ahead =>
    rw [List.filter_eq_nil_iff]
    intro x _ h
    simp only [Bool.and_eq_true, decide_eq_true_eq] at h
    exact ahead (h.1 ▸ h.2)

/-! ## Acts -/

/-- What can be done to a queue, or to an agenda. -/
inductive QueueAct where
  | schedule (key : TimerKey) (deadline : UInt64) (event : TimerEvent)
  | cancel (key : TimerKey)
  | takeDue (now : UInt64)

/-- What an act is answered with. -/
inductive QueueReply where
  | scheduled
  /-- Whether the key was pending. -/
  | cancelled (pending : Bool)
  /-- What was due, earliest first. -/
  | due (events : List TimerEvent)
  deriving DecidableEq, Repr

def QueueAct.isSchedule : QueueAct → Bool
  | .schedule .. => true
  | _ => false

def TimerQueue.carryOut (q : TimerQueue) : QueueAct → QueueReply × TimerQueue
  | .schedule key deadline event => (.scheduled, q.schedule key deadline event)
  | .cancel key => (.cancelled (q.cancel key).1, (q.cancel key).2)
  | .takeDue now => (.due (q.takeDue now).1, (q.takeDue now).2)

def Agenda.carryOut (a : Agenda) : QueueAct → QueueReply × Agenda
  | .schedule key deadline event => (.scheduled, a.schedule ⟨key, deadline, event⟩)
  | .cancel key => (.cancelled (a.at? key).isSome, a.without key)
  | .takeDue now => (.due ((a.due now).map (·.event)), a.later now)

/-- Acts carried out one after the other, with their replies. -/
def runActs {σ : Type} (step : σ → QueueAct → QueueReply × σ) : σ → List QueueAct → List QueueReply × σ
  | s, [] => ([], s)
  | s, act :: rest =>
    ((step s act).1 :: (runActs step (step s act).2 rest).1, (runActs step (step s act).2 rest).2)

/-- An entry without its slot. -/
def TimerEntry.appointment (e : TimerEntry) : Appointment := ⟨e.key, e.slot.deadline, e.event⟩

namespace TimerQueue

variable {q : TimerQueue} {a : Agenda} {now : UInt64}

/-! ## A queue that holds an agenda -/

/-- A queue holds an agenda if the agenda lists its entries in the order of their scheduling. -/
structure Holds (q : TimerQueue) (a : Agenda) : Prop where
  paired : q.Paired
  listed : ∃ es : List TimerEntry, es.Perm q.entries ∧
    es.Pairwise (fun e e' => e.slot.seq < e'.slot.seq) ∧ a = es.map (·.appointment)

theorem holds_empty : empty.Holds [] where
  paired := paired_empty
  listed := ⟨[], .refl _, .nil, rfl⟩

theorem Holds.mem_iff (holds : q.Holds a) {x : Appointment} :
    x ∈ a ↔ ∃ e ∈ q.entries, e.appointment = x := by
  obtain ⟨es, perm, -, rfl⟩ := holds.listed
  simp only [List.mem_map, perm.mem_iff]

/-- No key has two appointments. -/
theorem Holds.nodup_keys (holds : q.Holds a) : (a.map (·.key)).Nodup := by
  obtain ⟨es, perm, -, rfl⟩ := holds.listed
  rw [List.map_map]
  exact (perm.map _).nodup_iff.mpr holds.paired.nodup_keys

theorem Holds.at?_eq_some (holds : q.Holds a) {e : TimerEntry} (he : e ∈ q.entries) :
    a.at? e.key = some e.appointment := by
  have listed : e.appointment ∈ a := holds.mem_iff.mpr ⟨e, he, rfl⟩
  cases found : a.at? e.key with
  | none =>
    rw [Agenda.at?, List.find?_eq_none] at found
    exact absurd (decide_eq_true rfl) (found _ listed)
  | some x =>
    obtain ⟨made, same⟩ := Agenda.of_at? found
    obtain ⟨e', he', rfl⟩ := holds.mem_iff.mp made
    rw [holds.paired.eq_of_key_eq he' he same]

theorem Holds.deadlineOf_eq (holds : q.Holds a) (key : TimerKey) :
    q.deadlineOf key = (a.at? key).map (·.deadline) := by
  unfold deadlineOf
  cases found : q.slots.get? key with
  | some slot =>
    obtain ⟨e, he, rfl, rfl⟩ := (holds.paired.found_iff key slot).mp found
    rw [holds.at?_eq_some he]
    rfl
  | none =>
    cases listed : a.at? key with
    | none => rfl
    | some x =>
      obtain ⟨made, rfl⟩ := Agenda.of_at? listed
      obtain ⟨e, he, rfl⟩ := holds.mem_iff.mp made
      exact absurd (found.symm.trans (holds.paired.found he)) nofun

theorem Holds.contains_eq (holds : q.Holds a) (key : TimerKey) :
    q.contains key = (a.at? key).isSome := by
  rw [contains_eq_isSome_deadlineOf, holds.deadlineOf_eq, Option.isSome_map]

/-! ## Each act does the same to both -/

theorem Holds.remove (holds : q.Holds a) (key : TimerKey) : (q.remove key).Holds (a.without key) where
  paired := holds.paired.remove key
  listed := by
    obtain ⟨es, perm, ordered, rfl⟩ := holds.listed
    refine ⟨es.filter (·.key ≠ key), ?_, ordered.filter _, List.filter_map⟩
    rw [holds.paired.entries_remove]
    exact perm.filter _

theorem Holds.schedule (holds : q.Holds a) (key : TimerKey) (deadline : UInt64) (event : TimerEvent)
    (few : q.nextSeq ≤ (q.schedule key deadline event).nextSeq) :
    (q.schedule key deadline event).Holds (a.schedule ⟨key, deadline, event⟩) where
  paired := holds.paired.schedule deadline event few
  listed := by
    obtain ⟨es, perm, ordered, rfl⟩ := holds.listed
    refine ⟨es.filter (·.key ≠ key) ++ [q.scheduled key deadline event], ?_, ?_, ?_⟩
    · have replaced := holds.paired.perm_schedule key deadline event
      exact (List.perm_append_singleton _ _).trans
        ((List.Perm.cons _ (perm.filter _)).trans replaced.symm)
    · -- the slot that is handed out is later than all in use
      refine List.pairwise_append.mpr ⟨ordered.filter _, List.pairwise_singleton _ _, ?_⟩
      intro e he e' new
      obtain rfl := List.mem_singleton.mp new
      exact holds.paired.earlier e (perm.mem_iff.mp (List.mem_filter.mp he).1)
    · rw [List.map_append, Agenda.schedule, Agenda.without, List.filter_map]
      rfl

/-- Entries in the order of their scheduling stand in the order of their slots once they are sorted
by deadline. -/
theorem sorted_mergeSort {es : List TimerEntry}
    (ordered : es.Pairwise fun e e' => e.slot.seq < e'.slot.seq) :
    Sorted (es.mergeSort fun e e' => e.slot.deadline ≤ e'.slot.deadline) := by
  refine List.pairwise_iff_forall_sublist.mpr fun {e e'} part => Slot.precedes_iff.mpr ?_
  have byDeadline := pairwise_sorted (fun e : TimerEntry => e.slot.deadline) es
  have le := List.pairwise_iff_forall_sublist.mp byDeadline part
  by_cases same : e.slot.deadline = e'.slot.deadline
  · -- two of one deadline stand as they stood before
    have part := part.filter (fun x : TimerEntry => decide (x.slot.deadline = e'.slot.deadline))
    rw [filter_sorted (fun e : TimerEntry => e.slot.deadline)] at part
    simp only [List.filter_cons, same, decide_true, if_true, List.filter_nil] at part
    exact .inr ⟨same, List.pairwise_iff_forall_sublist.mp ordered (part.trans List.filter_sublist)⟩
  · exact .inl (UInt64.lt_of_le_of_ne le same)

theorem eq_of_sorted_perm {es es' : List TimerEntry} (sorted : Sorted es) (sorted' : Sorted es')
    (perm : es.Perm es') : es = es' := by
  refine perm.eq_of_pairwise (fun e e' _ _ before after => ?_) sorted sorted'
  exact absurd (Slot.precedes_trans before after) (Slot.not_precedes_self _)

/-- What is due comes by deadline, and what has one deadline in the order of scheduling. -/
theorem Holds.fst_takeDue (holds : q.Holds a) (early : now < lastTime) :
    (q.takeDue now).1 = (a.due now).map (·.event) := by
  obtain ⟨es, perm, ordered, rfl⟩ := holds.listed
  have due : es.filter (isDue now) = es.filter (·.slot.deadline ≤ now) := by
    refine List.filter_congr fun e _ => ?_
    rw [Bool.eq_iff_iff, isDue_iff early, decide_eq_true_eq]
  have same : q.entries.takeWhile (isDue now) =
      (es.filter (isDue now)).mergeSort fun e e' => e.slot.deadline ≤ e'.slot.deadline := by
    rw [holds.paired.sorted.takeWhile_isDue]
    refine eq_of_sorted_perm (holds.paired.sorted.filter _) (sorted_mergeSort (ordered.filter _)) ?_
    exact (perm.symm.filter _).trans (List.mergeSort_perm _ _).symm
  show (q.entries.takeWhile (isDue now)).map (·.event) = _
  rw [same, due, Agenda.due, List.filter_map,
    ← List.map_mergeSort (r := fun e e' : TimerEntry => e.slot.deadline ≤ e'.slot.deadline)
      (fun _ _ _ _ => rfl), List.map_map]
  rfl

theorem Holds.takeDue (holds : q.Holds a) (early : now < lastTime) :
    (q.takeDue now).2.Holds (a.later now) where
  paired := holds.paired.takeDue now
  listed := by
    obtain ⟨es, perm, ordered, rfl⟩ := holds.listed
    refine ⟨es.filter (now < ·.slot.deadline), ?_, ordered.filter _, List.filter_map⟩
    show List.Perm _ (q.entries.dropWhile (isDue now))
    rw [holds.paired.sorted.dropWhile_isDue]
    have later : es.filter (!isDue now ·) = es.filter (now < ·.slot.deadline) := by
      refine List.filter_congr fun e _ => ?_
      rw [Bool.eq_iff_iff, Bool.not_eq_true', ← Bool.not_eq_true, isDue_iff early,
        decide_eq_true_eq, UInt64.not_le]
    rw [← later]
    exact perm.filter _

/-- An act on a queue that holds an agenda, as the act on the agenda has it. -/
theorem Holds.carryOut (holds : q.Holds a) (act : QueueAct)
    (few : q.nextSeq ≤ (q.carryOut act).2.nextSeq)
    (early : ∀ now, act = .takeDue now → now < lastTime) :
    (q.carryOut act).1 = (a.carryOut act).1 ∧ (q.carryOut act).2.Holds (a.carryOut act).2 := by
  cases act with
  | schedule key deadline event => exact ⟨rfl, holds.schedule key deadline event few⟩
  | cancel key => exact ⟨congrArg QueueReply.cancelled (holds.contains_eq key), holds.remove key⟩
  | takeDue now =>
    have early := early now rfl
    exact ⟨congrArg QueueReply.due (holds.fst_takeDue early), holds.takeDue early⟩

/-! ## What a queue answers -/

/-- Keys and slots lead to each other. -/
structure Bijective (q : TimerQueue) : Prop where
  found_iff : ∀ key slot, q.slots.get? key = some slot ↔ ∃ e ∈ q.entries, e.key = key ∧ e.slot = slot
  keys : (q.entries.map (·.key)).Nodup
  slots : (q.entries.map (·.slot)).Nodup

theorem Paired.bijective (paired : q.Paired) : q.Bijective where
  found_iff := paired.found_iff
  keys := paired.nodup_keys
  slots := paired.sorted.nodup_slots

/-- Every question to a queue is answered as the agenda has it. -/
structure Agrees (q : TimerQueue) (a : Agenda) : Prop where
  once : (a.map (·.key)).Nodup
  entries : ∀ x, x ∈ a ↔ ∃ e ∈ q.entries, e.appointment = x
  contains : ∀ key, q.contains key = (a.at? key).isSome
  deadlineOf : ∀ key, q.deadlineOf key = (a.at? key).map (·.deadline)
  nextDeadline : a.IsNext q.nextDeadline
  size : q.size = a.length
  isEmpty : q.isEmpty = a.isEmpty

theorem Holds.size_eq (holds : q.Holds a) : q.size = a.length := by
  obtain ⟨es, perm, -, rfl⟩ := holds.listed
  rw [List.length_map, perm.length_eq]
  rfl

/-- The first entry has the least deadline. -/
theorem Holds.isNext (holds : q.Holds a) : a.IsNext q.nextDeadline := by
  have size := holds.size_eq
  have sorted := holds.paired.sorted
  have listed := fun x => holds.mem_iff (x := x)
  unfold TimerQueue.size at size
  unfold nextDeadline
  cases all : q.entries with
  | nil =>
    rw [all] at size
    exact List.length_eq_zero_iff.mp size.symm
  | cons first rest =>
    simp only [all, List.mem_cons] at listed sorted
    refine ⟨⟨first.appointment, (listed _).mpr ⟨first, .inl rfl, rfl⟩, rfl⟩, fun x hx => ?_⟩
    obtain ⟨e, rfl | he, rfl⟩ := (listed x).mp hx
    · exact UInt64.le_refl _
    · rcases Slot.precedes_iff.mp ((List.pairwise_cons.mp sorted).1 e he) with lt | ⟨same, -⟩
      · exact UInt64.le_of_lt lt
      · exact UInt64.le_of_eq same

theorem Holds.agrees (holds : q.Holds a) : q.Agrees a where
  once := holds.nodup_keys
  entries := fun _ => holds.mem_iff
  contains := holds.contains_eq
  deadlineOf := holds.deadlineOf_eq
  nextDeadline := holds.isNext
  size := holds.size_eq
  isEmpty := by
    unfold TimerQueue.isEmpty
    rw [holds.size_eq]
    cases a <;> rfl

/-! ## Runs -/

/-- As long as there are schedulings left, the count of schedulings does not wrap around. -/
theorem nextSeq_carryOut (act : QueueAct) {n : Nat}
    (few : q.nextSeq.toNat + ([act].countP (·.isSchedule) + n) < UInt64.size) :
    (q.carryOut act).2.nextSeq.toNat = q.nextSeq.toNat + [act].countP (·.isSchedule) := by
  cases act with
  | schedule key deadline event =>
    have counted : [QueueAct.schedule key deadline event].countP (·.isSchedule) = 1 := rfl
    rw [counted] at few ⊢
    show (q.schedule key deadline event).nextSeq.toNat = _
    rw [nextSeq_schedule, UInt64.toNat_add]
    exact Nat.mod_eq_of_lt (by show q.nextSeq.toNat + 1 < UInt64.size; omega)
  | cancel key => exact congrArg UInt64.toNat (nextSeq_remove q key)
  | takeDue now => rfl

theorem Holds.runActs : ∀ (acts : List QueueAct) {q : TimerQueue} {a : Agenda}, q.Holds a →
    q.nextSeq.toNat + acts.countP (·.isSchedule) < UInt64.size →
    (∀ now, .takeDue now ∈ acts → now < lastTime) →
    (ClickGrant.runActs TimerQueue.carryOut q acts).1 = (ClickGrant.runActs Agenda.carryOut a acts).1 ∧
      (ClickGrant.runActs TimerQueue.carryOut q acts).2.Holds (ClickGrant.runActs Agenda.carryOut a acts).2
  | [], _, _, holds, _, _ => ⟨rfl, holds⟩
  | act :: rest, q, a, holds, few, early => by
    have split : (act :: rest).countP (·.isSchedule) =
        [act].countP (·.isSchedule) + rest.countP (·.isSchedule) :=
      @List.countP_append _ _ [act] rest
    rw [split] at few
    have seq := nextSeq_carryOut act few
    have grows : q.nextSeq ≤ (q.carryOut act).2.nextSeq := by
      rw [UInt64.le_iff_toNat_le]
      omega
    obtain ⟨reply, after⟩ := holds.carryOut act grows fun now h => early now (h ▸ .head _)
    obtain ⟨replies, last⟩ := after.runActs rest (by omega)
      fun now h => early now (.tail _ h)
    refine ⟨?_, last⟩
    show (q.carryOut act).1 :: _ = (a.carryOut act).1 :: _
    rw [reply, replies]

theorem runActs_empty (acts : List QueueAct) (few : acts.countP (·.isSchedule) < UInt64.size)
    (early : ∀ now, .takeDue now ∈ acts → now < lastTime) :
    (ClickGrant.runActs TimerQueue.carryOut empty acts).1 = (ClickGrant.runActs Agenda.carryOut [] acts).1 ∧
      (ClickGrant.runActs TimerQueue.carryOut empty acts).2.Holds
        (ClickGrant.runActs Agenda.carryOut [] acts).2 := by
  have all : empty.nextSeq.toNat + acts.countP (·.isSchedule) < UInt64.size := by
    rwa [empty, UInt64.toNat_zero, Nat.zero_add]
  exact holds_empty.runActs acts all early

/-- A run of fewer than 2^64 schedulings, with whatever is cancelled or taken in between, is
answered as on the agenda, and at its end the indexes lead to each other and everything that can be
asked is answered as the agenda has it. -/
theorem agrees_with_agenda (acts : List QueueAct)
    (few : acts.countP (·.isSchedule) < UInt64.size)
    (early : ∀ now, .takeDue now ∈ acts → now < lastTime) :
    let queue := runActs TimerQueue.carryOut empty acts
    let agenda := runActs Agenda.carryOut [] acts
    queue.1 = agenda.1 ∧ queue.2.Bijective ∧ queue.2.Agrees agenda.2 := by
  obtain ⟨replies, holds⟩ := runActs_empty acts few early
  exact ⟨replies, holds.paired.bijective, holds.agrees⟩

/-- Two timers with one deadline, the first of which is scheduled again, and one that is
cancelled. -/
def rescheduling : List QueueAct :=
  [.schedule "a" 5 (.saveExpired 1 0), .schedule "b" 5 (.saveExpired 1 1), .schedule "c" 9 .idleExpired,
    .schedule "a" 5 (.backgroundExpired 1), .cancel "c", .takeDue 5]

/-- What was scheduled again is due last. -/
theorem rescheduled_due_last :
    rescheduling.countP (·.isSchedule) < UInt64.size ∧
      (∀ now, .takeDue now ∈ rescheduling → now < lastTime) ∧
      (runActs TimerQueue.carryOut empty rescheduling).1 =
        [.scheduled, .scheduled, .scheduled, .scheduled, .cancelled true,
          .due [.saveExpired 1 1, .backgroundExpired 1]] ∧
      let queue := runActs TimerQueue.carryOut empty rescheduling
      let agenda := runActs Agenda.carryOut [] rescheduling
      queue.1 = agenda.1 ∧ queue.2.Bijective ∧ queue.2.Agrees agenda.2 := by
  have few : rescheduling.countP (·.isSchedule) < UInt64.size := by decide
  have early : ∀ now, .takeDue now ∈ rescheduling → now < lastTime := by
    intro now h
    simp only [rescheduling, List.mem_cons, reduceCtorEq, false_or, QueueAct.takeDue.injEq,
      List.not_mem_nil, or_false] at h
    exact h ▸ by decide
  exact ⟨few, early, by decide, agrees_with_agenda rescheduling few early⟩

/-- After such a run, what is taken at a time before the last one comes by deadline, and for each
deadline that has come it is all of this deadline, in the order in which it was last scheduled. -/
theorem taken_in_order (acts : List QueueAct) (few : acts.countP (·.isSchedule) < UInt64.size)
    (early : ∀ now, .takeDue now ∈ acts → now < lastTime) (now : UInt64) (notLast : now < lastTime) :
    let queue := (runActs TimerQueue.carryOut empty acts).2
    let agenda := (runActs Agenda.carryOut [] acts).2
    ∃ due : List Appointment, (queue.takeDue now).1 = due.map (·.event) ∧
      (due.Pairwise fun x y => x.deadline ≤ y.deadline) ∧
      ∀ deadline, due.filter (·.deadline = deadline) =
        if deadline ≤ now then agenda.filter (·.deadline = deadline) else [] := by
  intro queue agenda
  obtain ⟨-, holds⟩ := runActs_empty acts few early
  refine ⟨agenda.due now, holds.fst_takeDue notLast, ?_, Agenda.filter_due agenda now⟩
  exact pairwise_sorted Appointment.deadline _

end TimerQueue

end ClickGrant
