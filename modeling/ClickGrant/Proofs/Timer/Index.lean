import ClickGrant.Proofs.Timer.Queue
import Mathlib.Data.List.Nodup

/-!
# The two indexes of a timer queue

A queue keeps its timers twice: as entries in the order of their slots, and as a map that leads
from a key to a slot. `TimerQueue.Paired` says that the two show the same timers: a key leads to a
slot exactly if an entry with this key stands there, and no slot is used twice. What is proved:
  1. `Paired.remove`, `Paired.takeDue` — removing a key and taking what is due keep the indexes
     paired.
  2. `Paired.schedule` — so does scheduling, as long as the count of schedulings has not wrapped
     around; a slot that is handed out is then later than every one in use.
  3. `deadlineOf_remove`, `deadlineOf_schedule` — when a key is due after removing and scheduling.
  4. `isDue_iff_ne`, `Paired.mem_takeDue_iff_ne` — which events are taken; `Paired.stays_or_taken` —
     at the last time too, what is not taken is still pending.

Without 2 there would be no 1: a slot handed out twice drops an entry whose key stays behind. That
is why `TimerQueue.Sound`, which needs no bound, leads from entries to keys only.
-/
set_option autoImplicit false

namespace ClickGrant

/-- Of a list in which what passes a test stands before what does not, the test takes the front. -/
theorem takeWhile_eq_filter {α : Type} {p : α → Bool} :
    ∀ {l : List α}, l.Pairwise (fun a b => p b = true → p a = true) → l.takeWhile p = l.filter p
  | [], _ => rfl
  | a :: rest, h => by
    obtain ⟨first, others⟩ := List.pairwise_cons.mp h
    cases ha : p a with
    | true => rw [List.takeWhile_cons_of_pos ha, List.filter_cons_of_pos ha, takeWhile_eq_filter others]
    | false =>
      have none : rest.filter p = [] := by
        rw [List.filter_eq_nil_iff]
        intro b hb passes
        rw [first b hb passes] at ha
        cases ha
      simp [ha, none]

theorem dropWhile_eq_filter {α : Type} {p : α → Bool} :
    ∀ {l : List α}, l.Pairwise (fun a b => p b = true → p a = true) →
      l.dropWhile p = l.filter (!p ·)
  | [], _ => rfl
  | a :: rest, h => by
    obtain ⟨first, others⟩ := List.pairwise_cons.mp h
    cases ha : p a with
    | true => simp [ha, dropWhile_eq_filter others]
    | false =>
      have all : rest.filter (!p ·) = rest := by
        rw [List.filter_eq_self]
        intro b hb
        cases hb' : p b with
        | true => rw [first b hb hb'] at ha; cases ha
        | false => rfl
      simp [ha, all]

/-- A counter that has room. -/
theorem toNat_add_ofNat {n : UInt64} {k : Nat} (room : n.toNat + k < UInt64.size) :
    (n + UInt64.ofNat k).toNat = n.toNat + k := by
  have small : k % 2 ^ 64 = k := Nat.mod_eq_of_lt (Nat.lt_of_le_of_lt (Nat.le_add_left k _) room)
  rw [UInt64.toNat_add, UInt64.toNat_ofNat', small]
  exact Nat.mod_eq_of_lt room

namespace TimerQueue

variable {q : TimerQueue} {key key' : TimerKey} {deadline now : UInt64} {event : TimerEvent}

/-! ## What is due -/

theorem toNat_lastTime : lastTime.toNat = UInt64.size - 1 := by decide

/-- What is due is what has a deadline that has come. There is no slot after the last time, so what
is set for that is never due. -/
theorem isDue_iff_ne {e : TimerEntry} :
    isDue now e = true ↔ e.slot.deadline ≤ now ∧ e.slot.deadline ≠ lastTime := by
  have size : UInt64.size = 18446744073709551616 := rfl
  have next : (saturatingAdd now 1).toNat = min (now.toNat + 1) (UInt64.size - 1) := toNat_saturatingAdd ..
  have bound : e.slot.deadline.toNat < UInt64.size := e.slot.deadline.toNat_lt
  unfold isDue
  rw [Slot.precedes_iff]
  simp only [UInt64.lt_iff_toNat_lt, UInt64.le_iff_toNat_le, ne_eq, ← UInt64.toNat_inj, next, toNat_lastTime]
  constructor
  · intro h
    rcases h with h | ⟨-, h⟩
    · omega
    · exact absurd h (Nat.not_lt_zero _)
  · intro h
    exact .inl (by omega)

/-- Before the last time, what is due is what has a deadline that has come. -/
theorem isDue_iff (early : now < lastTime) {e : TimerEntry} :
    isDue now e = true ↔ e.slot.deadline ≤ now := by
  rw [isDue_iff_ne, and_iff_left_iff_imp]
  intro come same
  rw [same] at come
  exact UInt64.not_le.mpr early come

/-- An entry that stands before one that is due is due. -/
theorem isDue_of_precedes {a b : TimerEntry} (h : a.slot.precedes b.slot = true)
    (due : isDue now b = true) : isDue now a = true := Slot.precedes_trans h due

theorem Sorted.takeWhile_isDue {es : List TimerEntry} (sorted : Sorted es) (now : UInt64) :
    es.takeWhile (isDue now) = es.filter (isDue now) :=
  takeWhile_eq_filter (sorted.imp isDue_of_precedes)

theorem Sorted.dropWhile_isDue {es : List TimerEntry} (sorted : Sorted es) (now : UInt64) :
    es.dropWhile (isDue now) = es.filter (!isDue now ·) :=
  dropWhile_eq_filter (sorted.imp isDue_of_precedes)

/-- No two entries stand in one slot. -/
theorem Sorted.nodup_slots {es : List TimerEntry} (sorted : Sorted es) : (es.map (·.slot)).Nodup := by
  rw [List.Nodup, List.pairwise_map]
  refine sorted.imp fun {e e'} before same => ?_
  rw [same] at before
  exact Slot.not_precedes_self _ before

theorem Sorted.eq_of_slot_eq {es : List TimerEntry} (sorted : Sorted es) {a b : TimerEntry}
    (ha : a ∈ es) (hb : b ∈ es) (same : a.slot = b.slot) : a = b :=
  List.inj_on_of_nodup_map sorted.nodup_slots ha hb same

/-! ## Paired indexes -/

/-- Keys and slots show the same timers. -/
structure Paired (q : TimerQueue) : Prop where
  sorted : Sorted q.entries
  found_iff : ∀ key slot, q.slots.get? key = some slot ↔ ∃ e ∈ q.entries, e.key = key ∧ e.slot = slot
  /-- The next slot is later than every one in use. -/
  earlier : ∀ e ∈ q.entries, e.slot.seq < q.nextSeq

theorem paired_empty : empty.Paired where
  sorted := List.Pairwise.nil
  found_iff := by
    intro key slot
    constructor
    · intro h; cases h
    · intro ⟨e, he, _⟩; cases he
  earlier := by intro e he; cases he

theorem Paired.found (paired : q.Paired) {e : TimerEntry} (he : e ∈ q.entries) :
    q.slots.get? e.key = some e.slot := (paired.found_iff e.key e.slot).mpr ⟨e, he, rfl, rfl⟩

/-- No two entries have one key. -/
theorem Paired.eq_of_key_eq (paired : q.Paired) {a b : TimerEntry} (ha : a ∈ q.entries)
    (hb : b ∈ q.entries) (same : a.key = b.key) : a = b := by
  have slots := (paired.found ha).symm.trans (same ▸ paired.found hb)
  exact paired.sorted.eq_of_slot_eq ha hb (Option.some.inj slots)

theorem Paired.nodup_keys (paired : q.Paired) : (q.entries.map (·.key)).Nodup := by
  rw [List.Nodup, List.pairwise_map]
  refine List.Pairwise.imp_of_mem (fun {e e'} he he' before same => ?_) paired.sorted
  obtain rfl := paired.eq_of_key_eq he he' same
  exact Slot.not_precedes_self _ before

/-- An entry stands where its key leads to. -/
theorem Paired.slot_eq_iff (paired : q.Paired) {e : TimerEntry} {slot : Slot} (he : e ∈ q.entries)
    (found : q.slots.get? key = some slot) : e.slot = slot ↔ e.key = key := by
  constructor
  · intro same
    obtain ⟨e', he', rfl, same'⟩ := (paired.found_iff key slot).mp found
    rw [paired.sorted.eq_of_slot_eq he he' (same.trans same'.symm)]
  · rintro rfl
    exact Option.some.inj ((paired.found he).symm.trans found)

theorem Paired.entries_remove (paired : q.Paired) (key : TimerKey) :
    (q.remove key).entries = q.entries.filter (·.key ≠ key) := by
  unfold remove
  cases found : q.slots.get? key with
  | none =>
    refine (List.filter_eq_self.mpr ?_).symm
    intro e he
    refine decide_eq_true fun same => ?_
    have := paired.found he
    rw [same, found] at this
    cases this
  | some slot =>
    refine List.filter_congr fun e he => ?_
    rw [decide_eq_decide, ne_eq, paired.slot_eq_iff he found]

@[simp] theorem nextSeq_remove (q : TimerQueue) (key : TimerKey) :
    (q.remove key).nextSeq = q.nextSeq := by
  unfold remove
  split <;> rfl

@[simp] theorem nextSeq_schedule (q : TimerQueue) (key : TimerKey) (deadline : UInt64)
    (event : TimerEvent) : (q.schedule key deadline event).nextSeq = q.nextSeq + 1 :=
  congrArg (· + 1) (nextSeq_remove q key)

theorem Paired.remove (paired : q.Paired) (key : TimerKey) : (q.remove key).Paired where
  sorted := paired.sorted.sublist (TimerQueue.entries_remove q key)
  found_iff := by
    intro key' slot
    rw [get?_remove, paired.entries_remove]
    simp only [List.mem_filter, decide_eq_true_eq]
    split
    next same =>
      constructor
      · intro h; cases h
      · rintro ⟨e, ⟨_, other⟩, here, _⟩
        exact absurd (here.trans same.symm) other
    next other =>
      rw [paired.found_iff]
      constructor
      · rintro ⟨e, he, here, there⟩
        exact ⟨e, ⟨he, fun h => other (h.symm.trans here)⟩, here, there⟩
      · rintro ⟨e, ⟨he, _⟩, here, there⟩
        exact ⟨e, he, here, there⟩
  earlier := by
    intro e he
    rw [nextSeq_remove]
    exact paired.earlier e ((TimerQueue.entries_remove q key).mem he)

/-! ## Scheduling -/

/-- An entry with a slot of its own is added in its place. -/
theorem place_perm {e : TimerEntry} : ∀ {es : List TimerEntry}, (∀ e' ∈ es, e'.slot ≠ e.slot) →
    (place e es).Perm (e :: es)
  | [], _ => .refl _
  | e' :: rest, fresh => by
    obtain ⟨other, fresh⟩ := List.forall_mem_cons.mp fresh
    unfold place
    split
    · exact .refl _
    · rw [if_neg other.symm]
      exact ((place_perm fresh).cons e').trans (.swap e e' rest)

/-- The entry that scheduling adds. -/
def scheduled (q : TimerQueue) (key : TimerKey) (deadline : UInt64) (event : TimerEvent) : TimerEntry :=
  { slot := { deadline, seq := q.nextSeq }, key, event }

/-- Scheduling replaces the entry of the key. -/
theorem Paired.perm_schedule (paired : q.Paired) (key : TimerKey) (deadline : UInt64)
    (event : TimerEvent) : (q.schedule key deadline event).entries.Perm
      (q.scheduled key deadline event :: q.entries.filter (·.key ≠ key)) := by
  have fresh : ∀ e' ∈ (q.remove key).entries, e'.slot ≠ (q.scheduled key deadline event).slot := by
    intro e' he' same
    have before := (paired.remove key).earlier e' he'
    rw [nextSeq_remove, same] at before
    exact UInt64.lt_irrefl _ before
  show (place ⟨⟨deadline, (q.remove key).nextSeq⟩, key, event⟩ (q.remove key).entries).Perm _
  rw [nextSeq_remove]
  exact (place_perm fresh).trans (paired.entries_remove key ▸ .refl _)

theorem Paired.schedule (paired : q.Paired) (deadline : UInt64) (event : TimerEvent)
    (few : q.nextSeq ≤ (q.schedule key deadline event).nextSeq) :
    (q.schedule key deadline event).Paired where
  sorted := sorted_place _ (paired.remove key).sorted
  found_iff := by
    intro key' slot
    rw [get?_schedule, nextSeq_remove]
    simp only [(paired.perm_schedule key deadline event).mem_iff, List.mem_cons, List.mem_filter,
      decide_eq_true_eq]
    split
    next same =>
      constructor
      · intro h; cases h
        exact ⟨_, .inl rfl, same, rfl⟩
      · rintro ⟨e, rfl | ⟨-, other⟩, here, rfl⟩
        · rfl
        · exact absurd (here.trans same.symm) other
    next other =>
      rw [paired.found_iff]
      constructor
      · rintro ⟨e, he, rfl, there⟩
        exact ⟨e, .inr ⟨he, Ne.symm other⟩, rfl, there⟩
      · rintro ⟨e, rfl | ⟨he, -⟩, here, there⟩
        · exact absurd here other
        · exact ⟨e, he, here, there⟩
  earlier := by
    intro e he
    rw [nextSeq_schedule] at few ⊢
    have next : q.nextSeq < q.nextSeq + 1 :=
      UInt64.lt_of_le_of_ne few fun same => by simp at same
    rcases List.mem_cons.mp ((paired.perm_schedule key deadline event).mem_iff.mp he) with rfl | he
    · exact next
    · exact UInt64.lt_trans (paired.earlier e (List.mem_filter.mp he).1) next

/-! ## Taking what is due -/

/-- A key leads no longer anywhere exactly if its entry was due. -/
theorem Paired.get?_takeDue (paired : q.Paired) (now : UInt64) (key : TimerKey) :
    (q.takeDue now).2.slots.get? key =
      (q.slots.get? key).filter fun slot => !slot.precedes ⟨saturatingAdd now 1, 0⟩ := by
  rw [TimerQueue.get?_takeDue, paired.sorted.takeWhile_isDue]
  cases found : q.slots.get? key with
  | none => split <;> rfl
  | some slot =>
    obtain ⟨e, he, hk, rfl⟩ := (paired.found_iff key slot).mp found
    split
    next due =>
      obtain ⟨d, hd, hk'⟩ := due
      obtain ⟨hd, due⟩ := List.mem_filter.mp hd
      obtain rfl := paired.eq_of_key_eq hd he (hk'.trans hk.symm)
      rw [isDue] at due
      rw [Option.filter_some, due]
      rfl
    next none =>
      have later : isDue now e = false := by
        rw [← Bool.not_eq_true]
        intro due
        exact none ⟨e, List.mem_filter.mpr ⟨he, due⟩, hk⟩
      rw [isDue] at later
      rw [Option.filter_some, later]
      rfl

theorem Paired.takeDue (paired : q.Paired) (now : UInt64) : (q.takeDue now).2.Paired where
  sorted := paired.sorted.sublist (List.dropWhile_sublist _)
  found_iff := by
    intro key slot
    show _ ↔ ∃ e ∈ q.entries.dropWhile (isDue now), e.key = key ∧ e.slot = slot
    rw [paired.get?_takeDue, paired.sorted.dropWhile_isDue, Option.filter_eq_some_iff,
      paired.found_iff]
    constructor
    · rintro ⟨⟨e, he, hk, rfl⟩, later⟩
      exact ⟨e, List.mem_filter.mpr ⟨he, later⟩, hk, rfl⟩
    · rintro ⟨e, he, hk, rfl⟩
      obtain ⟨he, later⟩ := List.mem_filter.mp he
      exact ⟨⟨e, he, hk, rfl⟩, later⟩
  earlier := by
    intro e he
    exact paired.earlier e ((List.dropWhile_sublist _).mem he)

/-! ## When a key is due -/

theorem contains_eq_isSome_deadlineOf (q : TimerQueue) (key : TimerKey) :
    q.contains key = (q.deadlineOf key).isSome := by
  unfold contains deadlineOf Assoc.contains
  cases q.slots.get? key <;> rfl

@[simp] theorem deadlineOf_remove (q : TimerQueue) (key key' : TimerKey) :
    (q.remove key).deadlineOf key' = if key = key' then none else q.deadlineOf key' := by
  unfold deadlineOf
  rw [get?_remove]
  split <;> rfl

@[simp] theorem deadlineOf_schedule (q : TimerQueue) (key key' : TimerKey) (deadline : UInt64)
    (event : TimerEvent) :
    (q.schedule key deadline event).deadlineOf key' =
      if key = key' then some deadline else q.deadlineOf key' := by
  unfold deadlineOf
  rw [get?_schedule]
  split <;> rfl

/-- The events taken are those whose deadline has come, except at the last time. -/
theorem Paired.mem_takeDue_iff_ne (paired : q.Paired) (sound : q.Sound) (now : UInt64) :
    event ∈ (q.takeDue now).1 ↔
      ∃ deadline, q.deadlineOf event.key = some deadline ∧ deadline ≤ now ∧ deadline ≠ lastTime := by
  unfold TimerQueue.takeDue deadlineOf
  dsimp only
  rw [paired.sorted.takeWhile_isDue]
  constructor
  · intro h
    obtain ⟨e, he, rfl⟩ := List.mem_map.mp h
    obtain ⟨he, due⟩ := List.mem_filter.mp he
    refine ⟨e.slot.deadline, ?_, isDue_iff_ne.mp due⟩
    rw [← sound.labelled e he, paired.found he]
    rfl
  · rintro ⟨deadline, pending, come⟩
    obtain ⟨slot, found, rfl⟩ := Option.map_eq_some_iff.mp pending
    obtain ⟨e, he, key, rfl⟩ := (paired.found_iff _ _).mp found
    have label : e.event = event := TimerEvent.key_inj.mp ((sound.labelled e he).symm.trans key)
    exact List.mem_map.mpr ⟨e, List.mem_filter.mpr ⟨he, isDue_iff_ne.mpr come⟩, label⟩

/-- Whatever the time, a timer that is not taken is still pending, and due when it was. -/
theorem Paired.stays_or_taken (paired : q.Paired) (sound : q.Sound)
    (before : q.deadlineOf event.key = some deadline) (now : UInt64) :
    (q.takeDue now).2.deadlineOf event.key = some deadline ∨ event ∈ (q.takeDue now).1 := by
  cases after : (q.takeDue now).2.contains event.key with
  | false =>
    refine .inr (mem_takeDue sound ?_ after)
    rw [contains_eq_isSome_deadlineOf, before]
    rfl
  | true =>
    refine .inl ?_
    unfold contains Assoc.contains at after
    unfold deadlineOf at before ⊢
    rw [paired.get?_takeDue] at after ⊢
    cases found : q.slots.get? event.key with
    | none => rw [found] at before; cases before
    | some slot =>
      rw [found] at before after
      rw [Option.filter_some] at after ⊢
      split at after
      next stays => rw [if_pos stays]; exact before
      next => cases after

end TimerQueue

end ClickGrant
