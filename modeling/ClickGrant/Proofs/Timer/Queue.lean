import ClickGrant.Proofs.Timer.Keys
import ClickGrant.Timer.Queue

/-!
# What a timer queue keeps

`TimerQueue.Sound` is what scheduling, removing and taking keep: entries stand in the order of
their slots, a key leads to the slot of its entry, and the key of an entry is the key of its event.
It needs no bound on how often something has been scheduled: when the count of schedulings wraps
around, a timer may replace another one of the same slot, but no entry is left behind that its key
does not lead to.

The lemmas on `slots` say which keys are pending after each operation.
-/
set_option autoImplicit false

namespace ClickGrant

namespace Slot

theorem precedes_iff {a b : Slot} :
    a.precedes b = true ↔ a.deadline < b.deadline ∨ a.deadline = b.deadline ∧ a.seq < b.seq := by
  simp [precedes]

theorem not_precedes_self (a : Slot) : ¬a.precedes a = true := by
  rw [precedes_iff]
  intro h
  rcases h with h | ⟨-, h⟩
  · exact UInt64.lt_irrefl _ h
  · exact UInt64.lt_irrefl _ h

theorem precedes_trans {a b c : Slot} (hab : a.precedes b = true) (hbc : b.precedes c = true) :
    a.precedes c = true := by
  rw [precedes_iff] at *
  rcases hab with hab | ⟨hab, sab⟩
  · rcases hbc with hbc | ⟨hbc, -⟩
    · exact .inl (UInt64.lt_trans hab hbc)
    · exact .inl (hbc ▸ hab)
  · rcases hbc with hbc | ⟨hbc, sbc⟩
    · exact .inl (hab ▸ hbc)
    · exact .inr ⟨hab.trans hbc, UInt64.lt_trans sab sbc⟩

/-- Two slots that are not the same stand in one order or the other. -/
theorem precedes_of_not {a b : Slot} (h : ¬a.precedes b = true) (ne : a ≠ b) : b.precedes a = true := by
  rw [precedes_iff] at *
  by_cases same : a.deadline = b.deadline
  · have seq : a.seq ≠ b.seq := by
      intro e
      exact ne (by cases a; cases b; simp_all)
    have : ¬a.seq < b.seq := fun lt => h (.inr ⟨same, lt⟩)
    exact .inr ⟨same.symm, UInt64.lt_of_le_of_ne (UInt64.not_lt.mp this) seq.symm⟩
  · have : ¬a.deadline < b.deadline := fun lt => h (.inl lt)
    exact .inl (UInt64.lt_of_le_of_ne (UInt64.not_lt.mp this) (Ne.symm same))

end Slot

namespace TimerQueue

variable {q : TimerQueue} {key key' : TimerKey} {deadline now : UInt64} {event : TimerEvent}

/-- Entries in the order of their slots. -/
def Sorted (entries : List TimerEntry) : Prop :=
  entries.Pairwise fun a b => a.slot.precedes b.slot = true

/-- What the operations on a queue keep. -/
structure Sound (q : TimerQueue) : Prop where
  sorted : Sorted q.entries
  indexed : ∀ e ∈ q.entries, q.slots.get? e.key = some e.slot
  labelled : ∀ e ∈ q.entries, e.key = e.event.key

/-! ## Which keys are pending -/

theorem get?_remove (q : TimerQueue) (key key' : TimerKey) :
    (q.remove key).slots.get? key' = if key = key' then none else q.slots.get? key' := by
  unfold remove
  split
  next absent =>
    split
    next same => rw [← same, absent]
    next => rfl
  next => exact Assoc.get?_erase ..

theorem get?_schedule (q : TimerQueue) (key key' : TimerKey) (deadline : UInt64) (event : TimerEvent) :
    (q.schedule key deadline event).slots.get? key' =
      if key = key' then some ⟨deadline, (q.remove key).nextSeq⟩ else q.slots.get? key' := by
  show ((q.remove key).slots.set key _).get? key' = _
  rw [Assoc.get?_set, get?_remove]
  split <;> rfl

theorem get?_foldl_erase (key : TimerKey) : ∀ (es : List TimerEntry) (slots : Assoc TimerKey Slot),
    (es.foldl (fun m e => m.erase e.key) slots).get? key =
      if ∃ e ∈ es, e.key = key then none else slots.get? key
  | [], slots => by simp
  | e :: rest, slots => by
    rw [List.foldl_cons, get?_foldl_erase key rest, Assoc.get?_erase]
    by_cases here : e.key = key
    · simp [here]
    · simp [here]

theorem get?_takeDue (q : TimerQueue) (now : UInt64) (key : TimerKey) :
    (q.takeDue now).2.slots.get? key =
      if ∃ e ∈ q.entries.takeWhile (isDue now), e.key = key then none else q.slots.get? key :=
  get?_foldl_erase key _ _

@[simp] theorem contains_remove (q : TimerQueue) (key key' : TimerKey) :
    (q.remove key).contains key' = (decide (key ≠ key') && q.contains key') := by
  unfold contains Assoc.contains
  rw [get?_remove]
  by_cases same : key = key' <;> simp [same]

@[simp] theorem contains_schedule (q : TimerQueue) (key key' : TimerKey) (deadline : UInt64)
    (event : TimerEvent) :
    (q.schedule key deadline event).contains key' = (decide (key = key') || q.contains key') := by
  unfold contains Assoc.contains
  rw [get?_schedule]
  by_cases same : key = key' <;> simp [same]

/-- A key is pending after the due timers were taken if it was, unless it is among them. -/
theorem contains_takeDue (q : TimerQueue) (now : UInt64) (key : TimerKey) :
    (q.takeDue now).2.contains key = true ↔
      q.contains key = true ∧ ∀ e ∈ q.entries.takeWhile (isDue now), e.key ≠ key := by
  unfold contains Assoc.contains
  rw [get?_takeDue]
  split
  next h =>
    obtain ⟨e, due, hk⟩ := h
    simp only [Option.isSome_none, Bool.false_eq_true, false_iff]
    intro h
    exact h.2 e due hk
  next h =>
    simp only [iff_self_and]
    intro _ e due hk
    exact h ⟨e, due, hk⟩

/-! ## What is kept -/

theorem sound_empty : empty.Sound where
  sorted := List.Pairwise.nil
  indexed := by intro e he; cases he
  labelled := by intro e he; cases he

/-- What stays when a key is removed has another key. -/
theorem mem_remove (sound : q.Sound) {e : TimerEntry} (he : e ∈ (q.remove key).entries) :
    e ∈ q.entries ∧ e.key ≠ key := by
  unfold remove at he
  split at he
  next absent =>
    refine ⟨he, fun hk => ?_⟩
    have found := sound.indexed e he
    rw [hk, absent] at found
    cases found
  next slot present =>
    simp only [List.mem_filter, decide_eq_true_eq] at he
    refine ⟨he.1, fun hk => he.2 ?_⟩
    have found := sound.indexed e he.1
    rw [hk, present] at found
    exact (Option.some.inj found).symm

theorem entries_remove (q : TimerQueue) (key : TimerKey) :
    (q.remove key).entries.Sublist q.entries := by
  unfold remove
  split
  · exact List.Sublist.refl _
  · exact List.filter_sublist

theorem sound_remove (key : TimerKey) (sound : q.Sound) : (q.remove key).Sound where
  sorted := sound.sorted.sublist (entries_remove q key)
  indexed := by
    intro e he
    obtain ⟨he, hk⟩ := mem_remove sound he
    rw [get?_remove, if_neg hk.symm]
    exact sound.indexed e he
  labelled := by
    intro e he
    exact sound.labelled e (mem_remove sound he).1

theorem mem_place {e e' : TimerEntry} : ∀ {es : List TimerEntry},
    e' ∈ place e es → e' = e ∨ e' ∈ es
  | [], h => by simpa [place] using h
  | e'' :: rest, h => by
    unfold place at h
    split at h
    · exact List.mem_cons.mp h
    · split at h
      · rcases List.mem_cons.mp h with h | h
        · exact .inl h
        · exact .inr (.tail _ h)
      · rcases List.mem_cons.mp h with h | h
        · exact .inr (h ▸ .head _)
        · exact (mem_place h).imp_right (.tail _)

/-- Where neither the placed entry nor the one that it takes the slot of is asked for, it makes no
difference that it was placed. -/
theorem filter_place {e : TimerEntry} {p : TimerEntry → Bool} (apart : p e = false) :
    ∀ {es : List TimerEntry}, (∀ e' ∈ es, e'.slot = e.slot → p e' = false) → (place e es).filter p = es.filter p
  | [], _ => by simp [place, apart]
  | e' :: rest, alike => by
    obtain ⟨first, others⟩ := List.forall_mem_cons.mp alike
    unfold place
    split
    · rw [List.filter_cons_of_neg (by simp [apart])]
    · split
      next same =>
        rw [List.filter_cons_of_neg (by simp [apart]), List.filter_cons_of_neg (by simp [first same.symm])]
      next => rw [List.filter_cons, List.filter_cons, filter_place apart others]

theorem sorted_place (e : TimerEntry) : ∀ {es : List TimerEntry}, Sorted es → Sorted (place e es)
  | [], _ => List.pairwise_singleton _ _
  | e' :: rest, h => by
    obtain ⟨first, sorted⟩ := List.pairwise_cons.mp h
    unfold place
    split
    next before =>
      refine List.pairwise_cons.mpr ⟨fun b hb => ?_, h⟩
      rcases List.mem_cons.mp hb with rfl | hb
      · exact before
      · exact Slot.precedes_trans before (first b hb)
    next notBefore =>
      split
      next same => exact List.pairwise_cons.mpr ⟨fun b hb => same ▸ first b hb, sorted⟩
      next ne =>
        -- an entry that the new one does not stand before stands before the new one
        refine List.pairwise_cons.mpr ⟨fun b hb => ?_, sorted_place e sorted⟩
        rcases mem_place hb with rfl | hb
        · exact Slot.precedes_of_not notBefore ne
        · exact first b hb

/-- Scheduling under the key of the event. -/
theorem sound_schedule (deadline : UInt64) (event : TimerEvent) (sound : q.Sound) :
    (q.schedule event.key deadline event).Sound where
  sorted := sorted_place _ (sound_remove _ sound).sorted
  indexed := by
    intro e he
    rw [get?_schedule]
    rcases mem_place he with rfl | he
    · exact if_pos rfl
    · obtain ⟨he, hk⟩ := mem_remove sound he
      rw [if_neg hk.symm]
      exact sound.indexed e he
  labelled := by
    intro e he
    rcases mem_place he with rfl | he
    · rfl
    · exact sound.labelled e (mem_remove sound he).1

/-- In a sorted queue no entry that stays has the slot of one that is due. -/
theorem slot_ne_of_takeWhile (sound : q.Sound) {e d : TimerEntry}
    (he : e ∈ q.entries.dropWhile (isDue now)) (hd : d ∈ q.entries.takeWhile (isDue now)) :
    d.slot ≠ e.slot := by
  have sorted := sound.sorted
  rw [Sorted, ← List.takeWhile_append_dropWhile (p := isDue now) (l := q.entries),
    List.pairwise_append] at sorted
  -- every due entry stands strictly before every one that stays
  intro same
  exact Slot.not_precedes_self _ (same ▸ sorted.2.2 d hd e he)

theorem sound_takeDue (now : UInt64) (sound : q.Sound) : (q.takeDue now).2.Sound where
  sorted := sound.sorted.sublist (List.dropWhile_sublist _)
  indexed := by
    intro e he
    have found := sound.indexed e ((List.dropWhile_sublist _).mem he)
    rw [get?_takeDue, if_neg, found]
    -- a due entry under the same key would stand in the same slot
    intro ⟨d, hd, hk⟩
    have other := sound.indexed d ((List.takeWhile_sublist _).mem hd)
    rw [hk, found] at other
    exact slot_ne_of_takeWhile sound he hd (Option.some.inj other).symm
  labelled := by
    intro e he
    exact sound.labelled e ((List.dropWhile_sublist _).mem he)

/-- A key that is pending no longer after the due timers were taken has had its event taken. -/
theorem mem_takeDue (sound : q.Sound) {event : TimerEvent} (before : q.contains event.key = true)
    (after : (q.takeDue now).2.contains event.key = false) : event ∈ (q.takeDue now).1 := by
  rw [← Bool.not_eq_true, contains_takeDue] at after
  by_cases h : ∃ e ∈ q.entries.takeWhile (isDue now), e.key = event.key
  · obtain ⟨e, due, hk⟩ := h
    rw [sound.labelled e ((List.takeWhile_sublist _).mem due), TimerEvent.key_inj] at hk
    exact List.mem_map.mpr ⟨e, due, hk⟩
  · exact absurd ⟨before, fun e due hk => h ⟨e, due, hk⟩⟩ after

/-- An entry of the queue is pending under the key of its event. -/
theorem contains_of_mem (sound : q.Sound) {e : TimerEntry} (he : e ∈ q.entries) :
    q.contains e.event.key = true := by
  unfold contains Assoc.contains
  rw [← sound.labelled e he, sound.indexed e he]
  rfl

end TimerQueue

end ClickGrant
