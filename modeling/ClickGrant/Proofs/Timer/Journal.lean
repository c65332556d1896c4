import ClickGrant.Proofs.Timer.Index

/-!
# Journals of a timer queue

A journal lists what has happened to a queue of timers, the latest first: entries are scheduled and
cancelled, what is due is taken at some time, and what was taken is fired. An entry is `Awaited` if
it was scheduled, and since then neither replaced nor cancelled, nor taken as due.

`Kept journal due now` says that a journal could be that of a keeper of timers who makes no mistake:
it numbers the schedulings, answers truly whether there was something to cancel, takes all that is
awaited and due, and fires it in the order of the slots before anything is taken again. `due` is what
is still to be fired of what was taken at the time `now`. What is proved of all journals that are
kept:
  1. `Kept.once` — nothing is fired twice, nor before it was scheduled.
  2. `Kept.come` — nothing is fired before its deadline.
  3. `Kept.withdrawn` — what is replaced or cancelled while it is awaited is not fired any more.
  4. `Kept.complete`, `Kept.ordered` — what is awaited and due at the time of a pass is fired in it,
     and what is fired in one pass is fired in the order of the slots.
  5. `Kept.punctual` — so the journal is `Punctual` when nothing is left to be fired.

`Reports` ties a journal to a queue: what is awaited is what is pending. The journal of a queue is
kept as long as fewer than 2^64 timers have been scheduled (`Reports.schedule`) and nothing is taken
at the last time (`Reports.take`).
-/
set_option autoImplicit false

namespace ClickGrant

/-- Something that happens to a queue of timers. -/
inductive TimerNote where
  | scheduled (e : TimerEntry)
  /-- A key is cancelled, and there was an entry under it or not. -/
  | cancelled (key : TimerKey) (found : Bool)
  /-- What is due at this time is taken out of the queue. -/
  | taken (now : UInt64)
  /-- An entry's event is handed over at this time. -/
  | fired (e : TimerEntry) (now : UInt64)
  deriving DecidableEq, Repr

namespace TimerNote

/-- Somebody replaces or cancels the entry, if it is pending. -/
def Withdraws (e : TimerEntry) : TimerNote → Prop
  | .scheduled e' => e'.key = e.key
  | .cancelled key found => key = e.key ∧ found = true
  | _ => False

/-- After this the entry is no longer pending. -/
def Settles (e : TimerEntry) : TimerNote → Prop
  | .taken now => e.slot.deadline ≤ now
  | note => note.Withdraws e

theorem Withdraws.settles {e : TimerEntry} {note : TimerNote} (withdraws : note.Withdraws e) :
    note.Settles e := by
  cases note with
  | taken => cases withdraws
  | _ => exact withdraws

end TimerNote

namespace Journal

/-- The entries that were scheduled. -/
def scheduled : List TimerNote → List TimerEntry
  | [] => []
  | .scheduled e :: past => e :: scheduled past
  | .cancelled .. :: past => scheduled past
  | .taken _ :: past => scheduled past
  | .fired .. :: past => scheduled past

/-- The entries that were fired. -/
def fired : List TimerNote → List TimerEntry
  | [] => []
  | .scheduled _ :: past => fired past
  | .cancelled .. :: past => fired past
  | .taken _ :: past => fired past
  | .fired e _ :: past => e :: fired past

/-- The entry was scheduled and has not been settled since. -/
def Awaited : List TimerNote → TimerEntry → Prop
  | [], _ => False
  | note :: past, e => note = .scheduled e ∨ (Awaited past e ∧ ¬note.Settles e)

/-- Nothing was taken. -/
def OnePass (between : List TimerNote) : Prop := ∀ now, .taken now ∉ between

/-- The journal of somebody who makes no mistake. -/
inductive Kept : List TimerNote → List TimerEntry → UInt64 → Prop where
  | start : Kept [] [] 0
  | scheduled {j : List TimerNote} {due : List TimerEntry} {now : UInt64} {e : TimerEntry}
      (kept : Kept j due now) (latest : ∀ e' ∈ scheduled j, e'.slot.seq < e.slot.seq) :
      Kept (.scheduled e :: j) due now
  | cancelled {j : List TimerNote} {due : List TimerEntry} {now : UInt64} {key : TimerKey} {found : Bool}
      (kept : Kept j due now) (answer : found = true ↔ ∃ e, Awaited j e ∧ e.key = key) :
      Kept (.cancelled key found :: j) due now
  | taken {j : List TimerNote} {due : List TimerEntry} {before now : UInt64} (kept : Kept j [] before)
      (sorted : TimerQueue.Sorted due) (all : ∀ e, e ∈ due ↔ Awaited j e ∧ e.slot.deadline ≤ now) :
      Kept (.taken now :: j) due now
  | fired {j : List TimerNote} {due : List TimerEntry} {now : UInt64} {e : TimerEntry}
      (kept : Kept j (e :: due) now) : Kept (.fired e now :: j) due now

variable {j past later : List TimerNote} {due : List TimerEntry} {now time : UInt64} {e e' : TimerEntry}
  {note : TimerNote}

theorem Awaited.scheduled : ∀ {j : List TimerNote}, Awaited j e → e ∈ scheduled j
  | note :: past, awaited => by
    rcases awaited with rfl | ⟨before, -⟩
    · exact List.mem_cons_self
    · have older := before.scheduled
      cases note with
      | scheduled e' => exact List.mem_cons_of_mem e' older
      | _ => exact older

theorem Awaited.before (awaited : Awaited (note :: past) e) (other : note ≠ .scheduled e) : Awaited past e :=
  (awaited.resolve_left other).1

/-- What has been scheduled stays scheduled. -/
theorem scheduled_append : ∀ (later : List TimerNote), e ∈ scheduled past → e ∈ scheduled (later ++ past)
  | [], before => before
  | .scheduled e' :: later, before => List.mem_cons_of_mem e' (scheduled_append later before)
  | .cancelled .. :: later, before => scheduled_append later before
  | .taken _ :: later, before => scheduled_append later before
  | .fired .. :: later, before => scheduled_append later before

namespace Kept

/-- Every part of a journal up to some time was kept. -/
theorem earlier : ∀ {later : List TimerNote} {due : List TimerEntry} {now : UInt64},
    Kept (later ++ past) due now → ∃ due now, Kept past due now
  | [], due, now, kept => ⟨due, now, kept⟩
  | _ :: _, _, _, kept => by
    cases kept with
    | scheduled kept => exact earlier kept
    | cancelled kept => exact earlier kept
    | taken kept => exact earlier kept
    | fired kept => exact earlier kept

theorem numbered (kept : Kept j due now) : (Journal.scheduled j).Pairwise fun a b => b.slot.seq < a.slot.seq := by
  induction kept with
  | start => exact .nil
  | scheduled _ latest ih => exact List.pairwise_cons.mpr ⟨latest, ih⟩
  | cancelled _ _ ih => exact ih
  | taken _ _ _ ih => exact ih
  | fired _ ih => exact ih

/-- What was taken together is in the order of the slots, and due. -/
theorem sorted (kept : Kept j due now) : TimerQueue.Sorted due ∧ ∀ e ∈ due, e.slot.deadline ≤ now := by
  induction kept with
  | start => exact ⟨.nil, nofun⟩
  | scheduled _ _ ih => exact ih
  | cancelled _ _ ih => exact ih
  | taken _ sorted all => exact ⟨sorted, fun e he => ((all e).mp he).2⟩
  | fired _ ih =>
    exact ⟨(List.pairwise_cons.mp ih.1).2, fun e he => ih.2 e (List.mem_cons_of_mem _ he)⟩

theorem come (kept : Kept j due now) : ∀ e time, .fired e time ∈ j → e.slot.deadline ≤ time := by
  induction kept with
  | start => nofun
  | scheduled _ _ ih => exact fun e time there => ih e time ((List.mem_cons.mp there).resolve_left nofun)
  | cancelled _ _ ih => exact fun e time there => ih e time ((List.mem_cons.mp there).resolve_left nofun)
  | taken _ _ _ ih => exact fun e time there => ih e time ((List.mem_cons.mp there).resolve_left nofun)
  | fired kept ih =>
    intro e time there
    rcases List.mem_cons.mp there with same | before
    · cases same
      exact kept.sorted.2 _ List.mem_cons_self
    · exact ih e time before

/-- A new entry is none of those that were scheduled before. -/
theorem ne_of_latest (latest : ∀ e' ∈ Journal.scheduled j, e'.slot.seq < e.slot.seq)
    (before : e' ∈ Journal.scheduled j) : e ≠ e' := by
  rintro rfl
  exact UInt64.lt_irrefl _ (latest _ before)

/-- What is to be fired and what was fired are different entries; they were scheduled, and are not
awaited any more. -/
theorem once (kept : Kept j due now) : (due ++ Journal.fired j).Nodup ∧
    ∀ e ∈ due ++ Journal.fired j, e ∈ Journal.scheduled j ∧ ¬Awaited j e := by
  induction kept with
  | start => exact ⟨.nil, nofun⟩
  | @scheduled j due now e kept latest ih =>
    refine ⟨ih.1, fun e' he' => ?_⟩
    obtain ⟨before, gone⟩ := ih.2 e' he'
    have other : TimerNote.scheduled e ≠ .scheduled e' :=
      fun same => ne_of_latest latest before (TimerNote.scheduled.inj same)
    exact ⟨List.mem_cons_of_mem e before, fun awaited => gone (awaited.before other)⟩
  | cancelled _ _ ih =>
    exact ⟨ih.1, fun e he => ⟨(ih.2 e he).1, fun awaited => (ih.2 e he).2 (awaited.before nofun)⟩⟩
  | @taken j due before now kept sorted all ih =>
    rw [List.nil_append] at ih
    have distinct : due.Nodup := sorted.nodup_slots.of_map
    have apart : ∀ e ∈ due, e ∉ Journal.fired j := fun e he hfired => (ih.2 e hfired).2 ((all e).mp he).1
    refine ⟨List.nodup_append.mpr ⟨distinct, ih.1, ?_⟩, fun e he => ?_⟩
    · rintro e he _ hfired rfl
      exact apart e he hfired
    · rcases List.mem_append.mp he with he | he
      · obtain ⟨awaited, come⟩ := (all e).mp he
        refine ⟨awaited.scheduled, ?_⟩
        rintro (⟨⟨⟩⟩ | ⟨-, stays⟩)
        exact stays come
      · exact ⟨(ih.2 e he).1, fun awaited => (ih.2 e he).2 (awaited.before nofun)⟩
  | @fired j due now e kept ih =>
    -- the entry moves from what is to be fired to what was fired
    have same : (due ++ Journal.fired (.fired e now :: j)).Perm (e :: due ++ Journal.fired j) :=
      List.perm_middle
    refine ⟨same.nodup_iff.mpr ih.1, fun e' he' => ?_⟩
    obtain ⟨before, gone⟩ := ih.2 e' (same.mem_iff.mp he')
    exact ⟨before, fun awaited => gone (awaited.before nofun)⟩

/-- What is awaited is neither to be fired nor was it fired. -/
theorem not_mem_of_awaited (kept : Kept j due now) (awaited : Awaited j e) : e ∉ due ++ Journal.fired j :=
  fun there => (kept.once.2 e there).2 awaited

/-- What is withdrawn while it is awaited is over. -/
theorem withdrawn (awaited : Awaited past e) (withdraws : note.Withdraws e) :
    ∀ {later : List TimerNote} {due : List TimerEntry} {now : UInt64}, Kept (later ++ note :: past) due now →
      ¬Awaited (later ++ note :: past) e ∧ e ∉ due ∧ ∀ time, .fired e time ∉ later
  | [], due, now, kept => by
    have before := awaited.scheduled
    have settled (other : note ≠ .scheduled e) : ¬Awaited (note :: past) e := by
      rintro (same | ⟨-, stays⟩)
      · exact other same
      · exact stays withdraws.settles
    cases kept with
    | scheduled kept latest =>
      have other := ne_of_latest latest before
      exact ⟨settled fun same => other (TimerNote.scheduled.inj same),
        fun there => kept.not_mem_of_awaited awaited (List.mem_append_left _ there), nofun⟩
    | cancelled kept =>
      exact ⟨settled nofun, fun there => kept.not_mem_of_awaited awaited (List.mem_append_left _ there), nofun⟩
    | taken => cases withdraws
    | fired => cases withdraws
  | x :: later, due, now, kept => by
    have unfired (never : ∀ time, .fired e time ∉ later) (other : ∀ time, x ≠ .fired e time) :
        ∀ time, .fired e time ∉ x :: later :=
      fun time there => never time ((List.mem_cons.mp there).resolve_left (other time).symm)
    cases kept with
    | scheduled kept latest =>
      obtain ⟨gone, spared, never⟩ := withdrawn awaited withdraws kept
      have before : e ∈ Journal.scheduled (later ++ note :: past) :=
        scheduled_append later (scheduled_append [note] awaited.scheduled)
      have other := ne_of_latest latest before
      exact ⟨fun awaited => gone (awaited.before fun same => other (TimerNote.scheduled.inj same)), spared,
        unfired never nofun⟩
    | cancelled kept =>
      obtain ⟨gone, spared, never⟩ := withdrawn awaited withdraws kept
      exact ⟨fun awaited => gone (awaited.before nofun), spared, unfired never nofun⟩
    | taken kept _ all =>
      obtain ⟨gone, -, never⟩ := withdrawn awaited withdraws kept
      exact ⟨fun awaited => gone (awaited.before nofun), fun there => gone ((all e).mp there).1,
        unfired never nofun⟩
    | fired kept =>
      obtain ⟨gone, spared, never⟩ := withdrawn awaited withdraws kept
      obtain ⟨other, spared⟩ := not_or.mp (List.mem_cons.not.mp spared)
      exact ⟨fun awaited => gone (awaited.before nofun), spared,
        unfired never fun _ same => other (TimerNote.fired.inj same).1.symm⟩

/-- What is awaited and due at the time of a pass is fired in it, or is still to be. -/
theorem complete (awaited : Awaited past e) (due_now : e.slot.deadline ≤ time) :
    ∀ {later : List TimerNote} {due : List TimerEntry} {now : UInt64},
      Kept (later ++ .taken time :: past) due now →
        (∃ after between, later = after ++ .fired e time :: between ∧ OnePass between) ∨
          (OnePass later ∧ e ∈ due ∧ now = time)
  | [], due, now, kept => by
    cases kept with
    | taken _ _ all => exact .inr ⟨nofun, (all e).mpr ⟨awaited, due_now⟩, rfl⟩
  | x :: later, due, now, kept => by
    -- once it was fired, what happens after that makes no difference
    have settled (fires : ∃ after between, later = after ++ .fired e time :: between ∧ OnePass between) :
        ∃ after between, x :: later = after ++ .fired e time :: between ∧ OnePass between := by
      obtain ⟨after, between, rfl, one⟩ := fires
      exact ⟨x :: after, between, rfl, one⟩
    have more (other : ∀ t, x ≠ .taken t) (one : OnePass later) : OnePass (x :: later) := by
      intro t there
      rcases List.mem_cons.mp there with same | there
      · exact other t same.symm
      · exact one t there
    cases kept with
    | scheduled kept =>
      rcases complete awaited due_now kept with fires | ⟨one, there, same⟩
      · exact .inl (settled fires)
      · exact .inr ⟨more nofun one, there, same⟩
    | cancelled kept =>
      rcases complete awaited due_now kept with fires | ⟨one, there, same⟩
      · exact .inl (settled fires)
      · exact .inr ⟨more nofun one, there, same⟩
    | taken kept =>
      rcases complete awaited due_now kept with fires | ⟨-, there, -⟩
      · exact .inl (settled fires)
      · cases there
    | fired kept =>
      rcases complete awaited due_now kept with fires | ⟨one, there, rfl⟩
      · exact .inl (settled fires)
      · rcases List.mem_cons.mp there with rfl | there
        · exact .inl ⟨[], later, rfl, one⟩
        · exact .inr ⟨more nofun one, there, rfl⟩

/-- What is still to be fired in a pass comes after what was fired in it. -/
theorem ordered : ∀ {between : List TimerNote} {due : List TimerEntry} {now : UInt64},
    Kept (between ++ .fired e time :: past) due now → OnePass between →
      ∀ e' ∈ due, e.slot.precedes e'.slot = true
  | [], _, _, kept, _ => by
    cases kept with
    | fired kept => exact (List.pairwise_cons.mp kept.sorted.1).1
  | x :: between, due, now, kept, one => by
    have fewer : OnePass between := fun t there => one t (List.mem_cons_of_mem x there)
    cases kept with
    | scheduled kept => exact ordered kept fewer
    | cancelled kept => exact ordered kept fewer
    | taken => exact absurd List.mem_cons_self (one now)
    | fired kept => exact fun e' he' => ordered kept fewer e' (List.mem_cons_of_mem _ he')

end Kept

/-! ## Punctuality -/

/-- Timers are fired at the right time, in the right order, once, and only if nobody has withdrawn
them. -/
structure Punctual (j : List TimerNote) : Prop where
  /-- Later schedulings have higher numbers. -/
  numbered : (scheduled j).Pairwise fun a b => b.slot.seq < a.slot.seq
  once : (fired j).Nodup
  /-- What is fired was scheduled before. -/
  known : ∀ later e now past, j = later ++ .fired e now :: past → e ∈ scheduled past
  /-- Nothing is fired early. -/
  come : ∀ e now, .fired e now ∈ j → e.slot.deadline ≤ now
  /-- Whoever cancels a key is told whether something was pending under it. -/
  answered : ∀ later key found past, j = later ++ .cancelled key found :: past →
    (found = true ↔ ∃ e, Awaited past e ∧ e.key = key)
  /-- What was replaced or cancelled while it was pending is not fired after that. -/
  withdrawn : ∀ later note past e, j = later ++ note :: past → Awaited past e → note.Withdraws e →
    ∀ now, .fired e now ∉ later
  /-- A pass fires everything that is pending and due. -/
  complete : ∀ later now past e, j = later ++ .taken now :: past → Awaited past e → e.slot.deadline ≤ now →
    ∃ after between, later = after ++ .fired e now :: between ∧ OnePass between
  /-- What is fired in one pass is fired by deadline, and then in the order of scheduling. -/
  ordered : ∀ later e' now' between e now past,
    j = later ++ .fired e' now' :: (between ++ .fired e now :: past) → OnePass between →
      e.slot.precedes e'.slot = true

theorem Kept.punctual (kept : Kept j [] now) : Punctual j where
  numbered := kept.numbered
  once := by
    have once := kept.once.1
    rwa [List.nil_append] at once
  known := by
    rintro later e time past rfl
    obtain ⟨_, _, upTo⟩ := kept.earlier
    cases upTo with
    | fired before => exact (before.once.2 e List.mem_cons_self).1
  come := kept.come
  answered := by
    rintro later key found past rfl
    obtain ⟨_, _, upTo⟩ := kept.earlier
    cases upTo with
    | cancelled _ answer => exact answer
  withdrawn := by
    rintro later note past e rfl awaited withdraws
    exact (kept.withdrawn awaited withdraws).2.2
  complete := by
    rintro later time past e rfl awaited come
    rcases kept.complete awaited come with fires | ⟨-, there, -⟩
    · exact fires
    · cases there
  ordered := by
    rintro later e' now' between e now past rfl one
    obtain ⟨_, _, upTo⟩ := kept.earlier
    cases upTo with
    | fired before => exact before.ordered one e' List.mem_cons_self

/-! ## The journal of a queue -/

/-- The count of schedulings has not wrapped around. -/
def Few (j : List TimerNote) : Prop := (scheduled j).length < UInt64.size

instance (j : List TimerNote) : Decidable (Few j) := inferInstanceAs (Decidable (_ < _))

/-- The journal is that of the queue: `due` was taken out of it at the time `now` and has not been
fired yet. -/
structure Reports (j : List TimerNote) (q : TimerQueue) (due : List TimerEntry) (now : UInt64) : Prop where
  kept : Kept j due now
  paired : q.Paired
  pending : ∀ e, e ∈ q.entries ↔ Awaited j e
  counted : q.nextSeq.toNat = (scheduled j).length
  earlier : ∀ e ∈ scheduled j, e.slot.seq < q.nextSeq

namespace Reports

variable {q : TimerQueue}

theorem start : Reports [] .empty [] 0 where
  kept := .start
  paired := TimerQueue.paired_empty
  pending := fun _ => List.mem_nil_iff _
  counted := rfl
  earlier := nofun

theorem schedule (reports : Reports j q due now) (key : TimerKey) (deadline : UInt64) (event : TimerEvent)
    (few : Few (.scheduled (q.scheduled key deadline event) :: j)) :
    Reports (.scheduled (q.scheduled key deadline event) :: j) (q.schedule key deadline event) due now := by
  -- the next slot does not wrap around
  have few : (scheduled j).length + 1 < UInt64.size := few
  have counted : (q.nextSeq + 1).toNat = q.nextSeq.toNat + 1 :=
    toNat_add_ofNat (by rw [reports.counted]; exact few)
  have next : q.nextSeq < q.nextSeq + 1 := by
    rw [UInt64.lt_iff_toNat_lt, counted]
    exact Nat.lt_succ_self _
  refine ⟨.scheduled reports.kept reports.earlier, ?_, fun e => ?_, ?_, fun e he => ?_⟩
  · refine reports.paired.schedule deadline event ?_
    rw [TimerQueue.nextSeq_schedule]
    exact UInt64.le_of_lt next
  · rw [(reports.paired.perm_schedule key deadline event).mem_iff, List.mem_cons, List.mem_filter,
      decide_eq_true_eq, reports.pending]
    exact or_congr ⟨fun same => same ▸ rfl, fun same => (TimerNote.scheduled.inj same).symm⟩
      (and_congr_right fun _ => not_congr eq_comm)
  · rw [TimerQueue.nextSeq_schedule, counted, reports.counted]
    rfl
  · rw [TimerQueue.nextSeq_schedule]
    rcases List.mem_cons.mp he with rfl | he
    · exact next
    · exact UInt64.lt_trans (reports.earlier e he) next

theorem cancel (reports : Reports j q due now) (key : TimerKey) :
    Reports (.cancelled key (q.cancel key).1 :: j) (q.cancel key).2 due now := by
  have found_iff : (q.cancel key).1 = true ↔ ∃ e ∈ q.entries, e.key = key := by
    show (q.slots.get? key).isSome = true ↔ _
    rw [Option.isSome_iff_exists]
    constructor
    · rintro ⟨slot, found⟩
      obtain ⟨e, he, same, -⟩ := (reports.paired.found_iff key slot).mp found
      exact ⟨e, he, same⟩
    · rintro ⟨e, he, rfl⟩
      exact ⟨e.slot, reports.paired.found he⟩
  refine ⟨.cancelled reports.kept ?_, reports.paired.remove key, fun e => ?_, ?_, ?_⟩
  · simp only [found_iff, reports.pending]
  · show e ∈ (q.remove key).entries ↔ _
    rw [reports.paired.entries_remove, List.mem_filter, decide_eq_true_eq, reports.pending]
    constructor
    · rintro ⟨awaited, other⟩
      exact .inr ⟨awaited, fun ⟨same, _⟩ => other same.symm⟩
    · rintro (⟨⟨⟩⟩ | ⟨awaited, stays⟩)
      refine ⟨awaited, fun same => stays ⟨same.symm, ?_⟩⟩
      exact found_iff.mpr ⟨e, (reports.pending e).mpr awaited, same⟩
  · exact (congrArg UInt64.toNat (TimerQueue.nextSeq_remove q key)).trans reports.counted
  · show ∀ e ∈ scheduled j, e.slot.seq < (q.remove key).nextSeq
    rw [TimerQueue.nextSeq_remove]
    exact reports.earlier

theorem take (reports : Reports j q [] time) (early : now < lastTime) :
    Reports (.taken now :: j) (q.takeDue now).2 (q.entries.takeWhile (TimerQueue.isDue now)) now := by
  have sorted := reports.paired.sorted
  refine ⟨.taken reports.kept (sorted.sublist (List.takeWhile_sublist _)) fun e => ?_,
    reports.paired.takeDue now, fun e => ?_, reports.counted, reports.earlier⟩
  · rw [sorted.takeWhile_isDue, List.mem_filter, reports.pending, TimerQueue.isDue_iff early]
  · show e ∈ q.entries.dropWhile (TimerQueue.isDue now) ↔ _
    rw [sorted.dropWhile_isDue, List.mem_filter, Bool.not_eq_true', ← Bool.not_eq_true,
      TimerQueue.isDue_iff early, reports.pending]
    exact ⟨.inr, fun awaited => awaited.resolve_left nofun⟩

theorem fire (reports : Reports j q (e :: due) now) : Reports (.fired e now :: j) q due now where
  kept := .fired reports.kept
  paired := reports.paired
  pending := by
    intro e'
    rw [reports.pending]
    exact ⟨fun awaited => .inr ⟨awaited, nofun⟩, fun awaited => awaited.before nofun⟩
  counted := reports.counted
  earlier := reports.earlier

end Reports

end Journal

end ClickGrant
