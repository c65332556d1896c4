import ClickGrant.Proofs.Grant.Balance

/-!
# When timers of grants go off

What is due is taken out of the queue at once, and its events are then handled one after the other:
the expiry of a save grant takes this grant back, the end of a stay in the background takes the
capabilities. What is proved:
  1. `Balanced.handledAll` — when all events have been handled, the outstanding grants are those
     whose expiry was not among them.
  2. `Balanced.runDue` — so after what is due has been handled, the outstanding grants are those
     that have not expired; none is left over and none is taken too early.
  3. `counters_runDue` — handling timers schedules none and gives no grant.
-/
set_option autoImplicit false

namespace ClickGrant

/-- The grant has not expired yet. -/
def SaveGrant.Lasts (delay now : UInt64) (x : SaveGrant) : Prop :=
  now.toNat < x.since.toNat + delay.toNat

instance (delay now : UInt64) (x : SaveGrant) : Decidable (x.Lasts delay now) :=
  inferInstanceAs (Decidable (_ < _))

/-- Before the last time, a grant lasts exactly until its deadline. -/
theorem SaveGrant.lasts_iff {d : GrantDelays} {now : UInt64} (early : now < lastTime) (x : SaveGrant) :
    x.Lasts d.save now ↔ now < x.deadline d := by
  rw [UInt64.lt_iff_toNat_lt, TimerQueue.toNat_lastTime] at early
  rw [UInt64.lt_iff_toNat_lt, SaveGrant.deadline, toNat_saturatingAdd, SaveGrant.Lasts]
  have last : UInt64.size - 1 = 18446744073709551615 := rfl
  omega

theorem SaveGrant.Lasts.of_le {delay now later : UInt64} {x : SaveGrant}
    (lasts : x.Lasts delay later) (le : now ≤ later) : x.Lasts delay now :=
  Nat.lt_of_le_of_lt (UInt64.le_iff_toNat_le.mp le) lasts

namespace GrantState

variable {g : GrantState} {d : GrantDelays} {live : List SaveGrant} {events : List TimerEvent}
  {event : TimerEvent}

/-- The grants after a timer has been handled. -/
def handled (g : GrantState) : TimerEvent → GrantState
  | .saveExpired token serial => (revokeSave token serial g).2
  | .backgroundExpired token => (dropCapabilities token g).2
  | .idleExpired => g

/-- Takes the events that are due. -/
def takeDue (g : GrantState) : List TimerEvent × GrantState :=
  ((g.timers.takeDue g.now).1, { g with timers := (g.timers.takeDue g.now).2 })

/-- The grants after everything that is due has been handled. -/
def ranDue (g : GrantState) : GrantState := g.takeDue.1.foldl handled g.takeDue.2

/-! ## What is outstanding -/

/-- An event that is handled is no longer to come. -/
theorem Balanced.handled (balanced : Balanced d live (event :: events) g) :
    Balanced d (live.filter (·.expiry ≠ event)) events (handled g event) := by
  -- either a grant is taken back, or the event is not the expiry of one
  have other (no : ∀ x : SaveGrant, x.expiry ≠ event) :
      Balanced d (live.filter (·.expiry ≠ event)) events g := by
    rw [List.filter_eq_self.mpr fun x _ => decide_eq_true (no x)]
    refine ⟨balanced.sound, balanced.paired, balanced.listed, balanced.ordered, balanced.spent,
      balanced.fewer, fun x hx => ?_⟩
    exact (balanced.timed x hx).imp_right fun h => (List.mem_cons.mp h).resolve_left (no x)
  cases event with
  | saveExpired token serial =>
    have taken := balanced.revokeSave token serial fun e he => List.mem_cons.mp he
    have same : live.filter (fun x => ¬x.Is token serial) =
        live.filter (·.expiry ≠ .saveExpired token serial) := by
      refine List.filter_congr fun x _ => ?_
      rw [decide_eq_decide, SaveGrant.expiry, ne_eq, TimerEvent.saveExpired.injEq, SaveGrant.Is]
    rw [← same]
    exact taken
  | backgroundExpired token => exact (other (by intro x h; cases h)).dropCapabilities token
  | idleExpired => exact other (by intro x h; cases h)

theorem Balanced.handledAll : ∀ {events : List TimerEvent} {live : List SaveGrant} {g : GrantState},
    Balanced d live events g →
      Balanced d (live.filter (·.expiry ∉ events)) [] (events.foldl GrantState.handled g)
  | [], live, _, balanced => by
    rw [List.filter_eq_self.mpr fun x _ => decide_eq_true List.not_mem_nil]
    exact balanced
  | event :: rest, live, g, balanced => by
    have others := balanced.handled.handledAll
    rw [List.filter_filter] at others
    have same : live.filter (fun x => decide (x.expiry ∉ rest) && decide (x.expiry ≠ event)) =
        live.filter (·.expiry ∉ event :: rest) := by
      refine List.filter_congr fun x _ => ?_
      rw [Bool.eq_iff_iff, Bool.and_eq_true]
      simp only [decide_eq_true_eq, List.mem_cons, not_or, and_comm]
    rw [← same]
    exact others

/-- A grant whose deadline has come is due, except at the last time. -/
theorem Balanced.expiry_mem_iff_ne (balanced : Balanced d live [] g) {x : SaveGrant} (hx : x ∈ live) :
    x.expiry ∈ g.takeDue.1 ↔ x.deadline d ≤ g.now ∧ x.deadline d ≠ lastTime := by
  have timed : g.timers.deadlineOf x.expiry.key = some (x.deadline d) :=
    (balanced.timed x hx).resolve_right (by simp)
  show x.expiry ∈ (g.timers.takeDue g.now).1 ↔ _
  rw [balanced.paired.mem_takeDue_iff_ne balanced.sound.timers, timed]
  simp

/-- What is due has expired, and what has expired is due. -/
theorem Balanced.expiry_mem_iff (balanced : Balanced d live [] g) (early : g.now < lastTime)
    {x : SaveGrant} (hx : x ∈ live) : x.expiry ∉ g.takeDue.1 ↔ x.Lasts d.save g.now := by
  rw [SaveGrant.lasts_iff early, balanced.expiry_mem_iff_ne hx, ← UInt64.not_le, not_iff_not,
    and_iff_left_iff_imp]
  intro come same
  exact UInt64.not_le.mpr early (same ▸ come)

/-- What is outstanding after what is due has been handled is what has not expired. -/
theorem Balanced.runDue (balanced : Balanced d live [] g) (early : g.now < lastTime) :
    Balanced d (live.filter (·.Lasts d.save g.now)) [] g.ranDue := by
  have all := (balanced.takeDue g.now).handledAll
  have same : live.filter (·.expiry ∉ g.takeDue.1) = live.filter (·.Lasts d.save g.now) :=
    List.filter_congr fun x hx => decide_eq_decide.mpr (balanced.expiry_mem_iff early hx)
  rw [← same]
  exact all

/-! ## What stays -/

@[simp] theorem nextSeq_handled (g : GrantState) (event : TimerEvent) :
    (GrantState.handled g event).timers.nextSeq = g.timers.nextSeq := by
  cases event with
  | saveExpired token serial => exact nextSeq_revokeSave token serial g
  | backgroundExpired token => exact nextSeq_dropCapabilities token g
  | idleExpired => rfl

@[simp] theorem nextSerial_handled (g : GrantState) (event : TimerEvent) :
    (GrantState.handled g event).ledger.nextSerial = g.ledger.nextSerial := by
  cases event with
  | saveExpired token serial => exact nextSerial_revokeSave token serial g
  | _ => rfl

@[simp] theorem now_handled (g : GrantState) (event : TimerEvent) :
    (GrantState.handled g event).now = g.now := by
  cases event with
  | saveExpired token serial => exact now_revokeSave token serial g
  | _ => rfl

theorem foldl_handled {α : Type} {f : GrantState → α} (still : ∀ g event, f (GrantState.handled g event) = f g) :
    ∀ (events : List TimerEvent) (g : GrantState), f (events.foldl GrantState.handled g) = f g
  | [], _ => rfl
  | event :: rest, g => (foldl_handled still rest _).trans (still g event)

/-- Handling timers schedules none, gives no grant, and takes no time. -/
theorem counters_runDue (g : GrantState) :
    g.ranDue.timers.nextSeq = g.timers.nextSeq ∧ g.ranDue.ledger.nextSerial = g.ledger.nextSerial ∧
      g.ranDue.now = g.now :=
  ⟨foldl_handled (f := (·.timers.nextSeq)) nextSeq_handled _ _,
    foldl_handled (f := (·.ledger.nextSerial)) nextSerial_handled _ _, foldl_handled now_handled _ _⟩

/-! ## No empty records -/

theorem Tidy.handled (tidy : g.Tidy) (sound : g.Sound) (event : TimerEvent) :
    (handled g event).Tidy ∧ (handled g event).Sound := by
  cases event with
  | saveExpired token serial =>
    exact ⟨tidy.revokeSave sound token serial, sound.revokeSave token serial⟩
  | backgroundExpired token => exact ⟨tidy.dropCapabilities token, sound.dropCapabilities token⟩
  | idleExpired => exact ⟨tidy, sound⟩

theorem Tidy.handledAll : ∀ (events : List TimerEvent) {g : GrantState}, g.Tidy → g.Sound →
    (events.foldl GrantState.handled g).Tidy
  | [], _, tidy, _ => tidy
  | event :: rest, _, tidy, sound =>
    have first := tidy.handled sound event
    first.1.handledAll rest first.2

theorem Tidy.runDue (tidy : g.Tidy) (sound : g.Sound) : g.ranDue.Tidy :=
  (tidy.takeDue g.now).handledAll _ (sound.takeDue g.now)

end GrantState

end ClickGrant
