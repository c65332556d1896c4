import ClickGrant.Proofs.Grant.Balance
import ClickGrant.Proofs.Registry.Changes
import ClickGrant.Proofs.Registry.Grants

/-!
# The grants in all traffic

A ledger with its timers is `Orderly` if it is balanced for some list of outstanding grants, and
tidy. What is proved:
  1. `Change.entered` — what each change of the registry does to the grants, and how many timers
     that schedules.
  2. `Changes.orderly` — so changes keep the grants orderly, as long as the count of schedulings
     does not wrap around.
  3. `orderly_throughout` — in traffic with fewer than 2^64 schedulings, the grants are orderly now,
     and they were whenever a call began or went on.

Which timers have been taken and are still to be handled is left open: in the midst of traffic,
others may be handling theirs.
-/
set_option autoImplicit false

namespace ClickGrant

namespace GrantState

variable {d : GrantDelays} {g g' : GrantState} {n : Nat}

/-- The ledger and the timers are those of some list of outstanding grants, without empty
records. -/
structure Orderly (d : GrantDelays) (g : GrantState) : Prop where
  balanced : ∃ live events, Balanced d live events g
  tidy : g.Tidy

theorem orderly_start (d : GrantDelays) (now : UInt64) : Orderly d (GrantState.start now) :=
  ⟨⟨[], [], balanced_start d now⟩, tidy_start now⟩

/-- What is done to the grants at one blow, and how many timers are scheduled for it. -/
inductive Entered (d : GrantDelays) (g : GrantState) : Nat → GrantState → Prop where
  | nothing : Entered d g 0 g
  | grantedSave (token : Token) : Entered d g 1 (grantSave d token g).2
  | revokedSave (token : Token) (serial : UInt64) : Entered d g 0 (revokeSave token serial g).2
  | revokedSaves (token : Token) : Entered d g 0 (revokeSaves token g)
  | addedCapability (token : Token) (kind : Kind) : Entered d g 0 (addCapability token kind g).2
  | droppedCapability (token : Token) (kind : Kind) : Entered d g 0 (dropCapability token kind g).2
  | droppedCapabilities (token : Token) : Entered d g 0 (dropCapabilities token g).2
  | deferred {token : Token} (holds : g.ledger.capabilities.contains token = true) :
      Entered d g 1 (deferRevocation d token g).2
  | undeferred (token : Token) : Entered d g 0 (cancelDeferred token g).2
  | armed (deadline : UInt64) :
      Entered d g 1 { g with timers := g.timers.schedule idleKey deadline .idleExpired }
  | disarmed : Entered d g 0 { g with timers := g.timers.remove idleKey }
  | tookDue (now : UInt64) : Entered d g 0 { g with timers := (g.timers.takeDue now).2 }
  | clockMoved (now : UInt64) : Entered d g 0 { g with now }

theorem Entered.nextSeq (h : Entered d g n g') : g'.timers.nextSeq = g.timers.nextSeq + UInt64.ofNat n := by
  have none {q : TimerQueue} (same : q.nextSeq = g.timers.nextSeq) :
      q.nextSeq = g.timers.nextSeq + UInt64.ofNat 0 := same.trans (UInt64.add_zero _).symm
  cases h with
  | grantedSave token => exact nextSeq_grantSave d token g
  | revokedSave token serial => exact none (nextSeq_revokeSave token serial g)
  | revokedSaves token => exact none (nextSeq_revokeSaves token g)
  | droppedCapability token kind => exact none (nextSeq_dropCapability token kind g)
  | droppedCapabilities token => exact none (nextSeq_dropCapabilities token g)
  | deferred holds =>
    unfold deferRevocation
    rw [if_pos holds]
    exact TimerQueue.nextSeq_schedule ..
  | undeferred token => exact none (TimerQueue.nextSeq_remove ..)
  | armed deadline => exact TimerQueue.nextSeq_schedule ..
  | disarmed => exact none (TimerQueue.nextSeq_remove ..)
  | _ => exact none rfl

/-- Whatever is done, the grants stay orderly, unless the count of schedulings wraps around. -/
theorem Entered.orderly (h : Entered d g n g') (few : g.timers.nextSeq ≤ g'.timers.nextSeq)
    (orderly : Orderly d g) : Orderly d g' := by
  obtain ⟨⟨live, events, balanced⟩, tidy⟩ := orderly
  cases h with
  | nothing => exact ⟨⟨_, _, balanced⟩, tidy⟩
  | grantedSave token => exact ⟨⟨_, _, balanced.grantSave token few⟩, tidy.grantSave d token⟩
  | revokedSave token serial =>
    exact ⟨⟨_, _, balanced.revokeSave token serial fun _ he => .inr he⟩,
      tidy.revokeSave balanced.sound token serial⟩
  | revokedSaves token => exact ⟨⟨_, _, balanced.revokeSaves token⟩, tidy.revokeSaves token⟩
  | addedCapability token kind =>
    exact ⟨⟨_, _, balanced.addCapability token kind⟩, tidy.addCapability token kind⟩
  | droppedCapability token kind =>
    exact ⟨⟨_, _, balanced.dropCapability token kind⟩, tidy.dropCapability token kind⟩
  | droppedCapabilities token =>
    exact ⟨⟨_, _, balanced.dropCapabilities token⟩, tidy.dropCapabilities token⟩
  | deferred => exact ⟨⟨_, _, balanced.deferRevocation _ few⟩, tidy.deferRevocation d _⟩
  | undeferred token => exact ⟨⟨_, _, balanced.cancelDeferred token⟩, tidy.cancelDeferred token⟩
  | armed deadline =>
    refine ⟨⟨_, _, balanced.schedule .idleExpired deadline nofun few⟩,
      tidy.saves, tidy.capabilities, fun token h => tidy.deferring token ?_⟩
    rw [TimerQueue.contains_schedule, Bool.or_eq_true, decide_eq_true_eq] at h
    exact h.resolve_left (backgroundKey_ne_idleKey token).symm
  | disarmed => exact ⟨⟨_, _, balanced.remove (by simp)⟩, tidy.remove idleKey⟩
  | tookDue now => exact ⟨⟨_, _, balanced.takeDue now⟩, tidy.takeDue now⟩
  | clockMoved now =>
    have sound : Sound { g with now } :=
      ⟨balanced.sound.timers, balanced.sound.counted, balanced.sound.expiring⟩
    exact ⟨⟨_, _, balanced.of_eq sound rfl rfl rfl⟩, tidy.saves, tidy.capabilities, tidy.deferring⟩

end GrantState

namespace Registry

open GrantState (Orderly Entered)

variable {s : Settings} {r r' : Registry} {n : Nat}

/-! ## Changes -/

/-- A change does one thing to the grants, and schedules no more timers than it may. -/
theorem Change.entered (h : Change s r n r') :
    ∃ k ≤ n, Entered s.delays r.toGrantState k r'.toGrantState := by
  have does {g : GrantState} (h : Entered s.delays r.toGrantState n g) :
      ∃ k ≤ n, Entered s.delays r.toGrantState k g := ⟨n, Nat.le_refl n, h⟩
  have nothing {g : GrantState} (same : g = r.toGrantState) :
      ∃ k ≤ n, Entered s.delays r.toGrantState k g := ⟨0, Nat.zero_le n, same ▸ .nothing⟩
  cases h with
  | flagged caller => exact nothing (toGrantState_quarantineCaller r caller)
  | stored stores =>
    obtain ⟨table, -, rfl⟩ := fits_of_storeNew stores
    exact nothing rfl
  | takenOut takes =>
    obtain ⟨-, rfl⟩ := takeOut_ok takes
    exact nothing rfl
  | cameForward pid =>
    cases found : r.table.processes.get? pid with
    | none => exact nothing (congrArg toGrantState (processForeground_of_none found))
    | some p =>
      rw [processForeground_of_some found]
      exact does (.undeferred p.token)
  | wentBack pid =>
    cases found : r.table.processes.get? pid with
    | none => exact nothing (congrArg toGrantState (processBackground_of_none found))
    | some p =>
      rw [processBackground_of_some found]
      by_cases holds : r.ledger.capabilities.contains p.token = true
      · exact does (.deferred holds)
      · refine nothing ?_
        show (GrantState.deferRevocation s.delays p.token r.toGrantState).2 = _
        unfold GrantState.deferRevocation
        rw [if_neg holds]
  | grantedSave token => exact does (.grantedSave token)
  | withdrewSave token serial =>
    rw [toGrantState_withdrawSave]
    exact does (.revokedSave token serial)
  | droppedSaves token => exact does (.revokedSaves token)
  | addedCapability token kind => exact does (.addedCapability token kind)
  | droppedCapability token kind => exact does (.droppedCapability token kind)
  | droppedCapabilities token => exact does (.droppedCapabilities token)
  | armed => exact does (.armed _)
  | disarmed => exact does .disarmed
  | wentDown => exact nothing (toGrantState_beginShutdown r)
  | tookDue => exact does (.tookDue r.now)
  | clockMoved now => exact does (.clockMoved now)
  | _ => exact nothing rfl

/-- So many timers are scheduled, and the grants stay orderly if there was room for them. -/
theorem Changes.orderly (h : Changes s n r r') :
    ∃ k ≤ n, r'.timers.nextSeq = r.timers.nextSeq + UInt64.ofNat k ∧
      (r.timers.nextSeq.toNat + k < UInt64.size → Orderly s.delays r.toGrantState →
        Orderly s.delays r'.toGrantState) := by
  induction h with
  | none n r => exact ⟨0, Nat.zero_le n, (UInt64.add_zero _).symm, fun _ => id⟩
  | @more _ m n r u r' earlier change le ih =>
    obtain ⟨j, hj, seq, orderly⟩ := ih
    obtain ⟨k, hk, entered⟩ := change.entered
    have next := entered.nextSeq
    refine ⟨j + k, by omega, ?_, fun room start => ?_⟩
    · rw [next, seq, UInt64.ofNat_add, UInt64.add_assoc]
    · have before : u.timers.nextSeq.toNat = r.timers.nextSeq.toNat + j := by
        rw [seq]
        exact toNat_add_ofNat (by omega)
      have after : r'.timers.nextSeq.toNat = u.timers.nextSeq.toNat + k := by
        rw [next]
        exact toNat_add_ofNat (by omega)
      refine entered.orderly ?_ (orderly (by omega) start)
      rw [UInt64.le_iff_toNat_le]
      omega

/-! ## Traffic -/

/-- The stretch has scheduled a timer. -/
def schedules (p : Stretch Registry) : Bool := p.after.timers.nextSeq ≠ p.before.timers.nextSeq

/-- A stretch on which at most one timer was scheduled. -/
theorem countP_schedules {k : Nat} (once : k ≤ 1)
    (seq : r'.timers.nextSeq = r.timers.nextSeq + UInt64.ofNat k) :
    [(⟨r, r'⟩ : Stretch Registry)].countP schedules = k := by
  rcases Nat.le_one_iff_eq_zero_or_eq_one.mp once with rfl | rfl
  · have none : schedules ⟨r, r'⟩ = false := by
      rw [schedules, decide_eq_false_iff_not, ne_eq, Decidable.not_not, seq]
      exact UInt64.add_zero _
    rw [List.countP_cons_of_neg (by rw [none]; decide), List.countP_nil]
  · have one : schedules ⟨r, r'⟩ = true := by
      refine decide_eq_true fun same => ?_
      have moved : r.timers.nextSeq + 1 ≠ r.timers.nextSeq := by simp
      exact moved (seq.symm.trans same)
    rw [List.countP_cons_of_pos one, List.countP_nil]

/-- If there was room for all schedulings so far, they have been counted, and the grants are
orderly. -/
def OrderlyAfter (d : GrantDelays) (past : List (Stretch Registry)) (r : Registry) : Prop :=
  past.countP schedules < UInt64.size →
    r.timers.nextSeq.toNat = past.countP schedules ∧ Orderly d r.toGrantState

theorem OrderlyAfter.next {past : List (Stretch Registry)} (held : OrderlyAfter s.delays past r)
    (h : Changes s 1 r r') : OrderlyAfter s.delays (past ++ [⟨r, r'⟩]) r' := by
  intro few
  obtain ⟨k, once, seq, orderly'⟩ := h.orderly
  rw [List.countP_append, countP_schedules once seq] at few ⊢
  obtain ⟨count, orderly⟩ := held (by omega)
  rw [seq, toNat_add_ofNat (by omega), count]
  exact ⟨rfl, orderly' (by omega) orderly⟩

/-- The schedulings of traffic have been counted, and the grants are orderly, if there was room for
them so far. -/
theorem orderlyAfter_throughout (s : Settings) (now : UInt64) (consents : ConsentStore)
    (metrics : Option Metrics) (moves : List (Move Act)) :
    let t := trafficFrom s (.start now consents metrics) moves
    OrderlyAfter s.delays t.past t.state ∧ ∀ call ∈ t.courses, ∀ r ∈ call.starts,
      ∃ earlier, earlier <+: t.past ∧ OrderlyAfter s.delays earlier r := by
  have first : OrderlyAfter s.delays [] (.start now consents metrics) := fun _ =>
    ⟨rfl, GrantState.orderly_start s.delays now⟩
  exact Traffic.run_invariant (moves_perform s) first (fun _ _ _ change held => held.next change) moves

/-- In traffic with fewer than 2^64 schedulings the grants are orderly now, and they were whenever a
call began or went on. -/
theorem orderly_throughout (s : Settings) (now : UInt64) (consents : ConsentStore)
    (metrics : Option Metrics) (moves : List (Move Act))
    (few : (trafficFrom s (.start now consents metrics) moves).past.countP schedules < UInt64.size) :
    Orderly s.delays (trafficFrom s (.start now consents metrics) moves).state.toGrantState ∧
      ∀ call ∈ (trafficFrom s (.start now consents metrics) moves).courses,
        ∀ r ∈ call.starts, Orderly s.delays r.toGrantState := by
  obtain ⟨last, starts⟩ := orderlyAfter_throughout s now consents metrics moves
  refine ⟨(last few).2, fun call hcall r hr => ?_⟩
  obtain ⟨earlier, le, held⟩ := starts call hcall r hr
  have fewer := List.Sublist.countP_le (p := schedules) le.sublist
  exact (held (Nat.lt_of_le_of_lt fewer few)).2

end Registry

end ClickGrant
