import ClickGrant.Proofs.Grant.Ledger
import ClickGrant.Proofs.Timer.Index

/-!
# Outstanding save grants and their timers

A `SaveGrant` is one that has been given, with what the clock showed then. `Balanced` says that
the grants in a list are exactly those outstanding: the ledger has their serials and no others, in
this order, and for each of them a timer is pending that is set for the time at which the grant
expires. Timers that have been taken out of the queue and are still to be handled count as pending.
What is proved:
  1. `Balanced.grantSave`, `Balanced.revokeSave`, `Balanced.revokeSaves`, `Balanced.takeDue` and
     what follows them — what each change does to the list. None of it depends on the clock.
  2. `Balanced.pending_iff`, `Balanced.eq_of_serial_eq` — so a save timer is pending exactly if its
     grant is outstanding, and no serial is given to two identities.
  3. `Tidy` — every change leaves the ledger without empty records, and defers a revocation only
     for an identity that holds a capability.
-/
set_option autoImplicit false

namespace ClickGrant

/-- A save grant. -/
structure SaveGrant where
  token : Token
  serial : UInt64
  /-- What the clock showed when it was given. -/
  since : UInt64
  deriving DecidableEq, Repr

namespace SaveGrant

/-- The key of its timer. -/
def key (x : SaveGrant) : TimerKey := saveKey x.token x.serial

/-- What its timer announces. -/
def expiry (x : SaveGrant) : TimerEvent := .saveExpired x.token x.serial

/-- When it expires. -/
def deadline (d : GrantDelays) (x : SaveGrant) : UInt64 := saturatingAdd x.since d.save

/-- It is the grant of this identity and serial. -/
def Is (token : Token) (serial : UInt64) (x : SaveGrant) : Prop := x.token = token ∧ x.serial = serial

instance (token : Token) (serial : UInt64) (x : SaveGrant) : Decidable (x.Is token serial) :=
  inferInstanceAs (Decidable (_ ∧ _))

end SaveGrant

/-- The serials of one identity among grants. -/
def serialsIn (live : List SaveGrant) (token : Token) : List UInt64 :=
  (live.filter (·.token = token)).map (·.serial)

theorem mem_serialsIn {live : List SaveGrant} {token : Token} {serial : UInt64} :
    serial ∈ serialsIn live token ↔ ∃ x ∈ live, x.Is token serial := by
  simp only [serialsIn, List.mem_map, List.mem_filter, decide_eq_true_eq, and_assoc, SaveGrant.Is]

theorem serialsIn_append (live more : List SaveGrant) (token : Token) :
    serialsIn (live ++ more) token = serialsIn live token ++ serialsIn more token := by
  rw [serialsIn, List.filter_append, List.map_append]
  rfl

theorem nodup_serials {live : List SaveGrant} (ordered : live.Pairwise (·.serial < ·.serial)) :
    (live.map (·.serial)).Nodup := by
  rw [List.Nodup, List.pairwise_map]
  refine ordered.imp fun {x y} lt same => ?_
  rw [same] at lt
  exact UInt64.lt_irrefl _ lt

/-- One more grant, with a serial that is later than all others. -/
theorem serials_snoc {live : List SaveGrant} {next : UInt64} (ordered : live.Pairwise (·.serial < ·.serial))
    (spent : ∀ x ∈ live, x.serial < next) (up : next < next + 1) (token : Token) (since : UInt64) :
    (live ++ [SaveGrant.mk token next since]).Pairwise (·.serial < ·.serial) ∧
      ∀ x ∈ live ++ [SaveGrant.mk token next since], x.serial < next + 1 := by
  constructor
  · refine List.pairwise_append.mpr ⟨ordered, List.pairwise_singleton _ _, ?_⟩
    intro x hx y hy
    rw [List.mem_singleton.mp hy]
    exact spent x hx
  · intro x hx
    rcases List.mem_append.mp hx with hx | hx
    · exact UInt64.lt_trans (spent x hx) up
    · rw [List.mem_singleton.mp hx]
      exact up

/-- Without one grant. -/
theorem serialsIn_filter_is {live : List SaveGrant} (ordered : live.Pairwise (·.serial < ·.serial))
    (token token' : Token) (serial : UInt64) :
    serialsIn (live.filter fun x => ¬x.Is token serial) token' =
      if token = token' then (serialsIn live token).erase serial else serialsIn live token' := by
  unfold serialsIn
  rw [List.filter_filter]
  split
  next same =>
    subst same
    rw [(nodup_serials (ordered.filter _)).erase_eq_filter, List.filter_map, List.filter_filter]
    congr 1
    refine List.filter_congr fun x _ => ?_
    by_cases here : x.token = token
    · by_cases there : x.serial = serial <;> simp [SaveGrant.Is, here, there]
    · simp [here]
  next other =>
    congr 1
    refine List.filter_congr fun x _ => ?_
    by_cases here : x.token = token'
    · simp [SaveGrant.Is, here, Ne.symm other]
    · simp [here]

/-- Without the grants of one identity. -/
theorem serialsIn_filter_token (live : List SaveGrant) (token token' : Token) :
    serialsIn (live.filter (·.token ≠ token)) token' =
      if token = token' then [] else serialsIn live token' := by
  unfold serialsIn
  rw [List.filter_filter]
  split
  next same =>
    subst same
    rw [List.filter_eq_nil_iff.mpr (by simp)]
    rfl
  next other =>
    congr 1
    refine List.filter_congr fun x _ => ?_
    by_cases here : x.token = token'
    · simp [here, Ne.symm other]
    · simp [here]

/-- Of two counters, the lower one does not wrap around before the other one does. -/
theorem succ_of_le {m n : UInt64} (le : m ≤ n) (few : n ≤ n + 1) : m < m + 1 ∧ m + 1 ≤ n + 1 := by
  have one : (1 : UInt64).toNat = 1 := rfl
  simp only [UInt64.le_iff_toNat_le, UInt64.lt_iff_toNat_lt, UInt64.toNat_add, one] at *
  have bound : n.toNat < 2 ^ 64 := n.toNat_lt
  omega

/-- A counter that moves by one at most. -/
theorem toNat_of_step {n n' : UInt64} (step : n' = n ∨ n' = n + 1)
    (few : n.toNat + (if n' ≠ n then 1 else 0) < UInt64.size) :
    n'.toNat = n.toNat + if n' ≠ n then 1 else 0 := by
  rcases step with rfl | rfl
  · simp
  · have moved : n + 1 ≠ n := by simp
    rw [if_pos moved] at few ⊢
    exact (UInt64.toNat_add ..).trans (Nat.mod_eq_of_lt few)

namespace GrantState

variable {g g' : GrantState} {token token' : Token} {serial : UInt64} {d : GrantDelays} {key : TimerKey}
  {kind : Kind} {live : List SaveGrant} {events : List TimerEvent} {x : SaveGrant}

/-- The grants of the list, and no others, are outstanding, each with its timer. -/
structure Balanced (d : GrantDelays) (live : List SaveGrant) (events : List TimerEvent)
    (g : GrantState) : Prop where
  sound : g.Sound
  paired : g.timers.Paired
  listed : ∀ token, g.ledger.serialsOf token = serialsIn live token
  /-- Oldest first. -/
  ordered : live.Pairwise (·.serial < ·.serial)
  /-- The next serial is a new one. -/
  spent : ∀ x ∈ live, x.serial < g.ledger.nextSerial
  /-- Each serial has gone with a scheduling. -/
  fewer : g.ledger.nextSerial ≤ g.timers.nextSeq
  timed : ∀ x ∈ live, g.timers.deadlineOf x.key = some (x.deadline d) ∨ x.expiry ∈ events

theorem balanced_start (d : GrantDelays) (now : UInt64) : Balanced d [] [] (GrantState.start now) where
  sound := sound_start now
  paired := TimerQueue.paired_empty
  listed := fun _ => rfl
  ordered := .nil
  spent := by intro x h; cases h
  fewer := UInt64.le_refl _
  timed := by intro x h; cases h

/-- What else is in the ledger, and the clock, do not matter. -/
theorem Balanced.of_eq (balanced : Balanced d live events g) (sound : g'.Sound)
    (saves : g'.ledger.saves = g.ledger.saves) (serial : g'.ledger.nextSerial = g.ledger.nextSerial)
    (timers : g'.timers = g.timers) : Balanced d live events g' where
  sound := sound
  paired := timers ▸ balanced.paired
  listed := by
    intro token
    rw [← balanced.listed token]
    unfold Ledger.serialsOf
    rw [saves]
  ordered := balanced.ordered
  spent := serial ▸ balanced.spent
  fewer := by rw [serial, timers]; exact balanced.fewer
  timed := timers ▸ balanced.timed

/-! ## Giving a grant -/

theorem nextSeq_grantSave (d : GrantDelays) (token : Token) (g : GrantState) :
    (grantSave d token g).2.timers.nextSeq = g.timers.nextSeq + 1 :=
  TimerQueue.nextSeq_schedule ..

theorem Balanced.grantSave (balanced : Balanced d live events g) (token : Token)
    (few : g.timers.nextSeq ≤ (grantSave d token g).2.timers.nextSeq) :
    Balanced d (live ++ [⟨token, g.ledger.nextSerial, g.now⟩]) events (grantSave d token g).2 where
  sound := balanced.sound.grantSave d token
  paired := balanced.paired.schedule _ _ few
  listed := by
    intro token'
    rw [serialsOf_grantSave, serialsIn_append, balanced.listed, balanced.listed]
    by_cases same : token = token'
    · subst same
      simp [serialsIn]
    · simp [serialsIn, same]
  ordered := by
    have next := (succ_of_le balanced.fewer (nextSeq_grantSave d token g ▸ few)).1
    exact (serials_snoc balanced.ordered balanced.spent next token g.now).1
  spent := by
    have next := (succ_of_le balanced.fewer (nextSeq_grantSave d token g ▸ few)).1
    exact (serials_snoc balanced.ordered balanced.spent next token g.now).2
  fewer := by
    rw [nextSeq_grantSave] at few ⊢
    exact (succ_of_le balanced.fewer few).2
  timed := by
    intro x hx
    change (g.timers.schedule _ _ _).deadlineOf x.key = _ ∨ _
    rw [TimerQueue.deadlineOf_schedule]
    rcases List.mem_append.mp hx with hx | hx
    · -- an earlier grant has another serial, so its timer is not replaced
      rw [if_neg]
      · exact balanced.timed x hx
      · intro same
        have older := balanced.spent x hx
        rw [SaveGrant.key, saveKey_inj] at same
        exact UInt64.lt_irrefl _ (same.2 ▸ older)
    · rw [List.mem_singleton.mp hx, if_pos (by rfl)]
      exact .inl rfl

/-! ## Taking grants back -/

theorem Balanced.outstanding_iff (balanced : Balanced d live events g) :
    serial ∈ g.ledger.serialsOf token ↔ ∃ x ∈ live, x.Is token serial := by
  rw [balanced.listed, mem_serialsIn]

/-- Exactly the serial that is taken back is gone. -/
theorem Sound.serialsOf_revokeSave (sound : g.Sound) (token token' : Token) (serial : UInt64) :
    (GrantState.revokeSave token serial g).2.ledger.serialsOf token' =
      if token = token' then (g.ledger.serialsOf token).erase serial else g.ledger.serialsOf token' := by
  obtain ⟨absent, same⟩ | ⟨record, found, outstanding, taken⟩ := revokeSave_cases token serial g
  · rw [same, List.erase_of_not_mem absent]
    split
    next here => rw [here]
    next => rfl
  have count := sound.counted token record found
  have length := List.length_erase_of_mem outstanding
  rw [taken]
  unfold Ledger.serialsOf
  dsimp only
  rw [found]
  by_cases last : record.count - 1 = 0
  · -- the record is dropped with its only serial
    rw [if_pos last, Assoc.get?_erase]
    split
    · exact (List.length_eq_zero_iff.mp ((length.trans (by rw [count])).trans last)).symm
    · rfl
  · rw [if_neg last, Assoc.get?_set]
    split <;> rfl

@[simp] theorem nextSerial_revokeSave (token : Token) (serial : UInt64) (g : GrantState) :
    (revokeSave token serial g).2.ledger.nextSerial = g.ledger.nextSerial := by
  obtain ⟨-, same⟩ | ⟨_, _, -, taken⟩ := revokeSave_cases token serial g
  · rw [same]
  · rw [taken]

@[simp] theorem nextSeq_revokeSave (token : Token) (serial : UInt64) (g : GrantState) :
    (revokeSave token serial g).2.timers.nextSeq = g.timers.nextSeq := by
  obtain ⟨-, same⟩ | ⟨_, _, -, taken⟩ := revokeSave_cases token serial g
  · rw [same]
  · rw [taken]
    exact TimerQueue.nextSeq_remove ..

@[simp] theorem now_revokeSave (token : Token) (serial : UInt64) (g : GrantState) :
    (revokeSave token serial g).2.now = g.now := by
  obtain ⟨-, same⟩ | ⟨_, _, -, taken⟩ := revokeSave_cases token serial g
  · rw [same]
  · rw [taken]

/-- A serial that is not outstanding has no timer to remove. -/
theorem Balanced.timers_revokeSave (balanced : Balanced d live events g) (token : Token)
    (serial : UInt64) :
    (revokeSave token serial g).2.timers = g.timers.remove (saveKey token serial) := by
  obtain ⟨absent, same⟩ | ⟨_, _, -, taken⟩ := revokeSave_cases token serial g
  · rw [same]
    unfold TimerQueue.remove
    cases found : g.timers.slots.get? (saveKey token serial) with
    | none => rfl
    | some slot =>
      refine absurd (balanced.sound.expiring token serial ?_) absent
      unfold TimerQueue.contains Assoc.contains
      rw [found]
      rfl
  · rw [taken]

/-- A grant is taken back with its timer, or because its timer has gone off. -/
theorem Balanced.revokeSave {events' : List TimerEvent} (balanced : Balanced d live events g)
    (token : Token) (serial : UInt64)
    (handled : ∀ e ∈ events, e = .saveExpired token serial ∨ e ∈ events') :
    Balanced d (live.filter fun x => ¬x.Is token serial) events' (revokeSave token serial g).2 where
  sound := balanced.sound.revokeSave token serial
  paired := by
    rw [balanced.timers_revokeSave]
    exact balanced.paired.remove _
  listed := by
    intro token'
    rw [balanced.sound.serialsOf_revokeSave, serialsIn_filter_is balanced.ordered, balanced.listed,
      balanced.listed]
  ordered := balanced.ordered.filter _
  spent := by
    intro x hx
    rw [nextSerial_revokeSave]
    exact balanced.spent x (List.mem_filter.mp hx).1
  fewer := by
    rw [nextSerial_revokeSave, nextSeq_revokeSave]
    exact balanced.fewer
  timed := by
    intro x hx
    obtain ⟨hx, other⟩ := List.mem_filter.mp hx
    have other : ¬x.Is token serial := of_decide_eq_true other
    rw [balanced.timers_revokeSave, TimerQueue.deadlineOf_remove, if_neg]
    · refine (balanced.timed x hx).imp_right fun h => (handled _ h).resolve_left fun same => other ?_
      exact TimerEvent.saveExpired.inj same
    · intro same
      rw [SaveGrant.key, saveKey_inj] at same
      exact other ⟨same.1.symm, same.2.symm⟩

/-- All grants of an identity are taken back with their timers. -/
theorem revokeSaves_cases (token : Token) (g : GrantState) :
    revokeSaves token g = g ∧ g.ledger.serialsOf token = [] ∨
    revokeSaves token g =
      { g with
        ledger := { g.ledger with saves := g.ledger.saves.erase token }
        timers := (g.ledger.serialsOf token).foldl (fun q serial => q.remove (saveKey token serial)) g.timers } := by
  unfold revokeSaves Ledger.serialsOf
  cases g.ledger.saves.get? token with
  | none => exact .inl ⟨rfl, rfl⟩
  | some record => exact .inr rfl

/-- What the timers keep when one of an identity is removed they keep when its grants are all taken
back. -/
theorem revokeSaves_keeps (Kept : TimerQueue → Prop)
    (step : ∀ q serial, Kept q → Kept (q.remove (saveKey token serial))) (start : Kept g.timers) :
    Kept (revokeSaves token g).timers := by
  obtain ⟨same, -⟩ | taken := revokeSaves_cases token g
  · rw [same]
    exact start
  · rw [taken]
    exact removeSaves_keeps Kept step (g.ledger.serialsOf token) start

theorem paired_revokeSaves (paired : g.timers.Paired) (token : Token) :
    (revokeSaves token g).timers.Paired :=
  revokeSaves_keeps TimerQueue.Paired (fun _ serial paired => paired.remove (saveKey token serial)) paired

/-- The timers of one identity are removed, and no others. -/
theorem deadlineOf_revokeSaves (other : ∀ serial, saveKey token serial ≠ key) (g : GrantState) :
    (revokeSaves token g).timers.deadlineOf key = g.timers.deadlineOf key := by
  refine revokeSaves_keeps (fun q => q.deadlineOf key = g.timers.deadlineOf key) (fun q serial same => ?_) rfl
  rw [TimerQueue.deadlineOf_remove, if_neg (other serial), same]

@[simp] theorem nextSerial_revokeSaves (token : Token) (g : GrantState) :
    (revokeSaves token g).ledger.nextSerial = g.ledger.nextSerial := by
  obtain ⟨same, -⟩ | taken := revokeSaves_cases token g
  · rw [same]
  · rw [taken]

@[simp] theorem nextSeq_revokeSaves (token : Token) (g : GrantState) :
    (revokeSaves token g).timers.nextSeq = g.timers.nextSeq := by
  refine revokeSaves_keeps (fun q => q.nextSeq = g.timers.nextSeq) (fun q serial same => ?_) rfl
  rw [TimerQueue.nextSeq_remove, same]

@[simp] theorem now_revokeSaves (token : Token) (g : GrantState) : (revokeSaves token g).now = g.now := by
  obtain ⟨same, -⟩ | taken := revokeSaves_cases token g
  · rw [same]
  · rw [taken]

theorem Balanced.revokeSaves (balanced : Balanced d live events g) (token : Token) :
    Balanced d (live.filter (·.token ≠ token)) events (revokeSaves token g) := by
  have listed (token' : Token) : (GrantState.revokeSaves token g).ledger.serialsOf token' =
      serialsIn (live.filter (·.token ≠ token)) token' := by
    rw [serialsOf_revokeSaves, serialsIn_filter_token, balanced.listed]
  refine ⟨balanced.sound.revokeSaves token, paired_revokeSaves balanced.paired token, listed,
    balanced.ordered.filter _, ?_, ?_, ?_⟩
  · intro x hx
    rw [nextSerial_revokeSaves]
    exact balanced.spent x (List.mem_filter.mp hx).1
  · rw [nextSerial_revokeSaves, nextSeq_revokeSaves]
    exact balanced.fewer
  · intro x hx
    obtain ⟨hx, other⟩ := List.mem_filter.mp hx
    have other : x.token ≠ token := of_decide_eq_true other
    rw [deadlineOf_revokeSaves]
    · exact balanced.timed x hx
    · intro serial same
      rw [SaveGrant.key, saveKey_inj] at same
      exact other same.1.symm

/-! ## Timers -/

/-- Removing a timer that is not a save grant's. -/
theorem Balanced.remove (balanced : Balanced d live events g)
    (other : ∀ token serial, saveKey token serial ≠ key) :
    Balanced d live events { g with timers := g.timers.remove key } where
  sound := balanced.sound.remove key
  paired := balanced.paired.remove key
  listed := balanced.listed
  ordered := balanced.ordered
  spent := balanced.spent
  fewer := by
    dsimp only
    rw [TimerQueue.nextSeq_remove]
    exact balanced.fewer
  timed := by
    intro x hx
    dsimp only
    rw [TimerQueue.deadlineOf_remove, if_neg]
    · exact balanced.timed x hx
    · exact fun same => other x.token x.serial same.symm

/-- Scheduling one that is not a save grant's. -/
theorem Balanced.schedule (balanced : Balanced d live events g) (event : TimerEvent) (deadline : UInt64)
    (other : ∀ token serial, event ≠ .saveExpired token serial)
    (few : g.timers.nextSeq ≤ (g.timers.schedule event.key deadline event).nextSeq) :
    Balanced d live events { g with timers := g.timers.schedule event.key deadline event } where
  sound := balanced.sound.schedule deadline event other
  paired := balanced.paired.schedule deadline event few
  listed := balanced.listed
  ordered := balanced.ordered
  spent := balanced.spent
  fewer := UInt64.le_trans balanced.fewer few
  timed := by
    intro x hx
    dsimp only
    rw [TimerQueue.deadlineOf_schedule, if_neg]
    · exact balanced.timed x hx
    · intro same
      exact other x.token x.serial (TimerEvent.key_inj.mp same)

/-- What is due is still to be handled, and so is what was to be handled before. -/
theorem Balanced.takeDue (balanced : Balanced d live events g) (now : UInt64) :
    Balanced d live (events ++ (g.timers.takeDue now).1)
      { g with timers := (g.timers.takeDue now).2 } where
  sound := balanced.sound.takeDue now
  paired := balanced.paired.takeDue now
  listed := balanced.listed
  ordered := balanced.ordered
  spent := balanced.spent
  fewer := balanced.fewer
  timed := by
    intro x hx
    rcases balanced.timed x hx with before | handled
    · have pending : g.timers.deadlineOf x.expiry.key = some (x.deadline d) := before
      refine (balanced.paired.stays_or_taken balanced.sound.timers pending now).imp_right fun taken => ?_
      exact List.mem_append_right _ taken
    · exact .inr (List.mem_append_left _ handled)

/-! ## Capabilities -/

theorem Balanced.addCapability (balanced : Balanced d live events g) (token : Token) (kind : Kind) :
    Balanced d live events (addCapability token kind g).2 :=
  balanced.of_eq (balanced.sound.addCapability token kind) rfl rfl rfl

theorem Balanced.dropCapabilities (balanced : Balanced d live events g) (token : Token) :
    Balanced d live events (dropCapabilities token g).2 := by
  have removed : Balanced d live events { g with timers := g.timers.remove (backgroundKey token) } :=
    balanced.remove (by simp)
  exact removed.of_eq (balanced.sound.dropCapabilities token) rfl rfl rfl

theorem Balanced.cancelDeferred (balanced : Balanced d live events g) (token : Token) :
    Balanced d live events (cancelDeferred token g).2 := balanced.remove (by simp)

theorem Balanced.deferRevocation (balanced : Balanced d live events g) (token : Token)
    (few : g.timers.nextSeq ≤ (deferRevocation d token g).2.timers.nextSeq) :
    Balanced d live events (deferRevocation d token g).2 := by
  unfold GrantState.deferRevocation at few ⊢
  split
  next holds =>
    rw [if_pos holds] at few
    exact balanced.schedule (.backgroundExpired token) _ (by simp) few
  next => exact balanced

/-- One kind is dropped, the last one with the deferred revocation. -/
theorem dropCapability_cases (token : Token) (kind : Kind) (g : GrantState) :
    (dropCapability token kind g).2 = g ∨
    ((g.ledger.kindsOf token).erase kind = [] ∧
      (dropCapability token kind g).2 = (dropCapabilities token g).2) ∨
    ((g.ledger.kindsOf token).erase kind ≠ [] ∧
      (dropCapability token kind g).2 =
        { g with
          ledger := { g.ledger with
            capabilities := g.ledger.capabilities.set token ((g.ledger.kindsOf token).erase kind) } }) := by
  unfold dropCapability
  split
  next =>
    dsimp only
    split
    next last => exact .inr (.inl ⟨List.isEmpty_iff.mp last, rfl⟩)
    next left => exact .inr (.inr ⟨fun none => left (List.isEmpty_iff.mpr none), rfl⟩)
  next => exact .inl rfl

@[simp] theorem nextSerial_dropCapability (token : Token) (kind : Kind) (g : GrantState) :
    (dropCapability token kind g).2.ledger.nextSerial = g.ledger.nextSerial := by
  obtain same | ⟨-, last⟩ | ⟨-, left⟩ := dropCapability_cases token kind g
  · rw [same]
  · rw [last]; rfl
  · rw [left]

@[simp] theorem nextSeq_dropCapabilities (token : Token) (g : GrantState) :
    (dropCapabilities token g).2.timers.nextSeq = g.timers.nextSeq := TimerQueue.nextSeq_remove ..

@[simp] theorem nextSeq_dropCapability (token : Token) (kind : Kind) (g : GrantState) :
    (dropCapability token kind g).2.timers.nextSeq = g.timers.nextSeq := by
  obtain same | ⟨-, last⟩ | ⟨-, left⟩ := dropCapability_cases token kind g
  · rw [same]
  · rw [last]; exact nextSeq_dropCapabilities token g
  · rw [left]

theorem Balanced.dropCapability (balanced : Balanced d live events g) (token : Token) (kind : Kind) :
    Balanced d live events (dropCapability token kind g).2 := by
  obtain same | ⟨-, last⟩ | ⟨-, left⟩ := dropCapability_cases token kind g
  · rw [same]; exact balanced
  · rw [last]; exact balanced.dropCapabilities token
  · rw [left]
    refine balanced.of_eq ?_ rfl rfl rfl
    exact ⟨balanced.sound.timers, balanced.sound.counted, balanced.sound.expiring⟩

/-! ## What follows -/

/-- A save timer is pending exactly if its grant is outstanding. -/
theorem Balanced.pending_iff (balanced : Balanced d live [] g) :
    g.timers.contains (saveKey token serial) = true ↔ serial ∈ g.ledger.serialsOf token := by
  constructor
  · exact balanced.sound.expiring token serial
  · intro outstanding
    obtain ⟨x, hx, rfl, rfl⟩ := balanced.outstanding_iff.mp outstanding
    have timed := (balanced.timed x hx).resolve_right (by simp)
    rw [TimerQueue.contains_eq_isSome_deadlineOf]
    exact congrArg Option.isSome timed

/-- A serial belongs to one grant. -/
theorem Balanced.eq_of_serial_eq (balanced : Balanced d live events g) {y : SaveGrant} (hx : x ∈ live)
    (hy : y ∈ live) (same : x.serial = y.serial) : x = y :=
  List.inj_on_of_nodup_map (nodup_serials balanced.ordered) hx hy same

/-- Of grants with serials of their own, some of which are outstanding, these are the ones whose
serials the ledger has. -/
theorem Balanced.outstanding_iff_mem {given : List SaveGrant} (balanced : Balanced d live events g)
    (ordered : given.Pairwise (·.serial < ·.serial)) (part : live.Sublist given) (hx : x ∈ given) :
    x.serial ∈ g.ledger.serialsOf x.token ↔ x ∈ live := by
  rw [balanced.outstanding_iff]
  constructor
  · rintro ⟨y, hy, -, same⟩
    rwa [List.inj_on_of_nodup_map (nodup_serials ordered) hx (part.mem hy) same.symm]
  · exact fun hx => ⟨x, hx, rfl, rfl⟩

/-! ## No empty records -/

/-- The ledger has no empty records, and a revocation is deferred only for an identity that holds
a capability. -/
structure Tidy (g : GrantState) : Prop where
  saves : ∀ token record, g.ledger.saves.get? token = some record → record.serials ≠ []
  capabilities : ∀ token kinds, g.ledger.capabilities.get? token = some kinds → kinds ≠ []
  deferring : ∀ token, g.timers.contains (backgroundKey token) = true →
    g.ledger.capabilities.contains token = true

theorem tidy_start (now : UInt64) : (GrantState.start now).Tidy where
  saves := by intro token record h; cases h
  capabilities := by intro token kinds h; cases h
  deferring := by intro token h; cases h

theorem Tidy.grantSave (tidy : g.Tidy) (d : GrantDelays) (token : Token) :
    (grantSave d token g).2.Tidy where
  saves := by
    intro token' record h
    change (g.ledger.saves.set token _).get? token' = some record at h
    rw [Assoc.get?_set] at h
    split at h
    · cases h; simp
    · exact tidy.saves token' record h
  capabilities := tidy.capabilities
  deferring := by
    intro token' h
    rw [contains_grantSave] at h
    exact tidy.deferring token' h

theorem Tidy.revokeSave (tidy : g.Tidy) (sound : g.Sound) (token : Token) (serial : UInt64) :
    (revokeSave token serial g).2.Tidy := by
  have timers (token' : Token) := contains_revokeSave token token' serial g
  obtain ⟨-, same⟩ | ⟨record, found, outstanding, taken⟩ := revokeSave_cases token serial g
  · rw [same]; exact tidy
  have count := sound.counted token record found
  rw [taken] at timers ⊢
  refine ⟨?_, tidy.capabilities, fun token' h => tidy.deferring token' (timers token' ▸ h)⟩
  intro token' record' h
  dsimp only at h
  split at h
  next =>
    rw [Assoc.get?_erase] at h
    split at h
    · cases h
    · exact tidy.saves token' record' h
  next left =>
    rw [Assoc.get?_set] at h
    split at h
    · -- a record that is kept has counted more than one serial
      cases h
      intro none
      have length := List.length_erase_of_mem outstanding
      change record.serials.erase serial = [] at none
      rw [none, ← count] at length
      exact left length.symm
    · exact tidy.saves token' record' h

theorem Tidy.revokeSaves (tidy : g.Tidy) (token : Token) : (revokeSaves token g).Tidy := by
  have timers (token' : Token) := contains_revokeSaves token token' g
  obtain ⟨same, -⟩ | taken := revokeSaves_cases token g
  · rw [same]; exact tidy
  rw [taken] at timers ⊢
  refine ⟨?_, tidy.capabilities, fun token' h => tidy.deferring token' (timers token' ▸ h)⟩
  intro token' record h
  dsimp only at h
  rw [Assoc.get?_erase] at h
  split at h
  · cases h
  · exact tidy.saves token' record h

/-- Noting some kinds, one at least, for an identity. -/
theorem Tidy.setKinds (tidy : g.Tidy) (token : Token) {kinds : List Kind} (some : kinds ≠ []) :
    Tidy { g with ledger := { g.ledger with capabilities := g.ledger.capabilities.set token kinds } } where
  saves := tidy.saves
  capabilities := by
    intro token' kinds' h
    dsimp only at h
    rw [Assoc.get?_set] at h
    split at h
    · cases h; exact some
    · exact tidy.capabilities token' kinds' h
  deferring := by
    intro token' h
    have holds := tidy.deferring token' h
    unfold Assoc.contains at holds ⊢
    dsimp only
    rw [Assoc.get?_set]
    split
    · rfl
    · exact holds

theorem Tidy.addCapability (tidy : g.Tidy) (token : Token) (kind : Kind) :
    (addCapability token kind g).2.Tidy :=
  tidy.setKinds token (List.ne_nil_of_mem ((Kind.mem_insert kind kind _).mpr (.inl rfl)))

theorem Tidy.remove (tidy : g.Tidy) (key : TimerKey) : Tidy { g with timers := g.timers.remove key } where
  saves := tidy.saves
  capabilities := tidy.capabilities
  deferring := by
    intro token h
    rw [TimerQueue.contains_remove, Bool.and_eq_true] at h
    exact tidy.deferring token h.2

theorem Tidy.dropCapabilities (tidy : g.Tidy) (token : Token) : (dropCapabilities token g).2.Tidy where
  saves := tidy.saves
  capabilities := by
    intro token' kinds h
    change (g.ledger.capabilities.erase token).get? token' = some kinds at h
    rw [Assoc.get?_erase] at h
    split at h
    · cases h
    · exact tidy.capabilities token' kinds h
  deferring := by
    intro token' h
    rw [contains_dropCapabilities, Bool.and_eq_true, decide_eq_true_eq] at h
    have holds := tidy.deferring token' h.2
    show ((g.ledger.capabilities.erase token).get? token').isSome = true
    rw [Assoc.get?_erase, if_neg h.1]
    exact holds

theorem Tidy.dropCapability (tidy : g.Tidy) (token : Token) (kind : Kind) :
    (dropCapability token kind g).2.Tidy := by
  obtain same | ⟨-, last⟩ | ⟨left, taken⟩ := dropCapability_cases token kind g
  · rw [same]; exact tidy
  · rw [last]; exact tidy.dropCapabilities token
  · rw [taken]; exact tidy.setKinds token left

theorem Tidy.cancelDeferred (tidy : g.Tidy) (token : Token) : (cancelDeferred token g).2.Tidy :=
  tidy.remove _

theorem Tidy.deferRevocation (tidy : g.Tidy) (d : GrantDelays) (token : Token) :
    (deferRevocation d token g).2.Tidy where
  saves := by rw [ledger_deferRevocation]; exact tidy.saves
  capabilities := by rw [ledger_deferRevocation]; exact tidy.capabilities
  deferring := by
    intro token' h
    rw [contains_deferRevocation, Bool.or_eq_true, Bool.and_eq_true, decide_eq_true_eq] at h
    rw [ledger_deferRevocation]
    rcases h with ⟨same, holds⟩ | h
    · exact same ▸ holds
    · exact tidy.deferring token' h

theorem Tidy.takeDue (tidy : g.Tidy) (now : UInt64) :
    Tidy { g with timers := (g.timers.takeDue now).2 } where
  saves := tidy.saves
  capabilities := tidy.capabilities
  deferring := by
    intro token h
    exact tidy.deferring token (TimerQueue.contains_takeDue _ _ _ |>.mp h).1

/-- Whoever takes a grant back is told whether the identity has none left. -/
theorem Tidy.fst_revokeSave (tidy : g.Tidy) (sound : g.Sound) (token : Token) (serial : UInt64) :
    (GrantState.revokeSave token serial g).1 = true ↔
      (GrantState.revokeSave token serial g).2.ledger.serialsOf token = [] := by
  rw [sound.serialsOf_revokeSave, if_pos rfl]
  unfold GrantState.revokeSave Ledger.serialsOf
  cases found : g.ledger.saves.get? token with
  | none => simp
  | some record =>
    have count := sound.counted token record found
    have some := tidy.saves token record found
    dsimp only
    split
    next outstanding =>
      have length := List.length_erase_of_mem (List.contains_iff_mem.mp outstanding)
      dsimp only [Option.map_some, Option.getD_some]
      rw [decide_eq_true_eq, count, ← length, List.length_eq_zero_iff]
    next absent =>
      rw [List.contains_iff_mem] at absent
      dsimp only [Option.map_some, Option.getD_some]
      rw [decide_eq_true_eq, count, List.length_eq_zero_iff, List.erase_of_not_mem absent]

end GrantState

end ClickGrant
