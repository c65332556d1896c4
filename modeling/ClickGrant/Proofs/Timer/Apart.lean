import ClickGrant.Proofs.Timer.Index

/-!
# Timers under different keys

A key belongs to one event (`TimerEvent.key_inj`), so acting on the timer of one save grant, of one
identity's deferred revocation or of the idle exit leaves every other timer as it is. What is proved:
  1. `deadlineOf_cancel_of_ne`, `deadlineOf_schedule_of_ne` — when another event is due.
  2. `Paired.under_remove`, `Paired.under_schedule` — the timers under another key, with their slots and
     events.
  3. `timer_keys_apart` — keys do not collide, and therefore 1 and 2 hold of every two events.
-/
set_option autoImplicit false

namespace ClickGrant

namespace TimerQueue

variable {q : TimerQueue} {key key' : TimerKey} {deadline : UInt64} {event : TimerEvent}

/-- What is pending under a key. -/
def under (q : TimerQueue) (key : TimerKey) : List TimerEntry := q.entries.filter (·.key = key)

theorem deadlineOf_cancel_of_ne (ne : key ≠ key') : (q.cancel key).2.deadlineOf key' = q.deadlineOf key' := by
  show (q.remove key).deadlineOf key' = _
  rw [deadlineOf_remove, if_neg ne]

theorem deadlineOf_schedule_of_ne (ne : key ≠ key') :
    (q.schedule key deadline event).deadlineOf key' = q.deadlineOf key' := by
  rw [deadlineOf_schedule, if_neg ne]

theorem Paired.under_remove (paired : q.Paired) (ne : key ≠ key') : (q.remove key).under key' = q.under key' := by
  unfold under
  rw [paired.entries_remove, List.filter_filter]
  refine List.filter_congr fun e _ => ?_
  by_cases here : e.key = key' <;> simp [here, ne.symm]

/-- A slot that is handed out is nobody's, so no entry of another key is overwritten. -/
theorem Paired.under_schedule (paired : q.Paired) (ne : key ≠ key') :
    (q.schedule key deadline event).under key' = q.under key' := by
  have fresh : ∀ e' ∈ (q.remove key).entries, e'.slot ≠ ⟨deadline, (q.remove key).nextSeq⟩ := by
    intro e' he' same
    have before := (paired.remove key).earlier e' he'
    rw [same] at before
    exact UInt64.lt_irrefl _ before
  rw [← paired.under_remove ne]
  exact filter_place (e := ⟨⟨deadline, (q.remove key).nextSeq⟩, key, event⟩) (by simp [ne])
    fun e' he' same => absurd same (fresh e' he')

end TimerQueue

open TimerQueue

/-- **Timer keys do not collide**, for all identities and serials. So whatever is cancelled or scheduled
anew under the key of one event, the timers of another event are the same as before, and it is due when it
was. -/
theorem timer_keys_apart :
    (∀ (token token' : Token) (serial serial' : UInt64),
      saveKey token serial = saveKey token' serial' → token = token' ∧ serial = serial') ∧
    Function.Injective backgroundKey ∧
    (∀ (token token' : Token) (serial : UInt64), saveKey token serial ≠ backgroundKey token') ∧
    (∀ (token : Token) (serial : UInt64), saveKey token serial ≠ idleKey) ∧
    (∀ token : Token, backgroundKey token ≠ idleKey) ∧
    ∀ (q : TimerQueue) (mine other : TimerEvent), mine ≠ other →
      (q.cancel mine.key).2.deadlineOf other.key = q.deadlineOf other.key ∧
      (∀ deadline event, (q.schedule mine.key deadline event).deadlineOf other.key = q.deadlineOf other.key) ∧
      (q.Paired → (q.cancel mine.key).2.under other.key = q.under other.key ∧
        ∀ deadline event, (q.schedule mine.key deadline event).under other.key = q.under other.key) := by
  refine ⟨fun _ _ _ _ => saveKey_inj.mp, fun _ _ => backgroundKey_inj.mp, saveKey_ne_backgroundKey,
    saveKey_ne_idleKey, backgroundKey_ne_idleKey, ?_⟩
  intro q mine other different
  have ne : mine.key ≠ other.key := mt TimerEvent.key_inj.mp different
  exact ⟨deadlineOf_cancel_of_ne ne, fun _ _ => deadlineOf_schedule_of_ne ne,
    fun paired => ⟨paired.under_remove ne, fun _ _ => paired.under_schedule ne⟩⟩

end ClickGrant
