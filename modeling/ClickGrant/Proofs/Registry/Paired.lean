import ClickGrant.Proofs.Grant.Bystanders
import ClickGrant.Proofs.Registry.SaveHistory

/-!
# The queue of timers along runs

The two indexes of the timer queue show the same timers (`TimerQueue.Paired`) as long as the count of
schedulings does not wrap around. What is proved:
  1. `Outcome.paired` — an act that schedules no more than there is room for keeps them paired.
  2. `Run.paired` — so they are paired throughout a run with fewer than 2^64 schedulings.
-/
set_option autoImplicit false

namespace ClickGrant

namespace GrantState

variable {g : GrantState} {token : Token} {event : TimerEvent}

/-! ## Paired timers -/

theorem paired_revokeSave (paired : g.timers.Paired) (token : Token) (serial : UInt64) :
    (revokeSave token serial g).2.timers.Paired := by
  obtain ⟨-, same⟩ | ⟨_, _, -, taken⟩ := revokeSave_cases token serial g
  · rw [same]
    exact paired
  · rw [taken]
    exact paired.remove _

theorem paired_handled (paired : g.timers.Paired) : (handled g event).timers.Paired := by
  cases event with
  | saveExpired token serial => exact paired_revokeSave paired token serial
  | backgroundExpired token => exact paired.remove _
  | idleExpired => exact paired

theorem paired_handledAll : ∀ (events : List TimerEvent) {g : GrantState}, g.timers.Paired →
    (events.foldl handled g).timers.Paired
  | [], _, paired => paired
  | _ :: rest, _, paired => paired_handledAll rest (paired_handled paired)

end GrantState

namespace Registry

variable {s : Settings} {r r' : Registry} {act : Act} {log : List Exchange} {reply : Except Refusal Unit}
  {pid : Pid} {id : ComponentId} {token : Token} {p p' : Registration} {turns : List Turn} {t : Turn}

/-! ## The queue of timers -/

theorem IdleOnly.paired {g g' : GrantState} (h : IdleOnly g g')
    (few : g.timers.nextSeq ≤ g'.timers.nextSeq) (paired : g.timers.Paired) : g'.timers.Paired := by
  cases h with
  | same => exact paired
  | armed deadline => exact paired.schedule deadline .idleExpired few
  | disarmed => exact paired.remove idleKey

theorem DeferOnly.paired {d : GrantDelays} {g g' : GrantState} (h : DeferOnly d g g')
    (few : g.timers.nextSeq ≤ g'.timers.nextSeq) (paired : g.timers.Paired) : g'.timers.Paired := by
  cases h with
  | same => exact paired
  | cancelled token => exact paired.remove _
  | deferred token =>
    unfold GrantState.deferRevocation at few ⊢
    split at few
    next holds => rw [if_pos holds]; exact paired.schedule _ _ few
    next none => rw [if_neg none]; exact paired

/-- The timers stay paired, unless the count of schedulings wraps around. -/
theorem Outcome.paired (h : Outcome s r act log reply r')
    (few : r.timers.nextSeq ≤ r'.timers.nextSeq) (paired : r.timers.Paired) : r'.timers.Paired := by
  have same {g : GrantState} (eq : g = r.toGrantState) : g.timers.Paired := eq ▸ paired
  cases h with
  | register f ends => exact ends.idleOnly.paired few paired
  | update ends => exact same ends.grants_eq
  | unregister ends => exact ends.idleOnly.paired few paired
  | @reportClick _ _ _ _ _ _ _ _ u f ends =>
    show u.timers.Paired
    cases reply with
    | error e => exact same ends.grants_of_error
    | ok =>
      obtain ⟨token, _, grants⟩ := ends.grants_of_ok
      have few : r.timers.nextSeq ≤ u.timers.nextSeq := few
      rw [grants] at few ⊢
      unfold credited at few ⊢
      split at few
      · exact paired.schedule _ _ few
      · exact paired
  | foreground pid => exact (deferOnly_processForeground s.delays pid r).paired few paired
  | background pid => exact (deferOnly_processBackground s pid r).paired few paired
  | died ends =>
    obtain ⟨-, eq⟩ | ⟨p, -, idle⟩ := ends.grants
    · exact same eq
    · have forfeited : (forfeited p.token r.toGrantState).timers.Paired :=
        (GrantState.paired_revokeSaves paired p.token).remove _
      refine idle.paired ?_ forfeited
      rw [nextSeq_forfeited]
      exact few
  | armIdleExit => exact paired.schedule _ .idleExpired few
  | fire ends => rw [ends.grants_eq]; exact GrantState.paired_handled paired
  | runDueTimers ends =>
    rw [ends.grants_eq]
    exact GrantState.paired_handledAll _ (paired.takeDue r.now)
  | setClock now => exact paired

/-- In a run with fewer than 2^64 schedulings the timers are paired throughout. -/
theorem Run.paired (run : Run s r turns r') (paired : r.timers.Paired)
    (few : r.timers.nextSeq.toNat + turns.countP (·.schedules) < UInt64.size) :
    ∀ t ∈ turns, t.before.timers.Paired ∧ t.after.timers.Paired := by
  induction run with
  | done r => intro t h; cases h
  | @next t rest last taken run ih =>
    have split : (t :: rest).countP (·.schedules) =
        [t].countP (·.schedules) + rest.countP (·.schedules) := by
      rw [← List.countP_append, List.singleton_append]
    have seq := taken.nextSeq (by omega)
    have after := taken.outcome.paired (by rw [UInt64.le_iff_toNat_le]; omega) paired
    exact List.forall_mem_cons.mpr ⟨⟨paired, after⟩, ih after (by omega)⟩

/-- The timers are sound before and after every turn of a run that begins with sound grants. -/
theorem Run.timers_sound (run : Run s r turns r') (sound : r.toGrantState.Sound) :
    ∀ t ∈ turns, t.before.timers.Sound ∧ t.after.timers.Sound := by
  intro t ht
  obtain ⟨-, all⟩ := @Run.keeps s _ _ _ (fun r => r.toGrantState.Sound)
    (fun t taken => taken.outcome.sound) run sound
  obtain ⟨-, before, after⟩ := all t ht
  exact ⟨before.timers, after.timers⟩

end Registry

end ClickGrant
