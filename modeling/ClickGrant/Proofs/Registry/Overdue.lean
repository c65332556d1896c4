import ClickGrant.Proofs.Registry.SaveHistory

/-!
# Save grants past their deadline

Handling what is due should leave no save grant whose deadline has come. Deadlines are added up
with saturation, and what is due is what stands before the first slot after the present time, which
is looked for with saturation as well. At the last time there is no slot after it. What is proved:
  1. `Recorded.turn`, `Recorded.run` — along every run, whatever the clock does in it, the
     outstanding save grants are some of those that its turns have given, and no serial is given
     twice.
  2. `survives_runDueTimers_iff` — so after what is due has been handled at any time, exactly those
     of them are outstanding whose deadline is later, or is the last time. No grant outlives its
     deadline unless the clock shows the last time and a grant is set for it.

As everywhere, it takes a run of fewer than 2^64 schedulings for serials to be told apart.
-/
set_option autoImplicit false

namespace ClickGrant.Registry

variable {s : Settings} {r r' : Registry} {turns past : List Turn} {log : List Exchange}
  {reply : Except Refusal Unit}

/-! ## Serials along a run -/

theorem DeferOnly.ledger_eq {g g' : GrantState} {d : GrantDelays} (h : DeferOnly d g g') :
    g'.ledger = g.ledger := by
  cases h with
  | same => rfl
  | cancelled token => rfl
  | deferred token => exact GrantState.ledger_deferRevocation d token g

theorem nextSerial_forfeited (token : Token) (g : GrantState) :
    (forfeited token g).ledger.nextSerial = g.ledger.nextSerial :=
  GrantState.nextSerial_revokeSaves token g

/-- A serial is used up for a save component only, and with it a scheduling. -/
theorem counters_credited (token : Token) (kind : Kind) (g : GrantState) :
    if kind = .save then
      (credited s token kind g).ledger.nextSerial = g.ledger.nextSerial + 1 ∧
        (credited s token kind g).timers.nextSeq = g.timers.nextSeq + 1
    else (credited s token kind g).ledger.nextSerial = g.ledger.nextSerial := by
  cases kind with
  | save => exact ⟨rfl, GrantState.nextSeq_grantSave s.delays token g⟩
  | location => rfl
  | paste => rfl

/-- A grant is given with the next serial and a timer, and no serial is used up otherwise. -/
theorem Turn.Taken.nextSerial {t : Turn} (taken : t.Taken s) :
    (t.grants = [] ∧ t.after.ledger.nextSerial = t.before.ledger.nextSerial) ∨
      ∃ token, t.grants = [⟨token, t.before.ledger.nextSerial, t.before.now⟩] ∧
        t.after.ledger.nextSerial = t.before.ledger.nextSerial + 1 ∧
        t.after.timers.nextSeq = t.before.timers.nextSeq + 1 := by
  obtain ⟨r, act, log, reply, r'⟩ := t
  have outcome : Outcome s r act log reply r' := taken.outcome
  cases outcome with
  | register f ends => exact .inl ⟨rfl, congrArg Ledger.nextSerial ends.idleOnly.ledger_eq⟩
  | update ends => exact .inl ⟨rfl, congrArg (·.ledger.nextSerial) ends.grants_eq⟩
  | unregister ends => exact .inl ⟨rfl, congrArg Ledger.nextSerial ends.idleOnly.ledger_eq⟩
  | @reportClick _ _ c _ _ _ _ _ r' f ends =>
    cases reply with
    | error e => exact .inl ⟨rfl, congrArg (·.ledger.nextSerial) ends.grants_of_error⟩
    | ok =>
      obtain ⟨token, door, grants⟩ := ends.grants_of_ok
      obtain ⟨p, _, found, -, -, rfl⟩ := door.present
      have counters := counters_credited (s := s) p.token c.kind r.toGrantState
      rw [← grants] at counters
      rw [Turn.grants_of_granted rfl rfl found]
      split at counters
      next save =>
        rw [if_pos save]
        exact .inr ⟨p.token, rfl, counters⟩
      next other =>
        rw [if_neg other]
        exact .inl ⟨rfl, counters⟩
  | foreground pid =>
    exact .inl ⟨rfl, congrArg Ledger.nextSerial (deferOnly_processForeground s.delays pid r).ledger_eq⟩
  | background pid =>
    exact .inl ⟨rfl, congrArg Ledger.nextSerial (deferOnly_processBackground s pid r).ledger_eq⟩
  | died ends =>
    refine .inl ⟨rfl, ?_⟩
    obtain ⟨-, same⟩ | ⟨p, -, idle⟩ := ends.grants
    · exact congrArg (·.ledger.nextSerial) same
    · exact (congrArg Ledger.nextSerial idle.ledger_eq).trans (nextSerial_forfeited p.token r.toGrantState)
  | armIdleExit => exact .inl ⟨rfl, rfl⟩
  | fire ends =>
    exact .inl ⟨rfl, (congrArg (·.ledger.nextSerial) ends.grants_eq).trans (GrantState.nextSerial_handled ..)⟩
  | runDueTimers ends =>
    exact .inl ⟨rfl, (congrArg (·.ledger.nextSerial) ends.grants_eq).trans
      (GrantState.counters_runDue r.toGrantState).2.1⟩
  | setClock now => exact .inl ⟨rfl, rfl⟩

/-- What is outstanding has been given by one of the turns. -/
structure Recorded (s : Settings) (past : List Turn) (r : Registry) (live : List SaveGrant) : Prop where
  balanced : GrantState.Balanced s.delays live [] r.toGrantState
  given : live.Sublist (past.flatMap Turn.grants)
  ordered : (past.flatMap Turn.grants).Pairwise (·.serial < ·.serial)
  spent : ∀ x ∈ past.flatMap Turn.grants, x.serial < r.ledger.nextSerial

theorem Recorded.turn {live : List SaveGrant} {t : Turn} (recorded : Recorded s past t.before live)
    (taken : t.Taken s) (few : t.before.timers.nextSeq ≤ t.after.timers.nextSeq) :
    ∃ live', Recorded s (past ++ [t]) t.after live' := by
  have balanced := taken.balanced recorded.balanced few
  have all : (past ++ [t]).flatMap Turn.grants = past.flatMap Turn.grants ++ t.grants := by
    rw [List.flatMap_append, List.flatMap_singleton]
  have given := (List.filter_sublist (l := live)
    (p := fun x => t.buried ≠ some x.token ∧ x.expiry ∉ t.fired)).trans recorded.given
  rcases taken.nextSerial with ⟨none, same⟩ | ⟨token, one, up, seq⟩
  · rw [none, List.append_nil] at balanced all
    exact ⟨_, balanced, all ▸ given, all ▸ recorded.ordered, all ▸ same ▸ recorded.spent⟩
  · -- a serial is used up with a scheduling, so it does not wrap around before the count of these
    have next := (succ_of_le recorded.balanced.fewer (seq ▸ few)).1
    have more := serials_snoc recorded.ordered recorded.spent next token t.before.now
    rw [one] at balanced all
    exact ⟨_, balanced, all ▸ given.append_right _, all ▸ more.1, all ▸ up ▸ more.2⟩

theorem Recorded.run (run : Run s r turns r') : ∀ {past : List Turn} {live : List SaveGrant},
    Recorded s past r live → r.timers.nextSeq.toNat = past.countP (·.schedules) →
    (past ++ turns).countP (·.schedules) < UInt64.size → ∃ live', Recorded s (past ++ turns) r' live' := by
  induction run with
  | done r =>
    intro past live recorded _ _
    rw [List.append_nil]
    exact ⟨live, recorded⟩
  | @next t turns _ taken _ ih =>
    intro past live recorded seq few
    rw [List.append_cons] at few ⊢
    rw [List.countP_append, List.countP_append] at few
    have next := taken.nextSeq (by omega)
    have grows : t.before.timers.nextSeq ≤ t.after.timers.nextSeq := by
      rw [UInt64.le_iff_toNat_le]
      omega
    obtain ⟨live', recorded⟩ := recorded.turn taken grows
    refine ih recorded ?_ ?_
    · rw [List.countP_append, next, seq]
    · rw [List.countP_append, List.countP_append]
      exact few

/-! ## What is due -/

/-- After what is due has been handled at any time, what is outstanding is what was so before and is
set for a later time, or for the last one. -/
theorem Recorded.runDueTimers {live : List SaveGrant} (recorded : Recorded s past r live) (now : UInt64)
    (ran : (perform s .runDueTimers).Does { r with now } log reply r') :
    GrantState.Balanced s.delays
      (live.filter fun x => now < x.deadline s.delays ∨ x.deadline s.delays = lastTime) [] r'.toGrantState := by
  have set : GrantState.Balanced s.delays live [] { r.toGrantState with now } :=
    recorded.balanced.of_eq ⟨recorded.balanced.sound.timers, recorded.balanced.sound.counted,
      recorded.balanced.sound.expiring⟩ rfl rfl rfl
  have after : r'.toGrantState = GrantState.ranDue { r.toGrantState with now } :=
    (perform_ends ran).of_runDueTimers
  have left : live.filter (fun x => now < x.deadline s.delays ∨ x.deadline s.delays = lastTime) =
      live.filter (·.expiry ∉ (GrantState.takeDue { r.toGrantState with now }).1) := by
    refine List.filter_congr fun x hx => decide_eq_decide.mpr ?_
    rw [set.expiry_mem_iff_ne hx, not_and_or, UInt64.not_le, not_not]
  rw [after, left]
  exact (set.takeDue now).handledAll

theorem survives_runDueTimers_iff {start now : UInt64} {consents : ConsentStore} {metrics : Option Metrics}
    (run : Run s (.start start consents metrics) turns r) (few : turns.countP (·.schedules) < UInt64.size)
    (ran : (perform s .runDueTimers).Does { r with now } log reply r') :
    let given := turns.flatMap Turn.grants
    let Outstanding (u : Registry) (x : SaveGrant) := x.serial ∈ u.ledger.serialsOf x.token
    (∀ token, ∀ serial ∈ r'.ledger.serialsOf token, ∃ x ∈ given, x.Is token serial) ∧
    (∀ x ∈ given, Outstanding r' x ↔
      Outstanding r x ∧ (now < x.deadline s.delays ∨ x.deadline s.delays = lastTime)) ∧
    ((∀ x ∈ given, Outstanding r' x → now < x.deadline s.delays) ↔
      ¬(now = lastTime ∧ ∃ x ∈ given, Outstanding r x ∧ x.deadline s.delays = lastTime)) := by
  intro given Outstanding
  have fresh : Recorded s [] (.start start consents metrics) [] :=
    ⟨GrantState.balanced_start s.delays start, .refl _, .nil, nofun⟩
  obtain ⟨live, recorded⟩ := Recorded.run run fresh rfl few
  have after := recorded.runDueTimers now ran
  have part : (live.filter fun x => now < x.deadline s.delays ∨ x.deadline s.delays = lastTime).Sublist
      given := List.filter_sublist.trans recorded.given
  have each (x) (hx : x ∈ given) : Outstanding r' x ↔
      Outstanding r x ∧ (now < x.deadline s.delays ∨ x.deadline s.delays = lastTime) := by
    show x.serial ∈ r'.ledger.serialsOf x.token ↔ x.serial ∈ r.ledger.serialsOf x.token ∧ _
    rw [after.outstanding_iff_mem recorded.ordered part hx,
      recorded.balanced.outstanding_iff_mem recorded.ordered recorded.given hx, List.mem_filter,
      decide_eq_true_eq]
  have latest (c : UInt64) : c ≤ lastTime := by
    rw [UInt64.le_iff_toNat_le, TimerQueue.toNat_lastTime]
    exact Nat.le_pred_of_lt c.toNat_lt
  refine ⟨fun token serial outstanding => ?_, each, ?_, ?_⟩
  · obtain ⟨x, hx, same⟩ := after.outstanding_iff.mp outstanding
    exact ⟨x, part.mem hx, same⟩
  · rintro none ⟨rfl, x, hx, outstanding, deadline⟩
    have later := none x hx ((each x hx).mpr ⟨outstanding, .inr deadline⟩)
    exact UInt64.not_lt.mpr (latest _) later
  · intro none x hx outstanding
    obtain ⟨before, later | deadline⟩ := (each x hx).mp outstanding
    · exact later
    · have other : now ≠ lastTime := fun same => none ⟨same, x, hx, before, deadline⟩
      rw [deadline]
      exact UInt64.lt_of_le_of_ne (latest now) other

namespace Scene

/-- A click on the save button at a given time. -/
def clickAt (now : UInt64) : List Act :=
  [.setClock now, .reportClick app 1000 saveButton "" (.point now ⟨150, 130⟩ (some [1])) none]

/-- A save button is clicked twice, and the second time there is not a whole life of a grant left. -/
def clickedLate : List Act :=
  [.register app .save saveButton ""] ++ clickAt (lastTime - 90000) ++ clickAt (lastTime - 20000)

/-- Then the clock shows the last time. -/
def atLast : Registry := { state clickedLate with now := lastTime }

/-- What is due is handled. -/
def drain (r : Registry) : Turn :=
  (playAct Environment.answer settings .runDueTimers r environment).1

theorem does_drain (r : Registry) :
    (perform settings .runDueTimers).Does r (drain r).log (drain r).reply (drain r).after :=
  taken_playAct Environment.answer settings .runDueTimers r environment

end Scene

open Scene in
/-- At the last time the first grant has been taken back, and the second one is still outstanding. -/
theorem survives_runDueTimers_clickedLate :
    let given := (Scene.turns clickedLate).flatMap Turn.grants
    given = [⟨537, 0, lastTime - 90000⟩, ⟨537, 1, lastTime - 20000⟩] ∧
    (state clickedLate).ledger.serialsOf 537 = [0, 1] ∧
    (∀ x ∈ given, x.serial ∈ (drain atLast).after.ledger.serialsOf x.token ↔
      x.serial ∈ (state clickedLate).ledger.serialsOf x.token ∧
        (lastTime < x.deadline settings.delays ∨ x.deadline settings.delays = lastTime)) ∧
    ∃ x ∈ given, x.serial ∈ (drain atLast).after.ledger.serialsOf x.token ∧
      ¬lastTime < x.deadline settings.delays := by
  have few : (Scene.turns clickedLate).countP (·.schedules) < UInt64.size := by decide +kernel
  have given : (Scene.turns clickedLate).flatMap Turn.grants =
      [⟨537, 0, lastTime - 90000⟩, ⟨537, 1, lastTime - 20000⟩] := by decide +kernel
  have ran : (perform settings .runDueTimers).Does { state clickedLate with now := lastTime }
      (drain atLast).log (drain atLast).reply (drain atLast).after := does_drain atLast
  obtain ⟨-, each, only⟩ := survives_runDueTimers_iff (run_turns clickedLate) few ran
  refine ⟨given, by decide +kernel, each, ?_⟩
  by_contra none
  push Not at none
  refine only.mp none ⟨rfl, ⟨537, 1, lastTime - 20000⟩, ?_, by decide +kernel, by decide +kernel⟩
  rw [given]
  exact List.mem_cons_of_mem _ (List.mem_singleton.mpr rfl)

open Scene in
/-- A grant whose deadline has come is still outstanding after what is due has been handled. -/
theorem outlives_deadline :
    config.validate = .ok () ∧
    Run (.ofConfig config none false) fresh (Scene.turns clickedLate) (state clickedLate) ∧
    (perform (.ofConfig config none false) .runDueTimers).Does { state clickedLate with now := lastTime }
      (drain atLast).log (drain atLast).reply (drain atLast).after ∧
    (Scene.turns clickedLate).flatMap Turn.grants =
      [⟨537, 0, lastTime - 90000⟩, ⟨537, 1, lastTime - 20000⟩] ∧
    SaveGrant.deadline settings.delays ⟨537, 1, lastTime - 20000⟩ ≤ lastTime ∧
    (drain atLast).after.ledger.serialsOf 537 = [1] :=
  ⟨accepted_config, run_turns clickedLate, does_drain atLast, by decide +kernel, by decide +kernel,
    by decide +kernel⟩

end ClickGrant.Registry
