import ClickGrant.Proofs.Grant.Bystanders
import ClickGrant.Proofs.Registry.Edits
import ClickGrant.Proofs.Registry.Identifiers
import ClickGrant.Proofs.Registry.Orderly
import ClickGrant.Proofs.Registry.Paired

/-!
# Processes are isolated

A call of a process, or news about it, concerns this process and the identity it is registered
under, and nobody else. What is proved:
  1. `Outcome.spares`, `Turn.Taken.spares` — every other process is registered as it was, with the
     flag that it had, and every other identity keeps its grants and its timers.
  2. `Outcome.of_missing` — a call on a component that the process does not have is refused, with no
     trace but a count.
  3. `processes_isolated` — both in every state that traffic leads to, with what the act does to the
     process itself.
-/
set_option autoImplicit false

namespace ClickGrant

namespace Registry

variable {s : Settings} {r r' : Registry} {act : Act} {log : List Exchange} {reply : Except Refusal Unit}
  {pid : Pid} {id : ComponentId} {token : Token} {p p' : Registration} {turns : List Turn} {t : Turn}

/-! ## Other identities -/

theorem IdleOnly.spares {g g' : GrantState} (h : IdleOnly g g') (token : Token) : g.Spares token g' := by
  cases h with
  | same => exact .refl token g
  | armed deadline => exact GrantState.spares_schedule .idleExpired nofun deadline g
  | disarmed => exact GrantState.spares_remove .idleExpired nofun g

theorem spares_credited {other : Token} (ne : other ≠ token) (kind : Kind) (g : GrantState) :
    g.Spares token (credited s other kind g) := by
  unfold credited
  split
  · exact GrantState.spares_grantSave ne g s.delays
  · exact GrantState.spares_addCapability ne g kind

theorem spares_forfeited {other : Token} (ne : other ≠ token) (g : GrantState) :
    g.Spares token (forfeited other g) :=
  (GrantState.spares_revokeSaves ne g).trans (GrantState.spares_dropCapabilities ne _)

/-- An act about a process spares every identity that the process is not registered under. -/
theorem Outcome.spares (h : Outcome s r act log reply r') (about : act.pid? = some pid)
    (foreign : ∀ p, r.table.processes.get? pid = some p → p.token ≠ token) :
    r.toGrantState.Spares token r'.toGrantState := by
  have same {g : GrantState} (eq : g = r.toGrantState) : r.toGrantState.Spares token g :=
    eq ▸ .refl token _
  cases h with
  | register f ends => exact ends.idleOnly.spares token
  | update ends => exact same ends.grants_eq
  | unregister ends => exact ends.idleOnly.spares token
  | reportClick f ends =>
    cases about
    rw [toGrantState_measure]
    cases reply with
    | error e => exact same ends.grants_of_error
    | ok =>
      obtain ⟨_, door, grants⟩ := ends.grants_of_ok
      obtain ⟨p, _, found, -, -, rfl⟩ := door.present
      rw [grants]
      exact spares_credited (foreign p found) _ _
  | foreground pid =>
    cases about
    cases found : r.table.processes.get? pid with
    | none => exact same (congrArg Registry.toGrantState (processForeground_of_none found))
    | some p =>
      rw [processForeground_of_some found]
      exact GrantState.spares_cancelDeferred (foreign p found) _
  | background pid =>
    cases about
    cases found : r.table.processes.get? pid with
    | none => exact same (congrArg Registry.toGrantState (processBackground_of_none found))
    | some p =>
      rw [processBackground_of_some found]
      exact GrantState.spares_deferRevocation (foreign p found) _ s.delays
  | died ends =>
    cases about
    obtain ⟨-, eq⟩ | ⟨p, found, idle⟩ := ends.grants
    · exact same eq
    · exact (spares_forfeited (foreign p found) _).trans (idle.spares token)
  | armIdleExit => cases about
  | fire => cases about
  | runDueTimers => cases about
  | setClock => cases about

/-- What a turn about one process leaves to everybody else. -/
structure Turn.Spares (t : Turn) (pid : Pid) : Prop where
  /-- Registered as before: identity, foreground and components, marks included. -/
  processes : ∀ other, other ≠ pid →
    t.after.table.processes.get? other = t.before.table.processes.get? other
  flags : ∀ other, other ≠ pid → t.after.quarantine.contains other = t.before.quarantine.contains other
  grants : ∀ token, (∀ p, t.before.table.processes.get? pid = some p → p.token ≠ token) →
    t.before.toGrantState.Spares token t.after.toGrantState

theorem Turn.Taken.spares (taken : t.Taken s) (about : t.act.pid? = some pid) : t.Spares pid where
  processes := (taken.outcome.reworks about).sameBut about
  flags := by
    intro other ne
    cases taken.flags with
    | convicted pid' why _ left =>
      obtain ⟨caller, declares, rfl, -⟩ := why
      obtain rfl := Option.some.inj ((Act.pid_of_declarer declares).symm.trans about)
      rw [left]
      simp [Quarantine.contains, ne]
    | released pid' death left =>
      rw [death] at about
      cases about
      rw [left, Bool.eq_iff_iff, Quarantine.contains_clear]
      exact and_iff_left ne
    | kept _ _ left => rw [left]
  grants := fun _ foreign => taken.outcome.spares about foreign

/-- A call on a component that the process does not have is refused, with no trace but a count. -/
theorem Outcome.of_missing (h : Outcome s r act log reply r') (about : act.pid? = some pid)
    (target : act.target? = some id) (missing : r.table.lookup? pid id = none) :
    log = [] ∧ (∃ e, reply = .error e) ∧ ∃ f, r' = measure f r := by
  have absent {kind : Kind} {token : Token} {claim : Prop} (present : StoredAs r pid id kind token) :
      claim := by
    obtain ⟨e, found⟩ := present.lookup_isSome
    rw [missing] at found
    cases found
  cases h with
  | update ends =>
    cases about
    cases target
    cases ends with
    | turnedAway => exact ⟨rfl, ⟨_, rfl⟩, _, (measure_id r).symm⟩
    | unadmitted door => exact absent door.present
    | replaced door => exact absent door.present
  | unregister ends =>
    cases about
    cases target
    cases ends with
    | taken _ _ present => rw [missing] at present; cases present
    | _ => exact ⟨rfl, ⟨_, rfl⟩, _, (measure_id r).symm⟩
  | reportClick f ends =>
    cases about
    cases target
    cases ends with
    | turnedAway => exact ⟨rfl, ⟨_, rfl⟩, f, rfl⟩
    | unadmitted door => exact absent door.present
    | unbelieved door => exact absent door.present
    | unconsented door => exact absent door.present
    | denied door => exact absent door.present
    | granted _ door => exact absent door.present
  | _ => cases target

/-! ## Runs -/

/-- Whatever traffic has led to a state, and whoever is still waiting in it: of the turns that are
taken from there, each one that is about one process leaves all others as they were registered, with
their flags, and all other identities with their grants and timers. Of the process itself it edits
what the act is about; where there is no such component the act is refused, with no trace but a
count. Entries of the queue are told apart by slots, which holds for 2^64 schedulings. For as long as
a component is stored it keeps its kind. -/
theorem processes_isolated {now : UInt64} {consents : ConsentStore} {metrics : Option Metrics}
    {moves : List (Move Act)}
    (run : Run s (trafficFrom s (start now consents metrics) moves).state turns r) :
    (∀ t ∈ turns, ∀ pid, t.act.pid? = some pid →
      t.Spares pid ∧
      Edits t.act (t.before.table.processes.get? pid) (t.after.table.processes.get? pid) ∧
      (∀ id, t.act.target? = some id → t.before.table.lookup? pid id = none →
        t.log = [] ∧ (∃ e, t.reply = .error e) ∧ ∃ f, t.after = measure f t.before) ∧
      ((trafficFrom s (start now consents metrics) moves).past.countP schedules +
          turns.countP (·.schedules) < UInt64.size →
        ∀ token, (∀ p, t.before.table.processes.get? pid = some p → p.token ≠ token) →
        ∀ e : TimerEntry, e.event.owner? = some token →
          (e ∈ t.after.timers.entries ↔ e ∈ t.before.timers.entries))) ∧
    (∀ earlier t later, turns = earlier ++ t :: later → ∀ pid id e,
      t.before.table.lookup? pid id = some e →
      (∀ u ∈ t :: later, (u.after.table.lookup? pid id).isSome) →
      ∃ e', r.table.lookup? pid id = some e' ∧ e'.component.kind = e.component.kind) := by
  constructor
  · intro t ht pid about
    have taken := run.taken t ht
    have spares := taken.spares about
    refine ⟨spares, (taken.outcome.reworks about).edits about,
      fun id target missing => taken.outcome.of_missing about target missing, ?_⟩
    intro few token foreign e owned
    obtain ⟨counted, ⟨live, events, balanced⟩, -⟩ :=
      (orderlyAfter_throughout s now consents metrics moves).1 (by omega)
    obtain ⟨sound, sound'⟩ := run.timers_sound balanced.sound t ht
    obtain ⟨paired, paired'⟩ := run.paired balanced.paired (by rw [counted]; exact few) t ht
    exact (spares.grants token foreign).mem_entries_iff sound sound' paired paired' owned
  · rintro earlier t later rfl pid id e stored stays
    obtain ⟨u, first, second⟩ := run.split
    have distinct : u.table.Distinct :=
      (@Run.keeps s _ _ _ (fun r => r.table.Distinct) (fun t taken => taken.outcome.distinct) first
        (distinct_throughout s now consents metrics moves)).1
    cases second with
    | next taken rest => exact (Run.next taken rest).kind_eq distinct stored stays

namespace Scene

/-- An application of another identity. -/
def stranger : Caller := { app with pid := 4343, token := 538 }

/-- A stranger has a save button clicked, and so has the application, which then dies. -/
def survivor : List Act :=
  [.register stranger .save saveButton "", .register app .save saveButton "",
    .reportClick stranger 1000 saveButton "" (.point 1000000 ⟨150, 130⟩ (some [1])) none,
    click 1001 saveButton 150 130, .died app.pid]

end Scene

open Scene in
/-- The application's death leaves the stranger registered, with its save grant and its timer. -/
theorem stranger_survives :
    ∃ t ∈ Scene.turns survivor,
      Run settings (trafficFrom settings fresh []).state (Scene.turns survivor) (state survivor) ∧
      t.act = .died app.pid ∧ t.Spares app.pid ∧
      t.after.ledger.saves.get? stranger.token = some ⟨1, [0]⟩ ∧
      t.after.timers.contains (saveKey stranger.token 0) = true ∧
      t.after.ledger.saves.get? app.token = none := by
  have facts : ((Scene.turns survivor)[4]?.any fun t =>
      decide (t.after.ledger.saves.get? stranger.token = some ⟨1, [0]⟩) &&
      t.after.timers.contains (saveKey stranger.token 0) &&
      decide (t.after.ledger.saves.get? app.token = none)) = true := by decide +kernel
  obtain ⟨t, found, facts⟩ := (Option.any_eq_true _ _).mp facts
  simp only [Bool.and_eq_true, decide_eq_true_eq] at facts
  have act : t.act = .died app.pid := by
    have acts : ((Scene.turns survivor).map (·.act))[4]? = some (.died app.pid) := by
      rw [map_act_turns]
      rfl
    rw [List.getElem?_map, found] at acts
    exact Option.some.inj acts
  have member := List.mem_of_getElem? found
  have about : t.act.pid? = some app.pid := by rw [act]; rfl
  have run : Run settings (trafficFrom settings fresh []).state (Scene.turns survivor) (state survivor) :=
    run_turns survivor
  obtain ⟨spares, -⟩ := (processes_isolated run).1 t member app.pid about
  exact ⟨t, member, run, act, spares, facts.1.1, facts.1.2, facts.2⟩

end Registry

end ClickGrant
