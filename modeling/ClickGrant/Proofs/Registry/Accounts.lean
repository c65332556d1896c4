import ClickGrant.Proofs.Registry.Counting

/-!
# The metrics balance with the state

What has been counted on the way agrees with what there is at the end (`Balanced`). What is proved:
  1. `Turn.Taken.population`, `Turn.Taken.flags_balance` — what one turn does to the number of stored
     components and to the number of flagged processes.
  2. `Balanced.next` — so a turn keeps the balance, whatever it counts.
  3. `metrics_balance` — in every run of a fresh registry that keeps count: for every kind as many
     grants were counted as reports that succeeded; the registrations that succeeded are the
     components that were taken back, those that went with their processes, and those still stored,
     which the gauge shows; whoever was counted as flagged is flagged or has died since; and an
     attempt to register or a report counts once, for its own kind and result.
-/
set_option autoImplicit false

namespace ClickGrant

namespace Quarantine

variable {q : Quarantine} {pid : Pid}

/-- A flag that is cleared is one less. -/
theorem size_clear (once : q.pids.Nodup) (pid : Pid) :
    (q.clear pid).2.size + (if q.contains pid then 1 else 0) = q.size := by
  have total : (q.clear pid).2.size + q.pids.count pid = q.size := by
    have split := List.length_eq_countP_add_countP (fun p => decide (p = pid)) (l := q.pids)
    have others : (q.clear pid).2.size = q.pids.countP fun p => decide ¬decide (p = pid) = true := by
      simp [size, clear, List.countP_eq_length_filter]
    rw [others, Nat.add_comm]
    exact split.symm
  rw [← total, once.count, contains, List.contains_eq_mem]
  simp

theorem nodup_clear (once : q.pids.Nodup) (pid : Pid) : (q.clear pid).2.pids.Nodup := once.filter _

end Quarantine

namespace Registry

open Series (cell ofKind)

variable {s : Settings} {caller : Caller} {kind : Kind} {c : Component} {declared : String}
  {r r' : Registry} {log : List Exchange} {id : ComponentId} {event : ClickEvent}
  {handle : Option UInt64} {act : Act} {reply : Except Refusal Unit} {t : Turn}
  {turns past : List Turn} {m m' : Metrics}

/-! ## What a turn adds and takes away -/

/-- A component is registered. -/
def registered : Act → Except Refusal Unit → Nat
  | .register .., .ok _ => 1
  | _, _ => 0

/-- A component is taken back by its process. -/
def Turn.takenBack (t : Turn) : Nat :=
  match t.act, t.reply with
  | .unregister .., .ok _ => 1
  | _, _ => 0

/-- So many components go with a process that dies. -/
def Turn.purged (t : Turn) : Nat :=
  match t.act with
  | .died pid => Registration.size? (t.before.table.processes.get? pid)
  | _ => 0

/-- The flag of a process is cleared by its death. -/
def Turn.pardoned (t : Turn) : Nat :=
  match t.act with
  | .died pid => if t.before.quarantine.contains pid then 1 else 0
  | _ => 0

theorem Clicks.population (h : Clicks s caller id c declared event handle r log reply r') :
    r'.table.componentCount = r.table.componentCount := by
  cases h with
  | turnedAway => rfl
  | unadmitted _ refused =>
    rw [(sameCounts_markInvalid caller.pid id _).population, refused.table_eq]
  | unbelieved _ _ disbelief => rw [disbelief.table_eq]
  | unconsented => rfl
  | denied _ _ _ _ refused => cases refused; rfl
  | granted => exact ComponentTable.componentCount_modify ..

theorem Updates.population (h : Updates s caller id c declared r log reply r') :
    r'.table.componentCount = r.table.componentCount := by
  cases h with
  | turnedAway => rfl
  | unadmitted _ refused =>
    rw [(sameCounts_markInvalid caller.pid id _).population, refused.table_eq]
  | replaced => exact ComponentTable.componentCount_modify ..

/-- A registration adds one component. -/
theorem Registers.population {result : Except Refusal ComponentId}
    (h : Registers s caller kind c declared r log result r') :
    r'.table.componentCount = r.table.componentCount + if result.toBool then 1 else 0 := by
  cases h with
  | barred => rfl
  | otherKind => rfl
  | unadmitted _ _ refused => rw [refused.table_eq]; rfl
  | clash => rfl
  | stored _ _ _ fits stored =>
    rw [showActive_eq, table_measure, table_synced, stored]
    dsimp only
    rw [ComponentTable.componentCount_insert, ComponentTable.componentCount_allocate fits.free]
    rfl

/-- Taking one back subtracts it. -/
theorem Unregisters.population (h : Unregisters s caller id r log reply r')
    (once : r.table.processes.keys.Nodup) :
    r'.table.componentCount + (if reply.toBool then 1 else 0) = r.table.componentCount := by
  cases h with
  | taken _ _ present left =>
    rw [table_synced, showActive_eq, table_measure, left]
    exact ComponentTable.componentCount_takenOut once present
  | _ => rfl

/-- A death takes all components of the process. -/
theorem Dies.population {pid : Pid} (h : Dies s pid r log r') (once : r.table.processes.keys.Nodup) :
    r'.table.componentCount + Registration.size? (r.table.processes.get? pid) =
      r.table.componentCount := by
  have dropped := ComponentTable.componentCount_dropProcess once pid
  cases h with
  | unknown => exact dropped
  | known _ _ left =>
    rw [table_synced, showActive_eq, table_measure, left]
    exact dropped

theorem Turn.Taken.population (taken : t.Taken s) (once : t.before.table.processes.keys.Nodup) :
    t.after.table.componentCount + t.takenBack + t.purged =
      t.before.table.componentCount + registered t.act t.reply := by
  obtain ⟨before, act, log, reply, after⟩ := t
  have outcome := taken.outcome
  dsimp only at outcome once ⊢
  cases outcome with
  | @register _ _ _ _ _ result _ f ends =>
    rw [table_measure, ends.population]
    cases result <;> rfl
  | update ends => exact ends.population
  | unregister ends =>
    have fewer := ends.population once
    cases reply <;> exact fewer
  | reportClick f ends => exact ends.population
  | foreground pid => exact (sameCounts_processForeground pid before).population
  | background pid => exact (sameCounts_processBackground s pid before).population
  | died ends => exact ends.population once
  | armIdleExit => rfl
  | fire ends => exact ends.sameCounts.population
  | runDueTimers ends => exact ends.sameCounts.population
  | setClock now => rfl

/-- Flags come and go one by one. -/
theorem Turn.Taken.flags_balance (taken : t.Taken s) (once : t.before.quarantine.pids.Nodup) :
    t.after.quarantine.pids.Nodup ∧
      t.after.quarantine.size + t.pardoned =
        t.before.quarantine.size + (t.after.quarantine.size - t.before.quarantine.size) := by
  -- unless a process dies, no flag is cleared
  have alive (others : ∀ pid, t.act ≠ .died pid) : t.pardoned = 0 := by
    unfold Turn.pardoned
    split
    next pid death => exact absurd death (others pid)
    next => rfl
  cases taken.flags with
  | convicted pid why free left =>
    obtain ⟨caller, declares, -⟩ := why
    have none : t.pardoned = 0 := alive fun pid death => by rw [death] at declares; cases declares
    have new : pid ∉ t.before.quarantine.pids := by
      intro old
      rw [Quarantine.contains, List.contains_eq_mem, decide_eq_true old] at free
      cases free
    rw [left, none]
    refine ⟨List.nodup_cons.mpr ⟨new, once⟩, ?_⟩
    simp only [Quarantine.size, List.length_cons]
    omega
  | released pid death left =>
    have cleared := Quarantine.size_clear once pid
    have pardoned : t.pardoned = if t.before.quarantine.contains pid then 1 else 0 := by
      rw [Turn.pardoned, death]
    rw [left, pardoned]
    refine ⟨Quarantine.nodup_clear once pid, ?_⟩
    omega
  | kept _ others left =>
    rw [left, alive others]
    exact ⟨once, by omega⟩

/-! ## What an act counts -/

@[simp] theorem active_counted (act : Act) (reply : Except Refusal Unit) (m : Metrics) :
    (counted act reply m).active = m.active := by
  cases act with
  | reportClick => cases reply <;> rfl
  | _ => rfl

@[simp] theorem quarantined_counted (act : Act) (reply : Except Refusal Unit) (m : Metrics) :
    (counted act reply m).quarantined = m.quarantined := by
  cases act with
  | reportClick => cases reply <;> rfl
  | _ => rfl

/-- No refusal has the code of a success. -/
theorem ok_ne_code (e : Refusal) : ResultCode.ok ≠ e.code := by cases e <;> nofun

/-- A grant is counted exactly if the report of its click counts as a success. -/
theorem grants_counted (act : Act) (reply : Except Refusal Unit) {m : Metrics} {kind : Kind}
    (even : m.grants.count (ofKind kind) = m.clicks.count (cell kind .ok)) :
    (counted act reply m).grants.count (ofKind kind) = (counted act reply m).clicks.count (cell kind .ok) := by
  cases act with
  | reportClick caller id c declared event handle =>
    cases reply with
    | ok =>
      show (m.grants.add (ofKind c.kind)).count _ = (m.clicks.add (cell c.kind .ok)).count _
      rw [Series.count_add_ofKind, Series.count_add_cell, even]
      simp
    | error e =>
      show m.grants.count _ = (m.clicks.add (cell c.kind e.code)).count _
      rw [Series.count_add_cell, even]
      simp [ok_ne_code e]
  | _ => exact even

/-- A registration is counted as a success exactly if it is one. -/
theorem total_counted (act : Act) (reply : Except Refusal Unit) (m : Metrics) :
    (counted act reply m).registrations.total .ok = m.registrations.total .ok + registered act reply := by
  cases act with
  | register caller kind c declared =>
    refine (Series.total_add ..).trans ?_
    cases reply with
    | ok => rfl
    | error e => rw [ResultCode.ofResult, if_neg (ok_ne_code e)]; rfl
  | reportClick caller id c declared event handle => cases reply <;> rfl
  | _ => rfl

/-- One more of a kind and a result, and of no other. -/
def OneMore (kind : Kind) (code : ResultCode) (before after : Series) : Prop :=
  ∀ kind' code', after.count (cell kind' code') =
    before.count (cell kind' code') + if kind' = kind ∧ code' = code then 1 else 0

theorem oneMore_add (s : Series) (kind : Kind) (code : ResultCode) :
    OneMore kind code s (s.add (cell kind code)) := fun _ _ => Series.count_add_cell ..

/-- An attempt to register counts once among the registrations, a report once among the reports, both
for their own kind and result; nothing else counts there. -/
def CountsOnce (act : Act) (reply : Except Refusal Unit) (m m' : Metrics) : Prop :=
  match act with
  | .register _ kind _ _ =>
    OneMore kind (.ofResult reply) m.registrations m'.registrations ∧ m'.clicks = m.clicks
  | .reportClick _ _ c _ _ _ =>
    m'.registrations = m.registrations ∧ OneMore c.kind (.ofResult reply) m.clicks m'.clicks
  | _ => m'.registrations = m.registrations ∧ m'.clicks = m.clicks

theorem countsOnce_counted (act : Act) (reply : Except Refusal Unit) (m : Metrics) :
    CountsOnce act reply m (counted act reply m) := by
  cases act with
  | register caller kind c declared => exact ⟨oneMore_add _ _ _, rfl⟩
  | reportClick caller id c declared event handle =>
    cases reply <;> exact ⟨rfl, oneMore_add _ _ _⟩
  | _ => exact ⟨rfl, rfl⟩

/-! ## Runs -/

/-- A table in which every process is listed once, a gauge that shows what is stored, and flags that
are noted once. -/
structure Audited (s : Settings) (r : Registry) : Prop where
  table : r.table.Sound (max 1 s.maxComponents.toNat)
  gauge : Gauged r
  flags : r.quarantine.pids.Nodup

/-- A dialogue that nobody disturbs has moved the state by what each of its parts does. -/
theorem moved_of_ends {σ α : Type} {step : σ → σ → Prop} {t : σ} {a : α}
    (trans : ∀ s t u, step s t → step t u → step s u) :
    ∀ {d : Dialogue σ α} {s : σ} {log : List Exchange}, d.Moves step s → d.Ends (· = ·) log a t → step s t
  | .done _ _, _, _, moves, .done _ _ => moves
  | .ask _ _ _, _, _, moves, .ask rfl rest => trans _ _ _ moves.1 (moved_of_ends trans (moves.2 _ _) rest)

theorem Turn.Taken.sound {most : Nat} (least : 1 ≤ most) (enough : s.maxComponents.toNat ≤ most)
    (taken : t.Taken s) (sound : t.before.table.Sound most) : t.after.table.Sound most := by
  have keeps : (perform s t.act).Moves fun r r' => r.table.Sound most → r'.table.Sound most :=
    fun r => (moves_perform s t.act r).mono fun _ _ changes => changes.sound least enough
  exact moved_of_ends (fun _ _ _ h₁ h₂ sound => h₂ (h₁ sound)) (keeps t.before) taken sound

theorem Turn.Taken.audited (taken : t.Taken s) (audited : Audited s t.before) : Audited s t.after where
  table := taken.sound (Nat.le_max_left ..) (Nat.le_max_right ..) audited.table
  gauge := by
    intro m after
    rw [taken.metrics_eq audited.table.once audited.gauge] at after
    obtain ⟨m₀, -, rfl⟩ := Option.map_eq_some_iff.mp after
    exact active_counted ..
  flags := (taken.flags_balance audited.flags).1

/-- What has been counted agrees with what there is: for every kind, grants and reports that
succeeded; registrations that succeeded, the components that have gone since and those that are
stored; what the gauge shows; processes that were flagged, those that have died since and those that
still are. -/
structure Balanced (turns : List Turn) (r : Registry) (m : Metrics) : Prop where
  grants : ∀ kind, m.grants.count (ofKind kind) = m.clicks.count (cell kind .ok)
  components : m.registrations.total .ok =
    (turns.map Turn.takenBack).sum + (turns.map Turn.purged).sum + r.table.componentCount
  gauge : m.active = r.table.componentCount
  flags : m.quarantined = (turns.map Turn.pardoned).sum + r.quarantine.size

/-- A turn keeps the balance. -/
theorem Balanced.next (h : Balanced past t.before m) (taken : t.Taken s) (audited : Audited s t.before) :
    Balanced (past ++ [t]) t.after (t.tally m) where
  grants := fun kind => grants_counted t.act t.reply (h.grants kind)
  components := by
    have population := taken.population audited.table.once
    rw [Turn.tally, total_counted, followed, h.components]
    simp only [List.map_append, List.map_cons, List.map_nil, List.sum_append, List.sum_cons,
      List.sum_nil]
    omega
  gauge := active_counted ..
  flags := by
    have flags := (taken.flags_balance audited.flags).2
    rw [Turn.tally, quarantined_counted, followed, h.flags]
    simp only [List.map_append, List.map_cons, List.map_nil, List.sum_append, List.sum_cons,
      List.sum_nil]
    omega

theorem Run.balanced (run : Run s r turns r') (audited : Audited s r) (counts : r.metrics = some m)
    (h : Balanced past r m) : ∃ m', r'.metrics = some m' ∧ Balanced (past ++ turns) r' m' ∧
      ∀ t ∈ turns, ∃ m₀ m₁, t.before.metrics = some m₀ ∧ t.after.metrics = some m₁ ∧
        CountsOnce t.act t.reply m₀ m₁ := by
  induction run generalizing past m with
  | done r => exact ⟨m, counts, by rwa [List.append_nil], by intro t h; cases h⟩
  | @next t turns r' taken rest ih =>
    have after : t.after.metrics = some (t.tally m) := by
      rw [taken.metrics_eq audited.table.once audited.gauge, counts]
      rfl
    obtain ⟨m', last, balanced, all⟩ := ih (taken.audited audited) after (h.next taken audited)
    rw [List.append_assoc] at balanced
    refine ⟨m', last, balanced, List.forall_mem_cons.mpr ⟨?_, all⟩⟩
    exact ⟨m, t.tally m, counts, after, countsOnce_counted t.act t.reply (followed t.before t.after m)⟩

theorem audited_start (s : Settings) (now : UInt64) (consents : ConsentStore) :
    Audited s (start now consents (some .empty)) where
  table := ComponentTable.sound_startingAt _ baseId
  gauge := by
    intro m same
    cases same
    rfl
  flags := List.nodup_nil

theorem balanced_start (now : UInt64) (consents : ConsentStore) :
    Balanced [] (start now consents (some .empty)) .empty :=
  ⟨fun _ => rfl, rfl, rfl, rfl⟩

/-- In every run of a fresh registry that keeps count, what was counted agrees with what there is at
the end: for every kind the grants are the reports that succeeded; the registrations that succeeded
are the components that were taken back, those that went with their processes and those that are
stored, and the gauge shows how many these are; those counted as flagged have died since or are
flagged. On the way, every attempt to register and every report has counted exactly once, for its own
kind and result. A cell that is kept as a double agrees with these numbers up to 2^53 counts. -/
theorem metrics_balance {now : UInt64} {consents : ConsentStore}
    (run : Run s (start now consents (some .empty)) turns r) :
    ∃ m, r.metrics = some m ∧ Balanced turns r m ∧
      ∀ t ∈ turns, ∃ m₀ m₁, t.before.metrics = some m₀ ∧ t.after.metrics = some m₁ ∧
        CountsOnce t.act t.reply m₀ m₁ :=
  run.balanced (audited_start s now consents) rfl (balanced_start now consents)

namespace Scene

/-- The service when it starts, keeping count. -/
def counting : Registry := .start 1000000 (.ofFile .missing) (some .empty)

def lowestButton : Component := button (.save (some .save) none) 100 500

/-- Three buttons are registered and a fourth one is refused; one is clicked, one is taken back, an old
click on the other is reported, and the application dies. -/
def eventful : List Act :=
  [.register app .save saveButton "", .register app .save lowerButton "",
   .register app .save lowestButton "", .register app .save saveButton "",
   click 1000 saveButton 150 130, .unregister app 1001,
   .reportClick app 1000 saveButton "" (.point 0 ⟨150, 130⟩ (some [1])) none, .died app.pid]

/-- The turns of a service that keeps count. -/
def countedTurns (acts : List Act) : List Turn :=
  playActs Environment.answer settings acts counting environment

end Scene

open Scene in
/-- Of three components one was taken back and two have gone with the application, whose flag has gone
as well. -/
theorem metrics_balance_eventful :
    Run settings counting (countedTurns eventful) (lastState counting (countedTurns eventful)) ∧
    ((countedTurns eventful).map Turn.takenBack).sum = 1 ∧
    ((countedTurns eventful).map Turn.purged).sum = 2 ∧
    ((countedTurns eventful).map Turn.pardoned).sum = 1 ∧
    ∃ m, (lastState counting (countedTurns eventful)).metrics = some m ∧
      m.registrations.total .ok = 3 ∧ m.quarantined = 1 ∧ m.active = 0 ∧
      m.grants.count (ofKind .save) = m.clicks.count (cell .save .ok) := by
  have run : Run settings counting (countedTurns eventful) (lastState counting (countedTurns eventful)) :=
    run_playActs Environment.answer settings eventful counting environment
  have takenBack : ((countedTurns eventful).map Turn.takenBack).sum = 1 := by decide +kernel
  have purged : ((countedTurns eventful).map Turn.purged).sum = 2 := by decide +kernel
  have pardoned : ((countedTurns eventful).map Turn.pardoned).sum = 1 := by decide +kernel
  have nobody : (lastState counting (countedTurns eventful)).table.componentCount = 0 := by
    decide +kernel
  have unflagged : (lastState counting (countedTurns eventful)).quarantine.size = 0 := by
    decide +kernel
  obtain ⟨m, counts, balanced, -⟩ := metrics_balance run
  have components := balanced.components
  have flags := balanced.flags
  have gauge := balanced.gauge
  rw [takenBack, purged, nobody] at components
  rw [pardoned, unflagged] at flags
  rw [nobody] at gauge
  exact ⟨run, takenBack, purged, pardoned, m, counts, components, flags, gauge, balanced.grants .save⟩

end Registry

end ClickGrant
