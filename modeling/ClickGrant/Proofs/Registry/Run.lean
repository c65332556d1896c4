import ClickGrant.Proofs.Registry.Click
import ClickGrant.Proofs.Registry.Lifecycle

/-!
# Runs of the registry

An `Act` is a call on the registry, news about a process, a timer that goes off, or a move of the
clock. A `Turn` is one act carried out from one state to another, nobody disturbing it, with the
exchanges it took and its reply; `Outcome` lists how each act can end. A `Run` is any sequence of
turns, each beginning where the one before has left off.

What every turn keeps holds along every run (`Run.keeps`). If a property can be lost in one way
only, a run has it throughout exactly if that never happens (`Run.keeps_iff`). If some turns bring a
property about, others end it, and the rest leave it, it is read off the history (`Run.holds_iff`).
-/
set_option autoImplicit false

namespace ClickGrant.Registry

/-- What can be asked of the registry, and what can happen to it. -/
inductive Act where
  | register (caller : Caller) (kind : Kind) (c : Component) (declared : String)
  | update (caller : Caller) (id : ComponentId) (c : Component) (declared : String)
  | unregister (caller : Caller) (id : ComponentId)
  | reportClick (caller : Caller) (id : ComponentId) (c : Component) (declared : String)
      (event : ClickEvent) (handle : Option UInt64)
  | foreground (pid : Pid)
  | background (pid : Pid)
  | died (pid : Pid)
  | armIdleExit
  /-- A timer is reported, whether it was pending or not. -/
  | fire (event : TimerEvent)
  | runDueTimers
  /-- The clock moves. -/
  | setClock (now : UInt64)

/-- Carries an act out. The reply says whether it was refused, and why. -/
def perform (s : Settings) : Act → Op Registry (Except Refusal Unit)
  | .register caller kind c declared => do
    return (← register s caller kind c declared).map fun _ => ()
  | .update caller id c declared => (update s caller id c declared).run
  | .unregister caller id => (unregister s caller id).run
  | .reportClick caller id c declared event handle => reportClick s caller id c declared event handle
  | .foreground pid => do
    let _ ← modifyGet (processForeground pid)
    return .ok ()
  | .background pid => do
    let _ ← modifyGet (processBackground s pid)
    return .ok ()
  | .died pid => do
    processDied s pid
    return .ok ()
  | .armIdleExit => do
    modify (armIdleExit s)
    return .ok ()
  | .fire event => do
    handleTimer event
    return .ok ()
  | .runDueTimers => do
    let _ ← runDueTimers
    return .ok ()
  | .setClock now => do
    modify fun r => { r with now }
    return .ok ()

/-- The ways in which each act can end. -/
inductive Outcome (s : Settings) (r : Registry) :
    Act → List Exchange → Except Refusal Unit → Registry → Prop where
  | register {caller : Caller} {kind : Kind} {c : Component} {declared : String}
      {log : List Exchange} {result : Except Refusal ComponentId} {r' : Registry}
      (f : Metrics → Metrics) (ends : Registers s caller kind c declared r log result r') :
      Outcome s r (.register caller kind c declared) log (result.map fun _ => ()) (measure f r')
  | update {caller : Caller} {id : ComponentId} {c : Component} {declared : String}
      {log : List Exchange} {reply : Except Refusal Unit} {r' : Registry}
      (ends : Updates s caller id c declared r log reply r') :
      Outcome s r (.update caller id c declared) log reply r'
  | unregister {caller : Caller} {id : ComponentId} {log : List Exchange}
      {reply : Except Refusal Unit} {r' : Registry} (ends : Unregisters s caller id r log reply r') :
      Outcome s r (.unregister caller id) log reply r'
  | reportClick {caller : Caller} {id : ComponentId} {c : Component} {declared : String}
      {event : ClickEvent} {handle : Option UInt64} {log : List Exchange}
      {reply : Except Refusal Unit} {r' : Registry} (f : Metrics → Metrics)
      (ends : Clicks s caller id c declared event handle r log reply r') :
      Outcome s r (.reportClick caller id c declared event handle) log reply (measure f r')
  | foreground (pid : Pid) : Outcome s r (.foreground pid) [] (.ok ()) (processForeground pid r).2
  | background (pid : Pid) : Outcome s r (.background pid) [] (.ok ()) (processBackground s pid r).2
  | died {pid : Pid} {log : List Exchange} {r' : Registry} (ends : Dies s pid r log r') :
      Outcome s r (.died pid) log (.ok ()) r'
  | armIdleExit : Outcome s r .armIdleExit [] (.ok ()) (armIdleExit s r)
  | fire {event : TimerEvent} {log : List Exchange} {r' : Registry} (ends : Fires r event log r') :
      Outcome s r (.fire event) log (.ok ()) r'
  | runDueTimers {log : List Exchange} {r' : Registry}
      (ends : FiresAll (takeDue r).2 (takeDue r).1 log r') : Outcome s r .runDueTimers log (.ok ()) r'
  | setClock (now : UInt64) : Outcome s r (.setClock now) [] (.ok ()) { r with now }

/-- An operation without a result of interest. -/
theorem done_ends {α : Type} {x : Op Registry α} {r r' : Registry} {log : List Exchange}
    {reply : Except Refusal Unit} (h : Op.Does (x >>= fun _ => pure (.ok ())) r log reply r') :
    ∃ a, x.Does r log a r' ∧ reply = .ok () := by
  rw [Op.does_bind] at h
  obtain ⟨_, a, _, _, done, h, rfl⟩ := h
  obtain ⟨rfl, rfl, rfl⟩ := Op.does_pure.mp h
  exact ⟨a, by rwa [List.append_nil], rfl⟩

theorem perform_ends {s : Settings} {act : Act} {r r' : Registry} {log : List Exchange}
    {reply : Except Refusal Unit} (h : (perform s act).Does r log reply r') :
    Outcome s r act log reply r' := by
  cases act with
  | register caller kind c declared =>
    rw [perform, Op.does_bind] at h
    obtain ⟨_, result, _, _, done, h, rfl⟩ := h
    obtain ⟨rfl, rfl, rfl⟩ := Op.does_pure.mp h
    obtain ⟨f, u, ends, rfl⟩ := register_ends done
    rw [List.append_nil]
    exact .register f ends
  | update caller id c declared => exact .update (update_ends h)
  | unregister caller id => exact .unregister (unregister_ends h)
  | reportClick caller id c declared event handle =>
    obtain ⟨f, u, ends, rfl⟩ := reportClick_ends h
    exact .reportClick f ends
  | foreground pid =>
    obtain ⟨_, done, rfl⟩ := done_ends h
    obtain ⟨rfl, _, rfl⟩ := Op.does_modifyGet.mp done
    exact .foreground pid
  | background pid =>
    obtain ⟨_, done, rfl⟩ := done_ends h
    obtain ⟨rfl, _, rfl⟩ := Op.does_modifyGet.mp done
    exact .background pid
  | died pid =>
    obtain ⟨_, done, rfl⟩ := done_ends h
    exact .died (processDied_ends done)
  | armIdleExit =>
    obtain ⟨_, done, rfl⟩ := done_ends h
    obtain ⟨rfl, rfl⟩ := Op.does_modify.mp done
    exact .armIdleExit
  | fire event =>
    obtain ⟨_, done, rfl⟩ := done_ends h
    exact .fire (handleTimer_ends done)
  | runDueTimers =>
    obtain ⟨_, done, rfl⟩ := done_ends h
    exact .runDueTimers (runDueTimers_ends done)
  | setClock now =>
    obtain ⟨_, done, rfl⟩ := done_ends h
    obtain ⟨rfl, rfl⟩ := Op.does_modify.mp done
    exact .setClock now

/-- An act from one state to another. -/
structure Turn where
  before : Registry
  act : Act
  log : List Exchange
  reply : Except Refusal Unit
  after : Registry

/-- The act can go this way. -/
def Turn.Taken (s : Settings) (t : Turn) : Prop := (perform s t.act).Does t.before t.log t.reply t.after

theorem Turn.Taken.outcome {s : Settings} {t : Turn} (taken : t.Taken s) :
    Outcome s t.before t.act t.log t.reply t.after := perform_ends taken

theorem Outcome.of_died {s : Settings} {r r' : Registry} {pid : Pid} {log : List Exchange}
    {reply : Except Refusal Unit} (h : Outcome s r (.died pid) log reply r') : Dies s pid r log r' := by
  cases h with
  | died ends => exact ends

theorem Turn.Taken.dies {s : Settings} {t : Turn} {pid : Pid} (taken : t.Taken s)
    (act : t.act = .died pid) : Dies s pid t.before t.log t.after := by
  have outcome := taken.outcome
  rw [act] at outcome
  exact outcome.of_died

/-- Turns from one state to another. -/
inductive Run (s : Settings) : Registry → List Turn → Registry → Prop where
  | done (r : Registry) : Run s r [] r
  | next {t : Turn} {turns : List Turn} {r' : Registry} (taken : t.Taken s)
      (rest : Run s t.after turns r') : Run s t.before (t :: turns) r'

/-- One of these is of the first sort, and none of those after it is of the second. -/
def Since {α : Type} (Begins Ends : α → Prop) (l : List α) : Prop :=
  ∃ earlier a later, l = earlier ++ a :: later ∧ Begins a ∧ ∀ b ∈ later, ¬Ends b

theorem since_cons {α : Type} {Begins Ends : α → Prop} {a : α} {l : List α} :
    Since Begins Ends (a :: l) ↔ Since Begins Ends l ∨ (Begins a ∧ ∀ b ∈ l, ¬Ends b) := by
  constructor
  · rintro ⟨earlier, b, later, split, begins, lasts⟩
    cases earlier with
    | nil =>
      obtain ⟨rfl, rfl⟩ := List.cons.inj split
      exact .inr ⟨begins, lasts⟩
    | cons first earlier =>
      obtain ⟨-, rest⟩ := List.cons.inj split
      exact .inl ⟨earlier, b, later, rest, begins, lasts⟩
  · rintro (⟨earlier, b, later, rfl, begins, lasts⟩ | ⟨begins, lasts⟩)
    · exact ⟨a :: earlier, b, later, rfl, begins, lasts⟩
    · exact ⟨[], a, l, rfl, begins, lasts⟩

variable {s : Settings} {r r' : Registry} {turns : List Turn} {Kept Good : Registry → Prop}

/-- What every turn keeps holds before and after every turn of a run. -/
theorem Run.keeps (step : ∀ t : Turn, t.Taken s → Kept t.before → Kept t.after) (run : Run s r turns r')
    (start : Kept r) : Kept r' ∧ ∀ t ∈ turns, t.Taken s ∧ Kept t.before ∧ Kept t.after := by
  induction run with
  | done r => exact ⟨start, by intro t h; cases h⟩
  | next taken rest ih =>
    have after := step _ taken start
    obtain ⟨last, all⟩ := ih after
    refine ⟨last, List.forall_mem_cons.mpr ⟨⟨taken, start, after⟩, all⟩⟩

/-- A run passes through a state between any two of its turns. -/
theorem Run.split {later : List Turn} : ∀ {earlier : List Turn} {r : Registry},
    Run s r (earlier ++ later) r' → ∃ u, Run s r earlier u ∧ Run s u later r'
  | [], r, run => ⟨r, .done r, run⟩
  | _ :: _, _, .next taken rest => by
    obtain ⟨u, first, second⟩ := Run.split rest
    exact ⟨u, .next taken first, second⟩

theorem Run.taken (run : Run s r turns r') : ∀ t ∈ turns, t.Taken s := by
  induction run with
  | done r => intro t h; cases h
  | next taken rest ih => exact List.forall_mem_cons.mpr ⟨taken, ih⟩

/-- A property that a turn loses in one way only is kept all along a run exactly if no turn of it
goes that way. -/
theorem Run.keeps_iff {Lost : Turn → Prop} (step : ∀ t : Turn, t.Taken s → Kept t.before → Kept t.after)
    (exact_step : ∀ t : Turn, t.Taken s → Kept t.before → Good t.before → (Good t.after ↔ ¬Lost t))
    (run : Run s r turns r') (start : Kept r) (good : Good r) :
    (∀ t ∈ turns, Good t.after) ↔ ∀ t ∈ turns, ¬Lost t := by
  induction run with
  | done r => simp
  | next taken rest ih =>
    -- a turn that keeps the property leaves the same question to the rest of the run
    have once := exact_step _ taken start good
    rw [List.forall_mem_cons, List.forall_mem_cons]
    constructor
    · intro ⟨first, others⟩
      exact ⟨once.mp first, (ih (step _ taken start) first).mp others⟩
    · intro ⟨first, others⟩
      have first := once.mpr first
      exact ⟨first, (ih (step _ taken start) first).mpr others⟩

/-- A property that some turns bring about and others end holds after a run exactly if it was brought
about and not ended since, or held at the start and was never ended. -/
theorem Run.holds_iff (Holds : Registry → Prop) {Begins Ends : Turn → Prop}
    (step : ∀ t : Turn, t.Taken s → (Holds t.after ↔ Begins t ∨ (Holds t.before ∧ ¬Ends t)))
    (run : Run s r turns r') :
    Holds r' ↔ Since Begins Ends turns ∨ (Holds r ∧ ∀ t ∈ turns, ¬Ends t) := by
  induction run with
  | done r => simp [Since]
  | @next t rest last taken run ih =>
    have once := step t taken
    rw [since_cons, List.forall_mem_cons]
    constructor
    · intro holds
      rcases ih.mp holds with since | ⟨after, lasts⟩
      · exact .inl (.inl since)
      rcases once.mp after with begins | ⟨before, stays⟩
      · exact .inl (.inr ⟨begins, lasts⟩)
      · exact .inr ⟨before, stays, lasts⟩
    · rintro ((since | ⟨begins, lasts⟩) | ⟨before, stays, lasts⟩)
      · exact ih.mpr (.inl since)
      · exact ih.mpr (.inr ⟨once.mpr (.inl begins), lasts⟩)
      · exact ih.mpr (.inr ⟨once.mpr (.inr ⟨before, stays⟩), lasts⟩)

end ClickGrant.Registry
