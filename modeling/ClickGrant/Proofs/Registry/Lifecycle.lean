import ClickGrant.Proofs.Grant.Ends
import ClickGrant.Proofs.Grant.Ledger
import ClickGrant.Proofs.Registry.Components
import ClickGrant.Registry.Lifecycle
import ClickGrant.Registry.Timers

/-!
# How deaths and timers end

`Dies` lists the ways in which a process's death can end, `Fires` what a timer does when it goes
off, and `FiresAll` what several do one after the other. The store is asked to revoke the
permissions of every capability that is dropped; what it answers changes nothing in the registry.
-/
set_option autoImplicit false

namespace ClickGrant.Registry

variable {s : Settings} {r r' : Registry} {log : List Exchange} {pid : Pid}

/-! ## Death -/

/-- The enhancement module, if there is one, has heard of a death. -/
def deathNotice (s : Settings) (pid : Pid) : List Exchange :=
  if s.enhanced then [⟨.processDied pid, ()⟩] else []

/-- The grants after everything has been taken back from an identity. -/
def forfeited (token : Token) (g : GrantState) : GrantState :=
  (GrantState.dropCapabilities token (GrantState.revokeSaves token g)).2

/-- The ways in which a death can end. -/
inductive Dies (s : Settings) (pid : Pid) (r : Registry) : List Exchange → Registry → Prop where
  | unknown (absent : r.table.processes.get? pid = none) :
      Dies s pid r (deathNotice s pid) (removeProcess pid r).2
  | known {p : Registration} {l : List Exchange} {n : Nat} {u : Registry}
      (present : r.table.processes.get? pid = some p)
      (takes : GrantState.Takes p.token ((r.ledger.kindsOf p.token).flatMap Kind.permissions) l)
      (left : u = { (removeProcess pid r).2 with toGrantState := forfeited p.token r.toGrantState }) :
      Dies s pid r (deathNotice s pid ++ (l ++ postureCalls s (showActive n u)))
        (synced s (showActive n u))

/-- The enhancement module hears of a death before anything else is done. -/
theorem notice_ends {x : Op Registry Unit} {u : Unit}
    (h : Op.Does (if s.enhanced then Op.ask (.processDied pid) >>= fun _ => x else x) r log u r') :
    ∃ l, log = deathNotice s pid ++ l ∧ x.Does r l u r' := by
  unfold deathNotice
  split at h
  next enhanced =>
    obtain ⟨_, l, rest, rfl⟩ := Op.does_ask_bind.mp h
    exact ⟨l, by rw [if_pos enhanced]; rfl, rest⟩
  next plain => exact ⟨log, by rw [if_neg plain]; rfl, h⟩

theorem processDied_ends {u : Unit} (call : (processDied s pid).Does r log u r') :
    Dies s pid r log r' := by
  unfold processDied at call
  rw [Op.does_modifyGet_bind] at call
  obtain ⟨l, rfl, h⟩ := notice_ends call
  clear call
  -- what is left depends on whether the process was registered
  have removed : (removeProcess pid r).1.1 = r.table.processes.get? pid := rfl
  rw [removed] at h
  cases present : r.table.processes.get? pid with
  | none =>
    rw [present] at h
    obtain ⟨rfl, _, rfl⟩ := Op.does_pure.mp h
    rw [List.append_nil]
    exact .unknown present
  | some p =>
    simp only [present] at h
    rw [Op.does_bind] at h
    obtain ⟨l₁, _, _, l₂, revoked, h, rfl⟩ := h
    obtain ⟨g, inner, rfl⟩ := onGrants_ends revoked
    obtain ⟨rfl, takes⟩ := GrantState.revokeEverything_ends inner
    rw [Op.does_modify_bind] at h
    obtain ⟨rfl, rfl⟩ := syncPosture_ends h
    rw [GrantState.kindsOf_revokeSaves] at takes
    exact .known present takes rfl

/-! ## Timers -/

/-- The state after an identity has lost its capabilities. -/
def backgrounded (token : Token) (r : Registry) : Registry :=
  { r with
    toGrantState := (GrantState.dropCapabilities token r.toGrantState).2
    table := if (r.ledger.kindsOf token).isEmpty then r.table else r.table.clearGranted token .capability }

/-- What a timer does when it goes off. -/
inductive Fires (r : Registry) : TimerEvent → List Exchange → Registry → Prop where
  | save (token : Token) (serial : UInt64) :
      Fires r (.saveExpired token serial) [] (withdrawSave token serial r)
  | background {token : Token} {l : List Exchange}
      (takes : GrantState.Takes token ((r.ledger.kindsOf token).flatMap Kind.permissions) l) :
      Fires r (.backgroundExpired token) l (backgrounded token r)
  | idle : Fires r .idleExpired [] (beginShutdown r)

/-- What several timers do, one after the other. -/
inductive FiresAll : Registry → List TimerEvent → List Exchange → Registry → Prop where
  | nil (r : Registry) : FiresAll r [] [] r
  | cons {r u r' : Registry} {event : TimerEvent} {rest : List TimerEvent} {l₁ l₂ : List Exchange}
      (first : Fires r event l₁ u) (others : FiresAll u rest l₂ r') :
      FiresAll r (event :: rest) (l₁ ++ l₂) r'

/-- What every single timer keeps is kept by all of them. -/
theorem FiresAll.keeps {events : List TimerEvent} (Kept : Registry → Prop)
    (step : ∀ {r r' : Registry} {event : TimerEvent} {log : List Exchange},
      Fires r event log r' → Kept r → Kept r')
    (h : FiresAll r events log r') (start : Kept r) : Kept r' := by
  induction h with
  | nil r => exact start
  | cons first others ih => exact ih (step first start)

theorem handleTimer_ends {event : TimerEvent} {u : Unit} (h : (handleTimer event).Does r log u r') :
    Fires r event log r' := by
  cases event with
  | saveExpired token serial =>
    obtain ⟨rfl, rfl⟩ := Op.does_modify.mp h
    exact .save token serial
  | idleExpired =>
    obtain ⟨rfl, rfl⟩ := Op.does_modify.mp h
    exact .idle
  | backgroundExpired token =>
    change (expireCapabilities token).Does r log u r' at h
    unfold expireCapabilities at h
    rw [Op.does_bind] at h
    obtain ⟨l, kinds, _, _, revoked, h, rfl⟩ := h
    obtain ⟨g, inner, rfl⟩ := onGrants_ends revoked
    obtain ⟨rfl, rfl, takes⟩ := GrantState.revokeCapabilities_ends inner
    have fires := Fires.background takes
    unfold backgrounded at fires
    -- marks are cleared only if something was held
    split at h
    next held =>
      obtain ⟨rfl, rfl⟩ := Op.does_modify.mp h
      rw [Bool.not_eq_true'] at held
      rw [held] at fires
      rw [List.append_nil]
      exact fires
    next nothing =>
      obtain ⟨rfl, _, rfl⟩ := Op.does_pure.mp h
      rw [Bool.not_eq_true', Bool.not_eq_false] at nothing
      rw [nothing] at fires
      rw [List.append_nil]
      exact fires

theorem handleTimers_ends {events : List TimerEvent} {u : Unit}
    (h : (handleTimers events).Does r log u r') : FiresAll r events log r' := by
  induction events generalizing r log with
  | nil =>
    obtain ⟨rfl, _, rfl⟩ := Op.does_pure.mp h
    exact .nil _
  | cons event rest ih =>
    rw [handleTimers, Op.does_bind] at h
    obtain ⟨l₁, _, u, l₂, first, h, rfl⟩ := h
    exact .cons (handleTimer_ends first) (ih h)

/-- Every timer that is due goes off, in the order of the queue. -/
theorem runDueTimers_ends {n : Nat} (h : runDueTimers.Does r log n r') :
    FiresAll (takeDue r).2 (takeDue r).1 log r' := by
  unfold runDueTimers at h
  rw [Op.does_modifyGet_bind, Op.does_bind] at h
  obtain ⟨_, _, _, _, fired, h, rfl⟩ := h
  obtain ⟨rfl, _, rfl⟩ := Op.does_pure.mp h
  rw [List.append_nil]
  exact handleTimers_ends fired

end ClickGrant.Registry
