import ClickGrant.Proofs.Grant.Balance
import ClickGrant.Proofs.Registry.Grants
import ClickGrant.Proofs.Registry.Table

/-!
# Occupancy

Whether any process is registered decides on the input path and on the end of the service. What is
proved:
  1. `ComponentTable.isEmpty_iff` and what follows it — which changes of a table can leave it empty,
     and which cannot.
  2. `Calm` — what clicks, later declarations, news and timers leave alone: whether anybody is
     registered, whether the input path is protected and whether the idle exit is pending. Of these
     only an idle exit that goes off with nobody registered ends the service.
-/
set_option autoImplicit false

namespace ClickGrant

namespace ComponentTable

variable {t t' : ComponentTable}

/-! ## Which tables are empty -/

theorem isEmpty_iff (t : ComponentTable) : t.isEmpty = true ↔ ∀ pid, t.processes.get? pid = none := by
  obtain ⟨⟨entries⟩, nextId⟩ := t
  cases entries with
  | nil => exact ⟨fun _ _ => rfl, fun _ => rfl⟩
  | cons e rest =>
    constructor
    · intro h; cases h
    · intro none
      have first : Assoc.find e.1 (e :: rest) = Option.none := none e.1
      simp [Assoc.find] at first

/-- A table is as empty as another one in which the same processes are registered. -/
theorem isEmpty_congr
    (same : ∀ pid, (t'.processes.get? pid).isSome = (t.processes.get? pid).isSome) :
    t'.isEmpty = t.isEmpty := by
  rw [Bool.eq_iff_iff, isEmpty_iff, isEmpty_iff]
  refine forall_congr' fun pid => ?_
  rw [← Option.isNone_iff_eq_none, ← Option.isNone_iff_eq_none, ← Option.not_isSome,
    ← Option.not_isSome, same pid]

@[simp] theorem isEmpty_modify (t : ComponentTable) (pid : Pid) (id : ComponentId)
    (f : Component → Component) : (t.modify pid id f).isEmpty = t.isEmpty := by
  refine isEmpty_congr fun pid' => ?_
  rw [get?_modify]
  split
  · exact Option.isSome_map
  · rfl

@[simp] theorem isEmpty_setForeground (t : ComponentTable) (pid : Pid) (foreground : Bool) :
    (t.setForeground pid foreground).isEmpty = t.isEmpty := by
  refine isEmpty_congr fun pid' => ?_
  rw [get?_setForeground]
  split
  · exact Option.isSome_map
  · rfl

@[simp] theorem isEmpty_clearGranted (t : ComponentTable) (token : Token) (style : GrantStyle) :
    (t.clearGranted token style).isEmpty = t.isEmpty := by
  refine isEmpty_congr fun pid => ?_
  rw [show (t.clearGranted token style).processes.get? pid = _ from Assoc.get?_mapValues ..]
  exact Option.isSome_map

theorem isEmpty_dropProcess_of_none {pid : Pid} (absent : t.processes.get? pid = none) :
    (t.dropProcess pid).isEmpty = t.isEmpty := by
  refine isEmpty_congr fun pid' => ?_
  rw [get?_dropProcess]
  split
  next same => rw [← same, absent]
  next => rfl

/-- Where nobody is new, nobody is left of nobody. -/
theorem Thins.isEmpty (thins : t.Thins t') (empty : t.isEmpty = true) : t'.isEmpty = true := by
  rw [isEmpty_iff] at empty ⊢
  intro pid
  cases found : t'.processes.get? pid with
  | none => rfl
  | some p' =>
    obtain ⟨p, before, -⟩ := thins pid p' found
    rw [empty pid] at before
    cases before

end ComponentTable

/-- Protect the input path, or stop protecting it. -/
def Request.switch? : Request → Option Bool
  | .enableInput => some true
  | .disableInput => some false
  | _ => none

/-! ## The idle exit among the timers -/

namespace GrantState

variable (token : Token) (g : GrantState)

@[simp] theorem idle_grantSave (d : GrantDelays) :
    (grantSave d token g).2.timers.contains idleKey = g.timers.contains idleKey := by
  show (g.timers.schedule _ _ _).contains idleKey = _
  simp

@[simp] theorem idle_revokeSave (serial : UInt64) :
    (revokeSave token serial g).2.timers.contains idleKey = g.timers.contains idleKey := by
  obtain ⟨-, same⟩ | ⟨_, _, -, taken⟩ := revokeSave_cases token serial g
  · rw [same]
  · rw [taken]
    simp

@[simp] theorem idle_revokeSaves :
    (revokeSaves token g).timers.contains idleKey = g.timers.contains idleKey := by
  rw [TimerQueue.contains_eq_isSome_deadlineOf, deadlineOf_revokeSaves (by simp),
    TimerQueue.contains_eq_isSome_deadlineOf]

@[simp] theorem idle_dropCapabilities :
    (dropCapabilities token g).2.timers.contains idleKey = g.timers.contains idleKey := by
  show (g.timers.remove _).contains idleKey = _
  simp

@[simp] theorem idle_cancelDeferred :
    (cancelDeferred token g).2.timers.contains idleKey = g.timers.contains idleKey := by
  show (g.timers.remove _).contains idleKey = _
  simp

@[simp] theorem idle_deferRevocation (d : GrantDelays) :
    (deferRevocation d token g).2.timers.contains idleKey = g.timers.contains idleKey := by
  unfold deferRevocation
  split
  · simp
  · rfl

end GrantState

namespace Registry

variable {s : Settings} {r r' : Registry} {act : Act} {log : List Exchange} {reply : Except Refusal Unit}

/-! ## Changes that leave occupancy alone -/

/-- Whether anybody is registered, whether the input path is protected and whether the idle exit is
pending stay as they are; the service may go down while nobody is registered. -/
structure Calm (r r' : Registry) : Prop where
  table : r'.table.isEmpty = r.table.isEmpty
  posture : r'.inputEnabled = r.inputEnabled
  idle : r'.timers.contains idleKey = r.timers.contains idleKey
  down : r'.shuttingDown = r.shuttingDown ∨ r'.shuttingDown = true ∧ r'.table.isEmpty = true

namespace Calm

theorem refl (r : Registry) : Calm r r := ⟨rfl, rfl, rfl, .inl rfl⟩

theorem trans {u : Registry} (h₁ : Calm r u) (h₂ : Calm u r') : Calm r r' where
  table := h₂.table.trans h₁.table
  posture := h₂.posture.trans h₁.posture
  idle := h₂.idle.trans h₁.idle
  down := by
    rcases h₂.down with same | gone
    · rcases h₁.down with same' | gone
      · exact .inl (same.trans same')
      · exact .inr ⟨same.trans gone.1, h₂.table.trans gone.2⟩
    · exact .inr gone

/-- A change of the grants that leaves the idle exit alone. -/
theorem of_grants {g : GrantState} (idle : g.timers.contains idleKey = r.timers.contains idleKey) :
    Calm r { r with toGrantState := g } := ⟨rfl, rfl, idle, .inl rfl⟩

/-- A change of the table that leaves the same processes registered. -/
theorem of_table {t : ComponentTable} (same : t.isEmpty = r.table.isEmpty) :
    Calm r { r with table := t } := ⟨same, rfl, rfl, .inl rfl⟩

end Calm

theorem calm_measure (f : Metrics → Metrics) (r : Registry) : Calm r (measure f r) :=
  ⟨rfl, rfl, rfl, .inl rfl⟩

theorem calm_quarantineCaller (caller : Caller) (r : Registry) : Calm r (quarantineCaller caller r) := by
  unfold quarantineCaller
  split
  · exact ⟨rfl, rfl, rfl, .inl rfl⟩
  · exact .refl r

theorem calm_markInvalid (pid : Pid) (id : ComponentId) (r : Registry) : Calm r (markInvalid pid id r) :=
  .of_table (ComponentTable.isEmpty_modify ..)

theorem calm_processForeground (pid : Pid) (r : Registry) : Calm r (processForeground pid r).2 := by
  cases found : r.table.processes.get? pid with
  | none => rw [processForeground_of_none found]; exact .refl r
  | some p =>
    rw [processForeground_of_some found]
    exact ⟨ComponentTable.isEmpty_setForeground .., rfl, GrantState.idle_cancelDeferred .., .inl rfl⟩

theorem calm_processBackground (s : Settings) (pid : Pid) (r : Registry) :
    Calm r (processBackground s pid r).2 := by
  cases found : r.table.processes.get? pid with
  | none => rw [processBackground_of_none found]; exact .refl r
  | some p =>
    rw [processBackground_of_some found]
    exact ⟨ComponentTable.isEmpty_setForeground .., rfl, GrantState.idle_deferRevocation .., .inl rfl⟩

theorem calm_withdrawSave (token : Token) (serial : UInt64) (r : Registry) :
    Calm r (withdrawSave token serial r) := by
  have idle := GrantState.idle_revokeSave token r.toGrantState serial
  unfold withdrawSave changeGrants
  cases revoked : GrantState.revokeSave token serial r.toGrantState with
  | mk last g =>
    rw [revoked] at idle
    cases last with
    | true => exact ⟨ComponentTable.isEmpty_clearGranted .., rfl, idle, .inl rfl⟩
    | false => exact ⟨rfl, rfl, idle, .inl rfl⟩

theorem calm_backgrounded (token : Token) (r : Registry) : Calm r (backgrounded token r) := by
  refine ⟨?_, rfl, GrantState.idle_dropCapabilities .., .inl rfl⟩
  unfold backgrounded
  dsimp only
  split
  · rfl
  · exact ComponentTable.isEmpty_clearGranted ..

theorem calm_beginShutdown (r : Registry) : Calm r (beginShutdown r) := by
  unfold beginShutdown
  split
  next empty => exact ⟨rfl, rfl, rfl, .inr ⟨rfl, empty⟩⟩
  next => exact .refl r

theorem Admits.calm {caller : Caller} {c : Component} {declared : String}
    {result : Except Refusal Component} (h : Admits s caller c declared r log result r') : Calm r r' := by
  cases h with
  | tampered => exact calm_quarantineCaller caller r
  | _ => exact .refl r

theorem Believes.calm {caller : Caller} {c : Component} {event : ClickEvent}
    {result : Except Refusal Unit} (h : Believes s caller c event r log result r') : Calm r r' := by
  cases h with
  | rejected =>
    split
    · exact calm_quarantineCaller caller r
    · exact .refl r
  | _ => exact .refl r

theorem calm_credited (token : Token) (kind : Kind) (r : Registry) :
    Calm r { r with toGrantState := credited s token kind r.toGrantState } := by
  refine .of_grants ?_
  unfold credited
  split
  · exact GrantState.idle_grantSave ..
  · rfl

theorem Clicks.calm {caller : Caller} {id : ComponentId} {c : Component} {declared : String}
    {event : ClickEvent} {handle : Option UInt64}
    (h : Clicks s caller id c declared event handle r log reply r') : Calm r r' := by
  cases h with
  | turnedAway => exact .refl r
  | unadmitted _ refused => exact refused.calm.trans (calm_markInvalid ..)
  | unbelieved _ _ disbelief => exact disbelief.calm
  | unconsented => exact .refl r
  | @denied _ _ _ _ _ _ _ store _ _ _ _ _ refused =>
    have stored : Calm r { r with consents := store } := ⟨rfl, rfl, rfl, .inl rfl⟩
    cases refused with
    | denied => exact stored
  | granted f =>
    refine .trans ?_ (calm_measure f _)
    exact ⟨ComponentTable.isEmpty_modify .., rfl, (calm_credited _ _ r).idle, .inl rfl⟩

theorem Updates.calm {caller : Caller} {id : ComponentId} {c : Component} {declared : String}
    (h : Updates s caller id c declared r log reply r') : Calm r r' := by
  cases h with
  | turnedAway => exact .refl r
  | unadmitted _ refused => exact refused.calm.trans (calm_markInvalid ..)
  | replaced => exact .of_table (ComponentTable.isEmpty_modify ..)

theorem Fires.calm {event : TimerEvent} (h : Fires r event log r') : Calm r r' := by
  cases h with
  | save token serial => exact calm_withdrawSave token serial r
  | background => exact calm_backgrounded _ r
  | idle => exact calm_beginShutdown r

end Registry

end ClickGrant
