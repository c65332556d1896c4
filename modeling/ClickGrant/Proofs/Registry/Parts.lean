import ClickGrant.Proofs.Dialogue
import ClickGrant.Registry.Basic

/-!
# Parts of the registry

An operation on the grants or on the consents leaves the other parts of the registry as they are,
and so does keeping count. Flagging a process touches nothing but the quarantine and the count of
what has been flagged.
-/
set_option autoImplicit false

namespace ClickGrant.Registry

variable {r r' : Registry} {log : List Exchange} {α : Type}

theorem onGrants_ends {x : Op GrantState α} {a : α} (h : (onGrants x).Does r log a r') :
    ∃ g, x.Does r.toGrantState log a g ∧ r' = { r with toGrantState := g } := by
  unfold onGrants at h
  refine (Op.does_within ?_ ?_).mp h
  · intro _ _; rfl
  · intro _ _ _; rfl

theorem callGrants_ends {x : Call GrantState α} {result : Except Refusal α}
    (h : Call.Does (callGrants x) r log result r') :
    ∃ g, x.Does r.toGrantState log result g ∧ r' = { r with toGrantState := g } := by
  unfold callGrants at h
  refine (Call.does_within ?_ ?_).mp h
  · intro _ _; rfl
  · intro _ _ _; rfl

theorem callConsents_ends {x : Call ConsentStore α} {result : Except Refusal α}
    (h : Call.Does (callConsents x) r log result r') :
    ∃ c, x.Does r.consents log result c ∧ r' = { r with consents := c } := by
  unfold callConsents at h
  refine (Call.does_within ?_ ?_).mp h
  · intro _ _; rfl
  · intro _ _ _; rfl

/-! ## Keeping count -/

variable (f : Metrics → Metrics) (n : Nat) (r : Registry)

@[simp] theorem toGrantState_measure : (measure f r).toGrantState = r.toGrantState := rfl

@[simp] theorem table_measure : (measure f r).table = r.table := rfl

@[simp] theorem quarantine_measure : (measure f r).quarantine = r.quarantine := rfl

@[simp] theorem consents_measure : (measure f r).consents = r.consents := rfl

@[simp] theorem shuttingDown_measure : (measure f r).shuttingDown = r.shuttingDown := rfl

theorem measure_id : measure id r = r := by
  cases r
  simp [measure]

@[simp] theorem showActive_eq : showActive n r = measure (fun m => { m with active := n }) r := rfl

/-! ## Flagging a process -/

variable (caller : Caller)

@[simp] theorem toGrantState_quarantineCaller :
    (quarantineCaller caller r).toGrantState = r.toGrantState := by
  unfold quarantineCaller
  split <;> rfl

@[simp] theorem table_quarantineCaller : (quarantineCaller caller r).table = r.table := by
  unfold quarantineCaller
  split <;> rfl

end ClickGrant.Registry
