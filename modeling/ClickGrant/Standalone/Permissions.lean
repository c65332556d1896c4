import ClickGrant.Refusal

/-!
# Permissions kept in memory

An identity store for running without the operating system's. It never refuses.
-/
set_option autoImplicit false

namespace ClickGrant

/-- Which identity has which permission. -/
structure PermissionStore where
  granted : List (Token × Permission)
  deriving DecidableEq, Repr

namespace PermissionStore

/-- Nobody has any permission. -/
def empty : PermissionStore := ⟨[]⟩

/-- Whether an identity has a permission. -/
def has (s : PermissionStore) (token : Token) (p : Permission) : Bool := s.granted.contains (token, p)

/-- Gives an identity a permission. -/
def grant (s : PermissionStore) (token : Token) (p : Permission) : PermissionStore :=
  if s.has token p then s else ⟨(token, p) :: s.granted⟩

/-- Takes a permission from an identity. -/
def revoke (s : PermissionStore) (token : Token) (p : Permission) : PermissionStore :=
  ⟨s.granted.filter (· ≠ (token, p))⟩

theorem has_grant (s : PermissionStore) (t t' : Token) (p p' : Permission) :
    (s.grant t p).has t' p' = (decide ((t', p') = (t, p)) || s.has t' p') := by
  unfold grant
  split
  next h =>
    by_cases e : (t', p') = (t, p)
    · obtain ⟨rfl, rfl⟩ := Prod.mk.inj e; simp [h]
    · simp [e]
  next h => simp [has, List.contains_eq_mem]

theorem has_revoke (s : PermissionStore) (t t' : Token) (p p' : Permission) :
    (s.revoke t p).has t' p' = (decide ((t', p') ≠ (t, p)) && s.has t' p') := by
  simp [has, revoke, List.contains_eq_mem, List.mem_filter, Bool.and_comm]

end PermissionStore

end ClickGrant
