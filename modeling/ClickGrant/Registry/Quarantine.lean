import ClickGrant.Component.Kind

/-!
# Quarantine

Processes caught tampering. They stay flagged until they die; processes of the superuser never
are.
-/
set_option autoImplicit false

namespace ClickGrant

/-- The superuser. -/
def superuser : Uid := 0

/-- The flagged processes. -/
structure Quarantine where
  pids : List Pid
  deriving DecidableEq, Repr

namespace Quarantine

/-- Nobody is flagged. -/
def empty : Quarantine := ⟨[]⟩

def contains (q : Quarantine) (pid : Pid) : Bool := q.pids.contains pid

/-- How many processes are flagged. -/
def size (q : Quarantine) : Nat := q.pids.length

/-- Flags a process. The result says whether it was not flagged before and now is. -/
def mark (q : Quarantine) (pid : Pid) (uid : Uid) : Bool × Quarantine :=
  if uid = superuser || q.contains pid then (false, q) else (true, ⟨pid :: q.pids⟩)

/-- Takes the flag from a process. The result says whether it was flagged. -/
def clear (q : Quarantine) (pid : Pid) : Bool × Quarantine :=
  (q.contains pid, ⟨q.pids.filter (· ≠ pid)⟩)

end Quarantine

end ClickGrant
