import ClickGrant.Grant.Capability
import ClickGrant.Registry.Posture

/-!
# Life of processes

A process in the background loses its capabilities unless it comes back in time. With a process's
death all of it goes: its components, whatever its identity was granted, and its quarantine.
-/
set_option autoImplicit false

namespace ClickGrant.Registry

/-- A process has come to the foreground. The result says whether it owns any component. -/
def processForeground (pid : Pid) (r : Registry) : Bool × Registry :=
  match r.table.processes.get? pid with
  | none => (false, r)
  | some p =>
    let r := { r with table := r.table.setForeground pid true }
    (true, (changeGrants (GrantState.cancelDeferred p.token) r).2)

/-- A process has gone to the background. The result says whether it owns any component. -/
def processBackground (s : Settings) (pid : Pid) (r : Registry) : Bool × Registry :=
  match r.table.processes.get? pid with
  | none => (false, r)
  | some p =>
    let r := { r with table := r.table.setForeground pid false }
    (true, (changeGrants (GrantState.deferRevocation s.delays p.token) r).2)

/-- Takes a process out with its components. The result is what was taken out and how many
components are left. -/
def removeProcess (pid : Pid) (r : Registry) : (Option Registration × Nat) × Registry :=
  let table := r.table.dropProcess pid
  ((r.table.processes.get? pid, table.componentCount),
   { r with table, quarantine := (r.quarantine.clear pid).2 })

/-- A process has died. -/
def processDied (s : Settings) (pid : Pid) : Op Registry Unit := do
  let (removed, active) ← modifyGet (removeProcess pid)
  if s.enhanced then Op.ask (.processDied pid)
  match removed with
  | none => return ()
  | some p =>
    onGrants (GrantState.revokeEverything p.token)
    modify (showActive active)
    syncPosture s

end ClickGrant.Registry
