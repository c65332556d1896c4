import ClickGrant.Registry.Click
import ClickGrant.Registry.Lifecycle

/-!
# Timers of the registry

What the registry does when a timer goes off: an expired save grant or an identity's capabilities
are taken back, components lose the mark of a grant that is gone, or the service shuts down.
-/
set_option autoImplicit false

namespace ClickGrant.Registry

/-- An identity stayed in the background too long. -/
def expireCapabilities (token : Token) : Op Registry Unit := do
  let kinds ← onGrants (GrantState.revokeCapabilities token)
  if !kinds.isEmpty then
    modify fun r => { r with table := r.table.clearGranted token .capability }

/-- A timer has gone off. -/
def handleTimer (event : TimerEvent) : Op Registry Unit :=
  match event with
  | .saveExpired token serial => modify (withdrawSave token serial)
  | .backgroundExpired token => expireCapabilities token
  | .idleExpired => modify beginShutdown

/-- Timers have gone off, one after the other. -/
def handleTimers : List TimerEvent → Op Registry Unit
  | [] => pure ()
  | event :: rest => do
    handleTimer event
    handleTimers rest

/-- Takes the events that are due. -/
def takeDue (r : Registry) : List TimerEvent × Registry :=
  let (due, timers) := r.timers.takeDue r.now
  (due, { r with timers })

/-- Every timer that is due goes off. The result is how many were due. -/
def runDueTimers : Op Registry Nat := do
  let due ← modifyGet takeDue
  handleTimers due
  return due.length

end ClickGrant.Registry
