import ClickGrant.Registry.Basic

/-!
# Input posture and idle exit

While components are registered the input path is protected; when the last one has gone, the
protection ends and the idle exit is armed. If its timer goes off with the table still empty the
service is about to end and takes no more calls.
-/
set_option autoImplicit false

namespace ClickGrant.Registry

/-- Sets the time of the idle exit. -/
def armIdleExit (s : Settings) (r : Registry) : Registry :=
  { r with timers := r.timers.schedule idleKey (saturatingAdd r.now s.idleDelay) .idleExpired }

/-- Gives the idle exit up. -/
def disarmIdleExit (r : Registry) : Registry := { r with timers := r.timers.remove idleKey }

/-- Brings posture and idle exit in line with the table. -/
def syncPosture (s : Settings) : Op Registry Unit := do
  let r ← get
  if !r.table.isEmpty then
    modify disarmIdleExit
    if !r.inputEnabled then
      if s.enhanced then Op.ask .enableInput
      modify fun r => { r with inputEnabled := true }
  else if r.inputEnabled then
    if s.enhanced then Op.ask .disableInput
    modify fun r => armIdleExit s { r with inputEnabled := false }

/-- The idle exit's timer has gone off. -/
def beginShutdown (r : Registry) : Registry :=
  if r.table.isEmpty then { r with shuttingDown := true } else r

end ClickGrant.Registry
