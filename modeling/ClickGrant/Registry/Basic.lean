import ClickGrant.Click.Verify
import ClickGrant.Config.Basic
import ClickGrant.Consent.Store
import ClickGrant.Dialogue
import ClickGrant.Grant.Ledger
import ClickGrant.Metrics.Basic
import ClickGrant.Registry.Quarantine
import ClickGrant.Registry.Table

/-!
# Registry

The state of the service: the component table, the quarantine, the grants with their timers, the
consents, and whether the input path is protected. `Settings` is what stays fixed while the
service runs.

What it does is proved of one act after the other, nobody disturbing it (`Proofs.Registry.Run`), and of
acts that are under way at once and meet at their requests (`Proofs.Registry.Disturbed`,
`Proofs.Traffic`). The clock belongs to the state and moves like it.
-/
set_option autoImplicit false

namespace ClickGrant

/-- Who makes a call. -/
structure Caller where
  pid : Pid
  uid : Uid
  token : Token
  deriving DecidableEq, Repr

/-- What stays fixed while the service runs. -/
structure Settings where
  validity : ValidityPolicy
  verifier : ClickVerifier
  delays : GrantDelays
  /-- From the table's becoming empty to the end of the service. -/
  idleDelay : UInt64
  maxComponents : UInt64
  /-- Longest declaration of a component, in bytes. -/
  maxInfoLength : UInt64
  /-- Kinds that need a consent before their first grant. -/
  requiredKinds : List Kind
  /-- An enhancement module is present. -/
  enhanced : Bool

/-- The settings of a configuration. Windows of UI extensions are told by the configured mask
unless another classifier is given. -/
def Settings.ofConfig (c : Config) (classifier : Option WindowClassifier) (enhanced : Bool) : Settings where
  validity := c.validity
  verifier :=
    { policy := c.clickPolicy
      classifier := classifier.getD (.mask c.extensionMask)
      epsilon := c.validity.epsilon }
  delays := { save := c.timing.saveRevokeDelay, background := c.timing.backgroundRevokeDelay }
  idleDelay := c.timing.serviceExitDelay
  maxComponents := c.limits.maxComponentsPerProcess
  maxInfoLength := c.limits.maxInfoLength
  requiredKinds := c.consent.requiredKinds
  enhanced := enhanced

/-- The state of the service. -/
structure Registry extends GrantState where
  table : ComponentTable
  quarantine : Quarantine
  consents : ConsentStore
  /-- What has been counted, if anybody keeps count. -/
  metrics : Option Metrics
  /-- The input path is protected. -/
  inputEnabled : Bool
  /-- The service is about to end; it takes no more calls. -/
  shuttingDown : Bool

namespace Registry

/-- A service without components, at the time `now`. -/
def start (now : UInt64) (consents : ConsentStore) (metrics : Option Metrics) : Registry :=
  { GrantState.start now with
    table := .empty, quarantine := .empty, consents, metrics, inputEnabled := false, shuttingDown := false }

/-- An operation on the grants. -/
def onGrants {α : Type} (x : Op GrantState α) : Op Registry α :=
  x.within Registry.toGrantState fun r g => { r with toGrantState := g }

/-- A call on the grants. -/
def callGrants {α : Type} (x : Call GrantState α) : Call Registry α :=
  x.within Registry.toGrantState fun r g => { r with toGrantState := g }

/-- A call on the consents. -/
def callConsents {α : Type} (x : Call ConsentStore α) : Call Registry α :=
  x.within Registry.consents fun r c => { r with consents := c }

/-- A change of the grants. -/
def changeGrants {α : Type} (f : GrantState → α × GrantState) (r : Registry) : α × Registry :=
  let (a, g) := f r.toGrantState
  (a, { r with toGrantState := g })

/-- The count of something, if anybody keeps count. -/
def measure (f : Metrics → Metrics) (r : Registry) : Registry := { r with metrics := r.metrics.map f }

/-- How many components are stored, for the gauge. -/
def showActive (active : Nat) : Registry → Registry := measure fun m => { m with active }

/-- Flags a process for tampering. -/
def quarantineCaller (caller : Caller) (r : Registry) : Registry :=
  match r.quarantine.mark caller.pid caller.uid with
  | (true, q) => measure (fun m => { m with quarantined := m.quarantined + 1 }) { r with quarantine := q }
  | (false, _) => r

/-- Passes while the service takes calls. -/
def ensureRunning : Call Registry Unit := do
  if (← get).shuttingDown then throw .exiting

/-- Passes while the caller is not quarantined. -/
def ensureTrusted (caller : Caller) : Call Registry Unit := do
  if (← get).quarantine.contains caller.pid then throw (.quarantined caller.pid)

/-- Passes for an identifier that could be one. -/
def ensureId (id : ComponentId) : Call Registry Unit := do
  if id < 0 then throw (.invalidArgument (.negativeId id))

/-- Whether an identity may save now. Asking does not use the permission up. -/
def verifySavePermission (r : Registry) (token : Token) : Bool := r.ledger.hasSave token

end Registry

end ClickGrant
