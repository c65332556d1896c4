import ClickGrant.Consent.Gate
import ClickGrant.Grant.Capability
import ClickGrant.Registry.Components

/-!
# Reporting a click

A click on a stored component grants the component's permission, if everything about it can be
verified: the caller, the component as it is declared now, the event against the windows on
screen, and the user's consent. The permission goes to the identity the process was registered
under. If the component has vanished in the meantime, what the click granted is taken back.
-/
set_option autoImplicit false

namespace ClickGrant.Registry

/-- What a click has just granted. -/
inductive Issued where
  | save (serial : UInt64)
  /-- `newly` if the identity did not hold the capability before. -/
  | capability (newly : Bool)

/-- Grants the permission of a kind. -/
def issue (s : Settings) (token : Token) (kind : Kind) : Call Registry Issued :=
  match kind.grantStyle with
  | .perClick => do
    let serial ← modifyGet (changeGrants (GrantState.grantSave s.delays token))
    return .save serial
  | .capability => do
    let newly ← callGrants (GrantState.grantCapability token kind)
    return .capability newly

/-- Takes one save grant back; with the last one, components lose their mark. -/
def withdrawSave (token : Token) (serial : UInt64) (r : Registry) : Registry :=
  match changeGrants (GrantState.revokeSave token serial) r with
  | (true, r) => { r with table := r.table.clearGranted token .perClick }
  | (false, r) => r

/-- Takes back what a click has granted. A capability that was held before stays. -/
def withdraw (token : Token) (kind : Kind) : Issued → Op Registry Unit
  | .save serial => modify (withdrawSave token serial)
  | .capability true => do
    let _ ← onGrants (GrantState.revokeCapability token kind)
  | .capability false => pure ()

/-- Stores a clicked component with the mark of its grant, if there is still one to replace. -/
def storeGranted (pid : Pid) (id : ComponentId) (c : Component) (r : Registry) : Bool × Registry :=
  match r.table.lookup? pid id with
  | none => (false, r)
  | some _ => (true, { r with table := r.table.modify pid id fun _ => { c with isGranted := true } })

/-- An accessibility click needs a caller who may report such clicks. -/
def ensureChannel (caller : Caller) : ClickEvent → Call Registry Unit
  | .accessibility _ => do
    if !(← Call.ask (.verify caller.token .accessibilityClick)) then
      throw (.clickInvalid .untrustedChannel)
  | _ => pure ()

/-- The windows on screen, which only a pointer click is checked against. -/
def windowsFor : ClickEvent → Call Registry (List Window)
  | .point .. => do Call.ofExcept Refusal.outage (← Call.ask .windowStack)
  | _ => pure []

/-- The event is a believable click on the component now. -/
def verifyEvent (s : Settings) (caller : Caller) (c : Component) (event : ClickEvent) :
    Call Registry Unit := do
  ensureChannel caller event
  let windows ← windowsFor event
  let now := (← get).now
  match s.verifier.checkClick c event now windows with
  | .ok _ => return ()
  | .error cause =>
    if cause.isTampering then modify (quarantineCaller caller)
    throw (.clickInvalid cause)

/-- Verifies a click and grants. -/
def reportClickUncounted (s : Settings) (caller : Caller) (id : ComponentId) (c : Component)
    (declared : String) (event : ClickEvent) (handle : Option UInt64) : Call Registry Unit := do
  ensureRunning
  ensureTrusted caller
  ensureId id
  let kind := c.kind
  let (storedKind, token) ← stored caller.pid id
  if kind ≠ storedKind then throw (.invalidArgument (.kindClicked id storedKind kind))
  let c ← readmission s caller id c declared
  verifyEvent s caller c event
  callConsents (ensureConsent s.requiredKinds token kind handle)
  let issued ← issue s token kind
  if ← modifyGet (storeGranted caller.pid id c) then
    modify (measure fun m => { m with grants := m.grants.add [kind.name] })
  else
    withdraw token kind issued
    throw (.notFound id caller.pid)

/-- Verifies a click, grants, and counts the report. -/
def reportClick (s : Settings) (caller : Caller) (id : ComponentId) (c : Component)
    (declared : String) (event : ClickEvent) (handle : Option UInt64) :
    Op Registry (Except Refusal Unit) := do
  let result ← (reportClickUncounted s caller id c declared event handle).run
  modify (measure fun m =>
    { m with clicks := m.clicks.add [c.kind.name, (ResultCode.ofResult result).name] })
  return result

end ClickGrant.Registry
