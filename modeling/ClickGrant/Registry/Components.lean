import ClickGrant.Registry.Admission
import ClickGrant.Registry.Posture

/-!
# Registering components

A process registers a component, declares it anew, or takes it back. What is stored has been
admitted. Room, overlaps and the state of the service are looked at in the moment of storing, since
they may have changed while the component was being admitted.
-/
set_option autoImplicit false

namespace ClickGrant.Registry

/-- Stores a new component in one step: there must be room for it, and nothing of the same process
under it. The result is its identifier and how many components there are now. -/
def storeNew (s : Settings) (caller : Caller) (c : Component) (r : Registry) :
    Except Refusal ((ComponentId × Nat) × Registry) := do
  if r.shuttingDown then throw .exiting
  if let some p := r.table.processes.get? caller.pid then
    if s.maxComponents.toNat ≤ p.components.length then throw (.conflict (.capacity p.components.length))
    if let some id := p.overlapping? c.screenRect none then throw (.conflict (.overlap id))
  match r.table.allocate with
  | none => throw (.conflict .idsExhausted)
  | some (id, table) =>
    let table := table.insert caller.pid caller.token { id, component := c }
    return ((id, table.componentCount), { r with table })

/-- Registers a component. -/
def registerUncounted (s : Settings) (caller : Caller) (kind : Kind) (c : Component)
    (declared : String) : Call Registry ComponentId := do
  ensureRunning
  ensureTrusted caller
  if c.kind ≠ kind then throw (.invalidArgument (.kindDeclared c.kind kind))
  let c ← admission s caller { c with isGranted := false } declared
  let (id, active) ← Call.attempt (storeNew s caller c)
  syncPosture s
  modify (showActive active)
  return id

/-- Registers a component and counts the attempt. -/
def register (s : Settings) (caller : Caller) (kind : Kind) (c : Component) (declared : String) :
    Op Registry (Except Refusal ComponentId) := do
  let result ← (registerUncounted s caller kind c declared).run
  modify (measure fun m =>
    { m with registrations := m.registrations.add [kind.name, (ResultCode.ofResult result).name] })
  return result

/-- Stores a component in place of another one, whose grant it keeps. -/
def storeAgain (pid : Pid) (id : ComponentId) (c : Component) (r : Registry) :
    Except Refusal (Unit × Registry) :=
  match r.table.lookup? pid id with
  | none => .error (.notFound id pid)
  | some _ =>
    .ok ((), { r with table := r.table.modify pid id fun old => { c with isGranted := old.isGranted } })

/-- The kind stored under an identifier, and the identity of its process. -/
def stored (pid : Pid) (id : ComponentId) : Call Registry (Kind × Token) := do
  let r ← get
  match r.table.processes.get? pid with
  | none => throw (.notFound id pid)
  | some p =>
    match p.get? id with
    | none => throw (.notFound id pid)
    | some e => return (e.component.kind, p.token)

/-- Declares a stored component anew. -/
def update (s : Settings) (caller : Caller) (id : ComponentId) (c : Component) (declared : String) :
    Call Registry Unit := do
  ensureRunning
  ensureTrusted caller
  ensureId id
  let (kind, _) ← stored caller.pid id
  if c.kind ≠ kind then throw (.invalidArgument (.kindChanged id kind))
  let c ← readmission s caller id c declared
  Call.attempt (storeAgain caller.pid id c)

/-- Takes a component out, and its process with the last one. The result is how many components
are left. -/
def takeOut (pid : Pid) (id : ComponentId) (r : Registry) : Except Refusal (Nat × Registry) :=
  match r.table.lookup? pid id with
  | none => .error (.notFound id pid)
  | some _ =>
    let table := (r.table.take pid id).dropIfEmpty pid
    .ok (table.componentCount, { r with table })

/-- Takes a component back. -/
def unregister (s : Settings) (caller : Caller) (id : ComponentId) : Call Registry Unit := do
  ensureRunning
  ensureId id
  let active ← Call.attempt (takeOut caller.pid id)
  modify (showActive active)
  syncPosture s

end ClickGrant.Registry
