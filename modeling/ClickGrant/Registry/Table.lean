import ClickGrant.Assoc
import ClickGrant.Component.Basic

/-!
# Component table

The components of every process, each under an identifier that no other live component has.
Identifiers are handed out in a cycle from a base up to the largest one, past those in use.
-/
set_option autoImplicit false

namespace ClickGrant

/-- The first identifier of the cycle. -/
def baseId : ComponentId := 1000

/-- The last identifier of the cycle. -/
def lastId : ComponentId := 2147483647

/-- A stored component. -/
structure Entry where
  id : ComponentId
  component : Component

/-- The components of one process. -/
structure Registration where
  /-- The identity its first component was registered under. -/
  token : Token
  isForeground : Bool
  /-- In the order of registration. -/
  components : List Entry

namespace Registration

/-- A process that has just come in, in the foreground. -/
def start (token : Token) : Registration := { token, isForeground := true, components := [] }

/-- The component with an identifier. -/
def get? (r : Registration) (id : ComponentId) : Option Entry := r.components.find? (·.id = id)

/-- The first component drawn over `rect`, other than `except`. -/
def overlapping? (r : Registration) (rect : Rect) (except : Option ComponentId) : Option ComponentId :=
  (r.components.find? fun e => some e.id ≠ except && e.component.screenRect.intersects rect).map (·.id)

/-- The entries with the first component of an identifier changed. -/
def modifyEntries (id : ComponentId) (f : Component → Component) : List Entry → List Entry
  | [] => []
  | e :: rest =>
    if e.id = id then { e with component := f e.component } :: rest else e :: modifyEntries id f rest

/-- With the component of an identifier changed. -/
def modify (r : Registration) (id : ComponentId) (f : Component → Component) : Registration :=
  { r with components := modifyEntries id f r.components }

/-- Without the component of an identifier. -/
def erase (r : Registration) (id : ComponentId) : Registration :=
  { r with components := r.components.eraseP (·.id = id) }

end Registration

/-- The components of all processes. -/
structure ComponentTable where
  processes : Assoc Pid Registration
  /-- Where the search for the next identifier starts. -/
  nextId : ComponentId

namespace ComponentTable

/-- The empty table whose first identifier is `first`, or the base if that is larger. -/
def startingAt (first : ComponentId) : ComponentTable :=
  { processes := .empty, nextId := if first < baseId then baseId else first }

/-- The empty table. -/
def empty : ComponentTable := startingAt baseId

/-- How many components are stored. -/
def componentCount (t : ComponentTable) : Nat :=
  t.processes.values.foldr (fun r n => r.components.length + n) 0

/-- Whether no process is registered. -/
def isEmpty (t : ComponentTable) : Bool := t.processes.entries.isEmpty

/-- Whether any process has a component of this identifier. -/
def isLive (t : ComponentTable) (id : ComponentId) : Bool :=
  t.processes.values.any fun r => (r.get? id).isSome

/-- The component of a process with an identifier. -/
def lookup? (t : ComponentTable) (pid : Pid) (id : ComponentId) : Option Entry :=
  (t.processes.get? pid).bind (·.get? id)

/-- The identifier after another one in the cycle. -/
def successor (id : ComponentId) : ComponentId := if id = lastId then baseId else id + 1

/-- How many identifiers the cycle has. -/
def idCount : Nat := lastId.toInt.toNat - baseId.toInt.toNat + 1

/-- The first free identifier among `attempts` ones from `id` on. -/
def freeFrom (t : ComponentTable) : (attempts : Nat) → (id : ComponentId) → Option ComponentId
  | 0, _ => none
  | attempts + 1, id => if t.isLive id then freeFrom t attempts (successor id) else some id

/-- The next free identifier, if any is free. -/
def allocate (t : ComponentTable) : Option (ComponentId × ComponentTable) :=
  (t.freeFrom idCount t.nextId).map fun id => (id, { t with nextId := successor id })

/-- A component stored for a process, which is registered under `token` if it is new. -/
def insert (t : ComponentTable) (pid : Pid) (token : Token) (e : Entry) : ComponentTable :=
  let r := t.processes.getD pid (.start token)
  { t with processes := t.processes.set pid { r with components := r.components ++ [e] } }

/-- The component of a process with an identifier changed. -/
def modify (t : ComponentTable) (pid : Pid) (id : ComponentId) (f : Component → Component) :
    ComponentTable :=
  { t with processes := t.processes.modify pid (·.modify id f) }

/-- The component of a process taken out; its registration stays, even if nothing is left in it. -/
def take (t : ComponentTable) (pid : Pid) (id : ComponentId) : ComponentTable :=
  { t with processes := t.processes.modify pid (·.erase id) }

/-- A process taken out with all its components. -/
def dropProcess (t : ComponentTable) (pid : Pid) : ComponentTable :=
  { t with processes := t.processes.erase pid }

/-- A process taken out if it has no component left. -/
def dropIfEmpty (t : ComponentTable) (pid : Pid) : ComponentTable :=
  match t.processes.get? pid with
  | some r => if r.components.isEmpty then t.dropProcess pid else t
  | none => t

/-- A process in the foreground or in the background. -/
def setForeground (t : ComponentTable) (pid : Pid) (foreground : Bool) : ComponentTable :=
  { t with processes := t.processes.modify pid fun r => { r with isForeground := foreground } }

/-- The mark of a grant taken from every component of a style, in every process of an identity. -/
def clearGranted (t : ComponentTable) (token : Token) (style : GrantStyle) : ComponentTable :=
  { t with processes := t.processes.mapValues fun r =>
      if r.token = token then
        { r with components := r.components.map fun e =>
            if e.component.kind.grantStyle = style then
              { e with component := { e.component with isGranted := false } }
            else e }
      else r }

end ComponentTable

end ClickGrant
