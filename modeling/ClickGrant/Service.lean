import ClickGrant.Component.Document
import ClickGrant.Json.Printer
import ClickGrant.Registry.Timers

/-!
# Service calls

The calls that reach the service from outside, whatever carries them. A component comes as the
bytes of its declaration, in an envelope if there is an enhancement module; the reply to a click
goes back the same way. Once the service is about to end, every call is refused.
-/
set_option autoImplicit false

namespace ClickGrant

/-- What the platform reports about a process. -/
inductive AppState where
  | foreground | background | died
  deriving DecidableEq, Repr

/-- Reply to the report of a click. -/
structure ClickReply where
  code : ResultCode
  message : String
  deriving DecidableEq, Repr

/-- The reply that tells a result. -/
def ClickReply.ofResult : Except Refusal Unit → ClickReply
  | .ok _ => { code := .ok, message := "" }
  | .error refusal => { code := refusal.code, message := refusal.message }

/-- Whether the click was accepted. -/
def ClickReply.isOk (r : ClickReply) : Bool := r.code = .ok

/-- The text of a reply: a JSON record. -/
def ClickReply.text (r : ClickReply) : String :=
  Json.print (.record [("code", .text r.code.name), ("message", .text r.message)])

namespace Service

/-- The bytes in an envelope, which there is only with an enhancement module. -/
def unwrap (s : Settings) (info : List UInt8) : Call Registry (List UInt8) :=
  if s.enhanced then do
    Call.ofExcept (fun cause => .invalidArgument (.envelope cause)) (← Call.ask (.unseal info))
  else pure info

/-- The component that bytes declare, with the text they hold. -/
def openInfo (s : Settings) (info : List UInt8) : Call Registry (Component × String) := do
  Registry.ensureRunning
  if info.isEmpty || s.maxInfoLength.toNat < info.length then
    throw (.invalidArgument (.infoLength info.length s.maxInfoLength))
  let payload ← unwrap s info
  match String.fromUTF8? ⟨payload.toArray⟩ with
  | none => throw (.invalidArgument .infoNotText)
  | some text =>
    match Component.ofText? text with
    | none => throw (.invalidArgument .infoMalformed)
    | some c => return (c, text)

/-- Registers a component of the kind with a code. -/
def register (s : Settings) (caller : Caller) (kindCode : Int32) (info : List UInt8) :
    Call Registry ComponentId := do
  match Kind.ofCode? kindCode with
  | none => throw (.invalidArgument (.unknownKind kindCode))
  | some kind =>
    let (c, text) ← openInfo s info
    ExceptT.mk (Registry.register s caller kind c text)

/-- Declares a component anew. -/
def update (s : Settings) (caller : Caller) (id : ComponentId) (info : List UInt8) :
    Call Registry Unit := do
  let (c, text) ← openInfo s info
  Registry.update s caller id c text

/-- Takes a component back. -/
def unregister (s : Settings) (caller : Caller) (id : ComponentId) : Call Registry Unit :=
  Registry.unregister s caller id

/-- Reports a click. -/
def reportClick (s : Settings) (caller : Caller) (id : ComponentId) (info : List UInt8)
    (event : ClickEvent) (handle : Option UInt64) : Op Registry ClickReply := do
  let call : Call Registry Unit := do
    let (c, text) ← openInfo s info
    ExceptT.mk (Registry.reportClick s caller id c text event handle)
  return .ofResult (← call.run)

/-- The reply to a click as it goes out. -/
def sealReply (s : Settings) (reply : ClickReply) : Call Registry (List UInt8) := do
  let payload := reply.text.toUTF8.toList
  if s.enhanced then
    Call.ofExcept (fun (cause : EnhanceFailure) => .outage { source := .enhance, reason := cause.message })
      (← Call.ask (.seal payload))
  else return payload

/-- Announces the caller to the enhancement module before its first registration. -/
def preRegister (s : Settings) (caller : Caller) : Call Registry Unit := do
  Registry.ensureRunning
  if s.enhanced then
    Call.ofExcept Refusal.integrityFailure (← Call.ask (.admitProcess caller.pid))
  else throw .noEnhanceModule

/-- The enhancement module's object for clients. -/
def enhanceObject (s : Settings) : Call Registry UInt64 := do
  Registry.ensureRunning
  if s.enhanced then
    match ← Call.ask .clientHandle with
    | some handle => return handle
    | none => throw .noEnhanceModule
  else throw .noEnhanceModule

/-- The platform reports about a process. -/
def appState (s : Settings) (pid : Pid) : AppState → Op Registry Unit
  | .foreground => do
    let _ ← modifyGet (Registry.processForeground pid)
  | .background => do
    let _ ← modifyGet (Registry.processBackground s pid)
  | .died => Registry.processDied s pid

end Service

end ClickGrant
