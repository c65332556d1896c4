import ClickGrant.Click.Verify
import ClickGrant.Component.Kind
import ClickGrant.Validity.Rejection

/-!
# Refusals

Why a call to the service fails, with the stable code that callers see, the wording, and whether
trying again later makes sense. A collaborator that cannot answer makes the call fail.
-/
set_option autoImplicit false

namespace ClickGrant

/-- A collaborator outside the service. -/
inductive Collaborator where
  | display | window | accessToken | consent | enhance
  deriving DecidableEq, Repr

def Collaborator.name : Collaborator → String
  | .display => "display"
  | .window => "window"
  | .accessToken => "access_token"
  | .consent => "consent"
  | .enhance => "enhance"

/-- A collaborator that could not answer. -/
structure Outage where
  source : Collaborator
  reason : String
  deriving DecidableEq, Repr

/-- The wording of an outage. -/
def Outage.message (o : Outage) : String := o.source.name ++ " unavailable: " ++ o.reason

/-- Why the enhancement module refuses. -/
inductive EnhanceFailure where
  /-- The component does not come from the trusted rendering path. -/
  | rejected (reason : String)
  /-- An envelope cannot be opened or sealed. -/
  | envelope (reason : String)
  deriving DecidableEq, Repr

/-- The wording of a cause. -/
def EnhanceFailure.message : EnhanceFailure → String
  | .rejected reason => "integrity check rejected: " ++ reason
  | .envelope reason => "envelope error: " ++ reason

/-- What is wrong with a call's arguments. -/
inductive BadArgument where
  | unknownKind (code : Int32)
  | infoLength (length : Nat) (most : UInt64)
  | envelope (cause : EnhanceFailure)
  | infoNotText
  | infoMalformed
  | kindDeclared (declared registering : Kind)
  | kindChanged (id : ComponentId) (stored : Kind)
  | kindClicked (id : ComponentId) (stored declared : Kind)
  | negativeId (id : ComponentId)
  deriving DecidableEq, Repr

/-- The wording of a cause. -/
def BadArgument.message : BadArgument → String
  | .unknownKind code => s!"unknown component kind {code}"
  | .infoLength length most => s!"component info is {length} bytes, limit is {most}"
  | .envelope cause => cause.message
  | .infoNotText => "component info is not UTF-8"
  | .infoMalformed => "malformed component info:"
  | .kindDeclared declared registering =>
    "info declares a " ++ declared.name ++ " component, registering " ++ registering.name
  | .kindChanged id stored =>
    s!"component {id} is a " ++ stored.name ++ " component, kind cannot change"
  | .kindClicked id stored declared =>
    s!"component {id} is a " ++ stored.name ++ " component, click declares " ++ declared.name
  | .negativeId id => s!"invalid security component id {id}"

/-- What a new component clashes with. -/
inductive Clash where
  | capacity (owned : Nat)
  | overlap (id : ComponentId)
  | idsExhausted
  deriving DecidableEq, Repr

/-- The wording of a clash. -/
def Clash.message : Clash → String
  | .capacity owned => s!"process already owns {owned} components"
  | .overlap id => s!"rect overlaps security component {id}"
  | .idsExhausted => "security component ids exhausted"

/-- Why a call fails. -/
inductive Refusal where
  | invalidArgument (cause : BadArgument)
  | invalidComponent (cause : Invalidity)
  | notFound (id : ComponentId) (pid : Pid)
  | conflict (cause : Clash)
  | integrityFailure (cause : EnhanceFailure)
  | quarantined (pid : Pid)
  | clickInvalid (cause : ClickRejection)
  | permissionDenied (permission : Permission) (cause : Outage)
  /-- The service is about to end. -/
  | exiting
  /-- A consent dialog is showing. -/
  | waitForConsent
  | noEnhanceModule
  | outage (cause : Outage)
  deriving Repr

/-- What callers see of a call's outcome. -/
inductive ResultCode where
  | ok | invalidArgument | notFound | conflict | integrityFailure | clickInvalid | permissionDenied
  | unavailable | waitForConsent | noEnhanceModule | serviceError
  deriving DecidableEq, Repr

namespace ResultCode

/-- The numeric code. -/
def number : ResultCode → Int32
  | ok => 0
  | invalidArgument => 1
  | notFound => 2
  | conflict => 3
  | integrityFailure => 4
  | clickInvalid => 5
  | permissionDenied => 6
  | unavailable => 7
  | waitForConsent => 8
  | noEnhanceModule => 9
  | serviceError => 10

/-- The code in words, as in replies and metric labels. -/
def name : ResultCode → String
  | ok => "OK"
  | invalidArgument => "INVALID_ARGUMENT"
  | notFound => "NOT_FOUND"
  | conflict => "CONFLICT"
  | integrityFailure => "INTEGRITY_FAILURE"
  | clickInvalid => "CLICK_INVALID"
  | permissionDenied => "PERMISSION_DENIED"
  | unavailable => "UNAVAILABLE"
  | waitForConsent => "WAIT_FOR_CONSENT"
  | noEnhanceModule => "NO_ENHANCE_MODULE"
  | serviceError => "SERVICE_ERROR"

end ResultCode

namespace Refusal

/-- The code of a refusal. -/
def code : Refusal → ResultCode
  | invalidArgument _ => .invalidArgument
  | invalidComponent _ => .invalidArgument
  | notFound .. => .notFound
  | conflict _ => .conflict
  | integrityFailure _ => .integrityFailure
  | quarantined _ => .permissionDenied
  | clickInvalid _ => .clickInvalid
  | permissionDenied .. => .permissionDenied
  | exiting => .unavailable
  | waitForConsent => .waitForConsent
  | noEnhanceModule => .noEnhanceModule
  | outage _ => .serviceError

/-- Whether the caller should simply try again later. -/
def isRetryable : Refusal → Bool
  | exiting => true
  | waitForConsent => true
  | _ => false

/-- The wording of a refusal. -/
def message : Refusal → String
  | invalidArgument cause => "invalid argument: " ++ cause.message
  | invalidComponent cause => "component invalid: " ++ cause.message
  | notFound id pid => s!"security component {id} not found for pid {pid}"
  | conflict cause => "conflict: " ++ cause.message
  | integrityFailure cause => "integrity check failed: " ++ cause.message
  | quarantined pid => s!"process {pid} is quarantined"
  | clickInvalid cause => "click event invalid: " ++ cause.message
  | permissionDenied permission cause =>
    "permission denied: " ++ permission.name ++ ": " ++ cause.message
  | exiting => "service unavailable: service is exiting"
  | waitForConsent => "waiting for first-use consent"
  | noEnhanceModule => "enhance module is not present"
  | outage cause => "oracle failure: " ++ cause.message

end Refusal

/-- The code of a call's outcome. -/
def ResultCode.ofResult {α : Type} : Except Refusal α → ResultCode
  | .ok _ => .ok
  | .error e => e.code

end ClickGrant
