import ClickGrant.Component.Kind

/-!
# Timer events

What a timer announces when it goes off, and the keys under which timers are kept. There is one
key for each save grant, one for each identity's deferred revocation, and one for the idle exit.
-/
set_option autoImplicit false

namespace ClickGrant

/-- What a timer announces. -/
inductive TimerEvent where
  /-- A save grant has expired. -/
  | saveExpired (token : Token) (serial : UInt64)
  /-- The owner of an identity stayed in the background too long. -/
  | backgroundExpired (token : Token)
  /-- No component has been registered for long enough. -/
  | idleExpired
  deriving DecidableEq, Repr

/-- Name of a timer. -/
abbrev TimerKey := String

/-- The key of one save grant's expiry. -/
def saveKey (token : Token) (serial : UInt64) : TimerKey :=
  "save_revoke:" ++ toString token ++ ":" ++ toString serial

/-- The key of an identity's deferred revocation. -/
def backgroundKey (token : Token) : TimerKey := "full_revoke:" ++ toString token

/-- The key of the idle exit. -/
def idleKey : TimerKey := "service_exit"

namespace TimerEvent

/-- The key under which a timer for the event is kept. -/
def key : TimerEvent → TimerKey
  | .saveExpired token serial => saveKey token serial
  | .backgroundExpired token => backgroundKey token
  | .idleExpired => idleKey

/-- The name of an event. -/
def name : TimerEvent → String
  | .saveExpired .. => "save_revoke"
  | .backgroundExpired _ => "full_revoke"
  | .idleExpired => "service_exit"

end TimerEvent

end ClickGrant
