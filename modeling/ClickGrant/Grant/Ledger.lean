import ClickGrant.Assoc
import ClickGrant.Component.Kind
import ClickGrant.Timer.Queue

/-!
# Grant ledger

What each identity has been granted: save grants, counted and each with a serial of its own, and
capabilities by kind. The ledger keeps no empty records. `GrantState` is the ledger with the
timers that let grants expire and the clock that dates them.
-/
set_option autoImplicit false

namespace ClickGrant

/-- The save grants of one identity. -/
structure SaveRecord where
  count : Nat
  /-- Serials of the outstanding grants, oldest first. -/
  serials : List UInt64
  deriving DecidableEq, Repr

/-- What has been granted. -/
structure Ledger where
  saves : Assoc Token SaveRecord
  /-- The kinds each identity holds, in the order of kinds. -/
  capabilities : Assoc Token (List Kind)
  nextSerial : UInt64
  deriving DecidableEq, Repr

/-- Kinds with one more, in order and without repetition. -/
def Kind.insert (k : Kind) : List Kind → List Kind
  | [] => [k]
  | k' :: rest =>
    if k = k' then k' :: rest
    else if k.rank < k'.rank then k :: k' :: rest
    else k' :: insert k rest

namespace Ledger

/-- Nothing is granted. -/
def empty : Ledger := { saves := .empty, capabilities := .empty, nextSerial := 0 }

/-- How many save grants an identity has. -/
def saveCount (l : Ledger) (token : Token) : Nat := ((l.saves.get? token).map (·.count)).getD 0

/-- Whether an identity has a save grant. -/
def hasSave (l : Ledger) (token : Token) : Bool := 0 < l.saveCount token

/-- The kinds an identity holds. -/
def kindsOf (l : Ledger) (token : Token) : List Kind := l.capabilities.getD token []

/-- Whether an identity holds a kind. -/
def hasCapability (l : Ledger) (token : Token) (kind : Kind) : Bool := (l.kindsOf token).contains kind

end Ledger

/-- How long grants live, in milliseconds. -/
structure GrantDelays where
  /-- Life of a save grant. -/
  save : UInt64
  /-- From going to the background to losing the capabilities. -/
  background : UInt64

/-- The ledger with its timers and the clock. -/
structure GrantState where
  ledger : Ledger
  timers : TimerQueue
  now : UInt64
  deriving DecidableEq, Repr

/-- Nothing is granted and no timer is pending. -/
def GrantState.start (now : UInt64) : GrantState := { ledger := .empty, timers := .empty, now }

end ClickGrant
