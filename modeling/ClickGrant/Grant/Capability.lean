import ClickGrant.Dialogue
import ClickGrant.Grant.Save

/-!
# Capabilities

Location and paste are held until they are taken back: on the owner's death, or some time after it
went to the background. The named permissions live in the identity store, which is asked outside
of any lock: before the ledger notes a capability, and after it has dropped one. A store that
fails to revoke is not asked again.
-/
set_option autoImplicit false

namespace ClickGrant.GrantState

/-- Gives an identity permissions one after the other, up to the first one that is refused. -/
def grantPermissions (token : Token) : List Permission → Call GrantState Unit
  | [] => pure ()
  | p :: rest => do
    match ← Call.ask (.grant token p) with
    | .error outage => throw (.permissionDenied p outage)
    | .ok _ => grantPermissions token rest

/-- Takes permissions from an identity, as far as the store lets us. -/
def revokePermissions (token : Token) : List Permission → Op GrantState Unit
  | [] => pure ()
  | p :: rest => do
    let _ ← Op.ask (.revoke token p)
    revokePermissions token rest

/-- The ledger notes that an identity holds a kind. The result says whether it did not before. -/
def addCapability (token : Token) (kind : Kind) (s : GrantState) : Bool × GrantState :=
  (!s.ledger.hasCapability token kind,
   { s with
     ledger := { s.ledger with
       capabilities := s.ledger.capabilities.set token (kind.insert (s.ledger.kindsOf token)) } })

/-- Grants a kind's permissions to an identity. The result says whether it did not hold the kind
before. -/
def grantCapability (token : Token) (kind : Kind) : Call GrantState Bool := do
  grantPermissions token kind.permissions
  modifyGet (addCapability token kind)

/-- The ledger drops one kind of an identity, and its deferred revocation with the last one. The
result says whether the identity held the kind. -/
def dropCapability (token : Token) (kind : Kind) (s : GrantState) : Bool × GrantState :=
  if s.ledger.hasCapability token kind then
    let kinds := (s.ledger.kindsOf token).erase kind
    if kinds.isEmpty then
      (true,
       { s with
         ledger := { s.ledger with capabilities := s.ledger.capabilities.erase token }
         timers := s.timers.remove (backgroundKey token) })
    else
      (true,
       { s with ledger := { s.ledger with capabilities := s.ledger.capabilities.set token kinds } })
  else (false, s)

/-- Takes one kind back. The result says whether it was held. -/
def revokeCapability (token : Token) (kind : Kind) : Op GrantState Bool := do
  if ← modifyGet (dropCapability token kind) then
    revokePermissions token kind.permissions
    return true
  else
    return false

/-- Sets a time at which an identity's capabilities are taken back. The result says whether it
holds any. -/
def deferRevocation (d : GrantDelays) (token : Token) (s : GrantState) : Bool × GrantState :=
  if s.ledger.capabilities.contains token then
    (true,
     { s with timers := s.timers.schedule (backgroundKey token) (saturatingAdd s.now d.background)
                (.backgroundExpired token) })
  else (false, s)

/-- Gives a deferred revocation up. The result says whether one was pending. -/
def cancelDeferred (token : Token) (s : GrantState) : Bool × GrantState :=
  ((s.timers.cancel (backgroundKey token)).1, { s with timers := (s.timers.cancel (backgroundKey token)).2 })

/-- The ledger drops every kind of an identity and its deferred revocation. The result is the
kinds. -/
def dropCapabilities (token : Token) (s : GrantState) : List Kind × GrantState :=
  (s.ledger.kindsOf token,
   { s with
     ledger := { s.ledger with capabilities := s.ledger.capabilities.erase token }
     timers := s.timers.remove (backgroundKey token) })

/-- Takes every kind back. The result is the kinds. -/
def revokeCapabilities (token : Token) : Op GrantState (List Kind) := do
  let kinds ← modifyGet (dropCapabilities token)
  revokePermissions token (kinds.flatMap Kind.permissions)
  return kinds

/-- Takes everything back from an identity. -/
def revokeEverything (token : Token) : Op GrantState Unit := do
  modify (revokeSaves token)
  let _ ← revokeCapabilities token

end ClickGrant.GrantState
