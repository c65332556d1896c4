import ClickGrant.Dialogue
import ClickGrant.Standalone.Permissions
import ClickGrant.Standalone.Screens

/-!
# Running without the platform

Collaborators for running the service alone: the configured displays, permissions kept in memory,
consent to everything, and no enhancement module.
-/
set_option autoImplicit false

namespace ClickGrant

/-- The collaborators' state. -/
structure Environment where
  screens : ScreenTable
  permissions : PermissionStore

namespace Environment

/-- The collaborators for a configuration. -/
def ofConfig (c : Config) : Environment :=
  { screens := .ofDisplays c.displays, permissions := .empty }

/-- How the collaborators answer. Nothing is ever asked of the enhancement module. -/
def answer (e : Environment) : (q : Request) → q.Answer × Environment
  | .screen display _ => (e.screens.screen display, e)
  | .windowScale window => (.ok (e.screens.windowScale window), e)
  | .windowStack => (.ok e.screens.windows, e)
  | .grant token p => (.ok (), { e with permissions := e.permissions.grant token p })
  | .revoke token p => (.ok (), { e with permissions := e.permissions.revoke token p })
  | .verify token p => (e.permissions.has token p, e)
  | .consent .. => (.ok .granted, e)
  | .inspect .. => (.error (.rejected "no enhance module"), e)
  | .seal _ => (.error (.envelope "no enhance module"), e)
  | .unseal _ => (.error (.envelope "no enhance module"), e)
  | .admitProcess _ => (.error (.rejected "no enhance module"), e)
  | .enableInput => ((), e)
  | .disableInput => ((), e)
  | .processDied _ => ((), e)
  | .clientHandle => (none, e)

end Environment

end ClickGrant
