import ClickGrant.Consent.Store
import ClickGrant.Dialogue

/-!
# First-use consent

The first grant of certain kinds to an identity needs the user's consent. A consent on record is
enough; otherwise the dialog is asked, and a consent it reports is recorded and written in the
background. While the dialog is showing, the caller is told to come back.
-/
set_option autoImplicit false

namespace ClickGrant

/-- Records a consent, and has it written if it is new. -/
def ConsentStore.recordAndWrite (token : Token) (kind : Kind) (s : ConsentStore) : ConsentStore :=
  match s.record token kind with
  | (true, s) => s.persistLater
  | (false, s) => s

/-- Passes once the identity may be granted the kind. -/
def ensureConsent (required : List Kind) (token : Token) (kind : Kind) (handle : Option UInt64) :
    Call ConsentStore Unit := do
  if !required.contains kind || (← get).hasConsent token kind then
    return ()
  match ← Call.ask (.consent token kind handle) with
  | .error outage => throw (.outage outage)
  | .ok .wait => throw .waitForConsent
  | .ok _ => modify (ConsentStore.recordAndWrite token kind)

end ClickGrant
