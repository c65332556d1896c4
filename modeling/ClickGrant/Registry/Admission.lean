import ClickGrant.Registry.Basic
import ClickGrant.Validity.Check

/-!
# Admission

What a freshly declared component has to pass before anything is stored or granted: the validity
rules, against what the display and the window manager report, and then the enhancement module's
inspection. Failing the inspection is tampering.
-/
set_option autoImplicit false

namespace ClickGrant.Registry

/-- What a check needs to know of screen and window. -/
def validityContext (c : Component) : Call Registry ValidityContext := do
  let screen ← Call.ofExcept Refusal.outage (← Call.ask (.screen c.displayId c.crossAxis))
  let windowScale ← Call.ofExcept Refusal.outage (← Call.ask (.windowScale c.windowId))
  return { screen, windowScale }

/-- Admits a component: the result is marked as valid, with the rectangle as drawn. `declared` is
the text it was declared by. -/
def admission (s : Settings) (caller : Caller) (c : Component) (declared : String) :
    Call Registry Component := do
  let ctx ← validityContext c
  match s.validity.validateAndMark c ctx with
  | (_, .error cause) => throw (.invalidComponent cause)
  | (c, .ok _) =>
    if s.enhanced then
      match ← Call.ask (.inspect caller.pid c declared) with
      | .error cause =>
        modify (quarantineCaller caller)
        throw (.integrityFailure cause)
      | .ok _ => return c
    else return c

/-- Marks a stored component as invalid. -/
def markInvalid (pid : Pid) (id : ComponentId) (r : Registry) : Registry :=
  { r with table := r.table.modify pid id fun c => { c with isValid := false } }

/-- Admits a new declaration of a stored component; if it fails, the stored one becomes invalid. -/
def readmission (s : Settings) (caller : Caller) (id : ComponentId) (c : Component)
    (declared : String) : Call Registry Component :=
  tryCatch (admission s caller c declared) fun refusal => do
    modify (markInvalid caller.pid id)
    throw refusal

end ClickGrant.Registry
