/-!
# Kinds of component

The permission a component stands for. A verified click on a location or paste component grants a
capability, held until it is taken away; one on a save component grants one counted use, which
expires by itself. Capabilities are made of named permissions in the identity store.
-/
set_option autoImplicit false

namespace ClickGrant

/-- Operating-system process id. -/
abbrev Pid := Int32

/-- Operating-system user id. -/
abbrev Uid := UInt32

/-- Access-token identity that permissions are granted to. -/
abbrev Token := UInt32

/-- Identifier of a registered component. -/
abbrev ComponentId := Int32

/-- The permission a component stands for. -/
inductive Kind where
  | location
  | paste
  | save
  deriving DecidableEq, Repr, Inhabited

/-- How a verified click on a kind turns into a permission. -/
inductive GrantStyle where
  /-- Held until the owner goes to the background or dies. -/
  | capability
  /-- Counted; each grant expires on its own. -/
  | perClick
  deriving DecidableEq, Repr

/-- The name of a style. -/
def GrantStyle.name : GrantStyle → String
  | .capability => "capability"
  | .perClick => "per_click"

/-- A permission name of the identity store. -/
inductive Permission where
  | approximateLocation
  | location
  | securePaste
  /-- Held by accessibility services that may report clicks. -/
  | accessibilityClick
  deriving DecidableEq, Repr

/-- Every permission, in declared order. -/
def Permission.all : List Permission := [.approximateLocation, .location, .securePaste, .accessibilityClick]

/-- The name the identity store knows a permission by. -/
def Permission.name : Permission → String
  | .approximateLocation => "scmgr.permission.APPROXIMATELY_LOCATION"
  | .location => "scmgr.permission.LOCATION"
  | .securePaste => "scmgr.permission.SECURE_PASTE"
  | .accessibilityClick => "scmgr.permission.ACCESSIBILITY_CLICK"

namespace Kind

/-- Every kind, in order. -/
def all : List Kind := [.location, .paste, .save]

/-- The kind behind a numeric code. -/
def ofCode? (code : Int32) : Option Kind :=
  if code = 1 then some .location
  else if code = 2 then some .paste
  else if code = 3 then some .save
  else none

/-- The numeric code of a kind. -/
def code : Kind → Int32
  | .location => 1
  | .paste => 2
  | .save => 3

/-- The name used in documents, messages and metric labels. -/
def name : Kind → String
  | .location => "location"
  | .paste => "paste"
  | .save => "save"

/-- The kind with a name. -/
def ofName? (s : String) : Option Kind := all.find? fun k => k.name = s

/-- The bit that records a first-use consent to the kind. -/
def consentBit : Kind → UInt32
  | .location => 1
  | .paste => 2
  | .save => 4

def grantStyle : Kind → GrantStyle
  | .location => .capability
  | .paste => .capability
  | .save => .perClick

/-- The permissions a capability of the kind is made of. -/
def permissions : Kind → List Permission
  | .location => [.approximateLocation, .location]
  | .paste => [.securePaste]
  | .save => []

/-- Position in the order of kinds. -/
def rank : Kind → Nat
  | .location => 0
  | .paste => 1
  | .save => 2

end Kind

end ClickGrant
