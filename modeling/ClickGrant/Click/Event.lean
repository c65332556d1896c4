import ClickGrant.Datum.Fields
import ClickGrant.Geometry.Rect
import ClickGrant.Json.Reader

/-!
# Click events

A click reported on a component: a pointer click with a payload the input path may have attached,
a key press, or a click delivered by an accessibility service. The JSON form names the sort of
event in the member `kind`; it may also be a list that starts with that name and goes on with the
event's fields.
-/
set_option autoImplicit false

namespace ClickGrant

/-- A reported click with its time stamp in milliseconds. -/
inductive ClickEvent where
  | point (timestamp : UInt64) (target : Point) (extra : Option (List UInt8))
  | key (timestamp : UInt64) (keyCode : Int32)
  | accessibility (timestamp : UInt64)

namespace ClickEvent

def timestamp : ClickEvent → UInt64
  | point t _ _ => t
  | key t _ => t
  | accessibility t => t

/-- The sort of event. -/
def kindName : ClickEvent → String
  | point .. => "point"
  | key .. => "key"
  | accessibility _ => "accessibility"

/-- The event of a sort whose fields are found in `d`. -/
def ofFields? (kind : String) (d : Datum) : Option ClickEvent :=
  if kind = "point" then do
    let fs ← d.fields? .jsonSetAside ["timestamp_ms", "x", "y", "extra_info"]
    let timestamp ← fs.required "timestamp_ms" Datum.uint64?
    let x ← fs.required "x" Datum.float?
    let y ← fs.required "y" Datum.float?
    let extra ← fs.optional "extra_info" (Datum.list? Datum.uint8?)
    return .point timestamp { x, y } extra
  else if kind = "key" then do
    let fs ← d.fields? .jsonSetAside ["timestamp_ms", "key_code"]
    let timestamp ← fs.required "timestamp_ms" Datum.uint64?
    let keyCode ← fs.required "key_code" Datum.int32?
    return .key timestamp keyCode
  else if kind = "accessibility" then do
    let fs ← d.fields? .jsonSetAside ["timestamp_ms"]
    let timestamp ← fs.required "timestamp_ms" Datum.uint64?
    return .accessibility timestamp
  else none

/-- An event. All of it is set aside until its sort is known, so all of it must be readable. -/
def ofDatum? (d : Datum) : Option ClickEvent :=
  if !d.readable nestingLimit then none
  else
    match d with
    | .record members => do
      let fs ← Datum.declared ["kind"] members
      let kind ← fs.required "kind" Datum.text?
      ofFields? kind (.record (members.filter (·.1 ≠ "kind")))
    | .list (.text kind :: fields) => ofFields? kind (.list fields)
    | _ => none

/-- The event a text describes. -/
def ofText? (text : String) : Option ClickEvent := (Json.readText text).bind ofDatum?

end ClickEvent

end ClickGrant
