import ClickGrant.Datum.Basic

/-!
# Reading data as records

A structure is read from a record by its declared field names, or from a list of its fields in the
declared order. Unknown members are ignored; a declared member may be written once only; fields
left out at the end of a list are absent. What two formats do differently is collected in
`Conventions`.

`Fields` is what such a reading leaves: at most one datum per declared name. Each field is then
required, or has a default, or may be absent or null.

Which readings are allowed is a choice made here, once for both formats. Proved is what the round
trips need (`Proofs.Datum`): members that are written once each, under their declared names, are found.
-/
set_option autoImplicit false

namespace ClickGrant.Datum

/-- Where formats differ in how data stand for structures. -/
structure Conventions where
  /-- A list may not be longer than the structure it stands for. -/
  exactLength : Bool
  /-- Whether a datum may stand beside the name of an alternative, as in a record whose only
  member is that name. -/
  blank : Datum → Bool

/-- JSON read as it comes: nothing but null stands beside the name of an alternative. -/
def Conventions.json : Conventions where
  exactLength := true
  blank
    | .null => true
    | _ => false

/-- JSON set aside and read later: an empty record may stand there as well. -/
def Conventions.jsonSetAside : Conventions where
  exactLength := true
  blank
    | .null => true
    | .record [] => true
    | _ => false

/-- TOML: an empty table or an empty array stands there, and surplus items are ignored. -/
def Conventions.toml : Conventions where
  exactLength := false
  blank
    | .record [] => true
    | .list [] => true
    | _ => false

/-- The declared fields that are present, each once. -/
abbrev Fields := List (String × Datum)

/-- The datum of a field. -/
def Fields.get? (fs : Fields) (name : String) : Option Datum := fs.lookup name

/-- The members of a record with a declared name, if none is repeated. -/
def declared (names : List String) : List (String × Datum) → Option Fields
  | [] => some []
  | (k, d) :: rest =>
    match declared names rest with
    | none => none
    | some fs =>
      if names.contains k then
        if fs.any (·.1 == k) then none else some ((k, d) :: fs)
      else some fs

/-- The fields of a datum that stands for a structure with these field names. A date has no field
anyone declares. -/
def fields? (conventions : Conventions) (names : List String) : Datum → Option Fields
  | .record members => declared names members
  | .list items =>
    if conventions.exactLength && names.length < items.length then none
    else some (names.zip items)
  | .date _ => some []
  | _ => none

/-- A field that must be present. -/
def Fields.required {α : Type} (fs : Fields) (name : String) (read : Datum → Option α) : Option α :=
  (fs.get? name).bind read

/-- A field with a default. -/
def Fields.withDefault {α : Type} (fs : Fields) (name : String) (default : α)
    (read : Datum → Option α) : Option α :=
  match fs.get? name with
  | some d => read d
  | none => some default

/-- A field that may be absent or null. -/
def Fields.optional {α : Type} (fs : Fields) (name : String) (read : Datum → Option α) :
    Option (Option α) :=
  match fs.get? name with
  | none => some none
  | some .null => some none
  | some d => (read d).map some

/-- A truth value. -/
def flag? : Datum → Option Bool
  | .flag b => some b
  | _ => none

/-- A text. -/
def text? : Datum → Option String
  | .text s => some s
  | _ => none

/-- A whole number in `[low, high]`. -/
def intIn? (low high : Int) : Datum → Option Int
  | .int n => if low ≤ n && n ≤ high then some n else none
  | _ => none

/-- An unsigned byte. -/
def uint8? (d : Datum) : Option UInt8 := (d.intIn? 0 255).map fun n => UInt8.ofNat n.toNat

/-- An unsigned 32-bit number. -/
def uint32? (d : Datum) : Option UInt32 := (d.intIn? 0 4294967295).map fun n => UInt32.ofNat n.toNat

/-- An unsigned 64-bit number. -/
def uint64? (d : Datum) : Option UInt64 := (d.intIn? 0 18446744073709551615).map fun n => UInt64.ofNat n.toNat

/-- A signed 32-bit number. -/
def int32? (d : Datum) : Option Int32 := (d.intIn? (-2147483648) 2147483647).map Int32.ofInt

/-- A double; whole numbers count. -/
def float? : Datum → Option Float
  | .real x => some x
  | .int n => some (Float.ofInt n)
  | _ => none

/-- A list, every item read. -/
def list? {α : Type} (read : Datum → Option α) : Datum → Option (List α)
  | .list items => items.mapM read
  | _ => none

/-- One of several named alternatives: the name, or a record with that name as its only member. -/
def alternative? {α : Type} (conventions : Conventions) (ofName? : String → Option α) :
    Datum → Option α
  | .text name => ofName? name
  | .record [(name, d)] => if conventions.blank d then ofName? name else none
  | _ => none

end ClickGrant.Datum
