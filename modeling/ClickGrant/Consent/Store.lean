import ClickGrant.Assoc
import ClickGrant.Component.Kind
import ClickGrant.Datum.Fields
import ClickGrant.Json.Printer
import ClickGrant.Json.Reader

/-!
# Consent store

Which identity has consented to which kinds, as a mask of bits for each identity, and the file
where this is kept: a JSON record whose member `records` maps identities, in plain decimal, to
masks. Bits that stand for no kind are kept as they are.

A file that is missing or does not decode as a whole opens as the empty store. A write replaces
the file by the records as they are when the write runs, not when it was asked for; a directory in
the file's place makes it fail. Background writes wait in a queue until they run.

Assumed: the file is replaced as a whole or not at all, and nothing but a directory in its place
makes a write fail. What survives on disk under every order of writes is proved in
`Proofs.Consent.Writes`, and that the file reads back in `Proofs.Consent.File`.
-/
set_option autoImplicit false

namespace ClickGrant

/-- What lies at the store's path. -/
inductive ConsentFile where
  | missing
  | directory
  | bytes (content : List UInt8)
  deriving DecidableEq, Repr

/-- Consents in memory and on disk. -/
structure ConsentStore where
  records : Assoc Token UInt32
  file : ConsentFile
  /-- Background writes that have not run. -/
  queued : Nat
  deriving DecidableEq, Repr

/-- An identity written in plain decimal, without a sign or a leading zero. -/
def Token.ofDecimal? (s : String) : Option Token :=
  match s.toList with
  | [] => none
  | c :: rest =>
    if (c :: rest).all Char.isDigit && (c ≠ '0' || rest.isEmpty) then
      let n := (c :: rest).foldl (fun n d => 10 * n + (d.toNat - '0'.toNat)) 0
      if n < UInt32.size then some (UInt32.ofNat n) else none
    else none

namespace ConsentStore

/-- A member that maps an identity to a mask. -/
def maskOf? (member : String × Datum) : Option (Token × UInt32) := do
  return (← Token.ofDecimal? member.1, ← member.2.uint32?)

/-- The masks among a record's members; the last one of an identity counts. -/
def masksOf? : Datum → Option (Assoc Token UInt32)
  | .record members => (members.mapM maskOf?).map .ofList
  | _ => none

/-- The records a file's content denotes. -/
def decode? (content : List UInt8) : Option (Assoc Token UInt32) := do
  let fs ← (← Json.readSpelled content).fields? .json ["records"]
  fs.withDefault "records" .empty masksOf?

/-- The content of a file with these records. -/
def encode (records : Assoc Token UInt32) : List UInt8 :=
  let masks := records.entries.map fun (token, mask) => (toString token, Datum.int mask.toNat)
  (Json.print (.record [("records", .record masks)])).toUTF8.toList

/-- The store that a file holds. -/
def ofFile (file : ConsentFile) : ConsentStore :=
  let records := match file with
    | .bytes content => (decode? content).getD .empty
    | _ => .empty
  { records, file, queued := 0 }

/-- Whether an identity has consented to a kind. -/
def hasConsent (s : ConsentStore) (token : Token) (kind : Kind) : Bool :=
  s.records.getD token 0 &&& kind.consentBit ≠ 0

/-- Notes a consent. The result says whether it was not noted before. -/
def record (s : ConsentStore) (token : Token) (kind : Kind) : Bool × ConsentStore :=
  (!s.hasConsent token kind,
   { s with records := s.records.set token (s.records.getD token 0 ||| kind.consentBit) })

/-- Writes the records. The result says whether the write succeeded. -/
def persist (s : ConsentStore) : Bool × ConsentStore :=
  match s.file with
  | .directory => (false, s)
  | _ => (true, { s with file := .bytes (encode s.records) })

/-- Asks for a write in the background. -/
def persistLater (s : ConsentStore) : ConsentStore := { s with queued := s.queued + 1 }

/-- One background write runs, if any is waiting. -/
def runQueued (s : ConsentStore) : ConsentStore :=
  if s.queued = 0 then s else { s.persist.2 with queued := s.queued - 1 }

/-- Every background write runs. -/
def settle (s : ConsentStore) : ConsentStore :=
  if s.queued = 0 then s else { s.persist.2 with queued := 0 }

end ConsentStore

end ClickGrant
