import ClickGrant.Toml.Scalar
import ClickGrant.Toml.Strings
import ClickGrant.Toml.Table

/-!
# TOML

`Toml.read` gives the data a TOML 1.0 document denotes. A byte order mark at the start is skipped.
Arrays and inline tables nest, and dotted keys have parts, up to a limit.

What a document denotes is defined here and in the three modules before, not proved against another
account of the format; the limit on nesting and the treatment of floats out of range are choices of
this reader. Proved is that a printed configuration reads back (`Proofs.Config.RoundTrip`) and that
every whole number fits 64 signed bits (`Proofs.Toml.Range`).
-/
set_option autoImplicit false

namespace ClickGrant.Toml

/-- How deep values nest and how many parts a key has, at most. -/
def depthLimit : Nat := 79

/-- The items of an array after its opening bracket, read by `item`. Line ends and comments may
stand anywhere between, and a comma after the last item. The first argument bounds the number of
items. -/
def arrayItems (item : List Char → Option (Datum × List Char)) :
    Nat → List Char → Option (List Datum × List Char)
  | 0, _ => none
  | fuel + 1, cs =>
    match skipFiller false cs with
    | ']' :: rest => some ([], rest)
    | cs => do
      let (d, rest) ← item cs
      match skipFiller false rest with
      | ',' :: rest => do
        let (ds, rest) ← arrayItems item fuel rest
        return (d :: ds, rest)
      | ']' :: rest => some ([d], rest)
      | _ => none

/-- A key and its value, read by `item`. -/
def keyValue (item : List Char → Option (Datum × List Char)) (cs : List Char) :
    Option ((List String × Datum) × List Char) := do
  let (path, rest) ← key depthLimit cs
  match rest with
  | '=' :: rest => do
    let (d, rest) ← item (skipBlanks rest)
    return ((path, d), rest)
  | _ => none

/-- The pairs of an inline table, from its first key on. They stand on one line, without a comma
after the last. -/
def inlinePairs (item : List Char → Option (Datum × List Char)) :
    Nat → List Char → Option (List (List String × Datum) × List Char)
  | 0, _ => none
  | fuel + 1, cs => do
    let (p, rest) ← keyValue item cs
    match skipBlanks rest with
    | ',' :: rest => do
      let (ps, rest) ← inlinePairs item fuel rest
      return (p :: ps, rest)
    | '\x7d' :: rest => some ([p], rest)
    | _ => none

/-- A value that holds at most `levels` levels of arrays and inline tables. -/
def value : (levels : Nat) → List Char → Option (Datum × List Char)
  | levels, cs =>
    match cs with
    | '"' :: _ => (string cs).map fun (s, rest) => (.text (String.ofList s), rest)
    | '\'' :: _ => (string cs).map fun (s, rest) => (.text (String.ofList s), rest)
    | '[' :: rest =>
      match levels with
      | 0 => none
      | levels + 1 => (arrayItems (value levels) (rest.length + 1) rest).map fun (ds, rest) => (.list ds, rest)
    | '\x7b' :: rest =>
      match levels with
      | 0 => none
      | levels + 1 =>
        match skipBlanks rest with
        | '\x7d' :: rest => some (.record [], rest)
        | cs => do
          let (ps, rest) ← inlinePairs (value levels) (cs.length + 1) cs
          return (← inline ps, rest)
    | _ => scalar cs

/-- A header's path after its opening brackets, up to the closing ones. -/
def headerPath (closing : List Char) (cs : List Char) : Option (List String × List Char) := do
  let (path, rest) ← key depthLimit cs
  if closing.isPrefixOf rest then some (path, rest.drop closing.length) else none

/-- A statement, which does not start with a blank. -/
def statement (cs : List Char) : Option (Statement × List Char) :=
  match cs with
  | '[' :: '[' :: rest => do
    let (path, rest) ← headerPath [']', ']'] rest
    return (.arrayHeader path, rest)
  | '[' :: rest => do
    let (path, rest) ← headerPath [']'] rest
    return (.header path, rest)
  | _ => do
    let ((path, d), rest) ← keyValue (value depthLimit) cs
    return (.assign path d, rest)

/-- The statements of a document, one a line. The first argument bounds the number of lines. -/
def statements : Nat → List Char → Option (List Statement)
  | 0, _ => none
  | fuel + 1, cs =>
    match skipFiller false cs with
    | [] => some []
    | cs => do
      let (s, rest) ← statement cs
      return s :: (← statements fuel (← lineEnd rest))

/-- The text without a byte order mark. -/
def skipMark : List Char → List Char
  | '\uFEFF' :: rest => rest
  | cs => cs

/-- The data a document denotes, if it is TOML. -/
def read (text : String) : Option Datum :=
  let cs := skipMark text.toList
  (statements (cs.length + 1) cs).bind build

end ClickGrant.Toml
