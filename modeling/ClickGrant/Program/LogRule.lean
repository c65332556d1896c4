import ClickGrant.Program.Log
import ClickGrant.Text.Blank
import ClickGrant.Text.Pattern
import ClickGrant.Text.Pieces

/-!
# Rules of a log filter

A rule is written `target[span{field}]=level`. It is for the lines whose target starts with the
letters of `target` and that have the field. A level alone is a rule for all lines. Without a
level a rule selects all its lines, and so does one whose level is empty.

A rule that names a span, or a value for its field, is about lines inside of spans; no line of this
program is inside of one.

A rule is scanned without the blanks around it, but its parts are cut out of the text with the
blanks, at the places where the scan finds them. So blanks in front shift every part by their
length in bytes, and such a cut can fall inside of a character.

These rules, and with them `Program.LogFilter` and `Text.Pattern`, are defined to give what a user
sees. No property of them is proved.
-/
set_option autoImplicit false

namespace ClickGrant

/-- Why a text is no rule. -/
inductive LogRuleFault where
  | malformed
  /-- A part begins or ends inside of a character. -/
  | splitsCharacter
  deriving DecidableEq, Repr

/-- A field that a rule asks for. -/
structure LogField where
  name : String
  /-- Whether it has to have a certain value. -/
  valued : Bool
  deriving DecidableEq, Repr

/-- A rule of a filter. -/
structure LogRule where
  /-- What the target of a line has to start with, if that matters. -/
  target : Option String
  /-- The span that a line has to be inside of, if that matters. -/
  span : Option String
  /-- The field that a line has to have, if that matters. -/
  field : Option LogField
  /-- The greatest detail that is selected. -/
  level : LogLevel
  deriving DecidableEq, Repr

/-- Whether a text is a number: with a sign or none, one of the words for numbers out of range, or
digits with a point among them and an exponent behind. -/
def LogField.isNumber (cs : List Char) : Bool :=
  let unsigned (cs : List Char) : List Char :=
    match cs with
    | '+' :: rest => rest
    | '-' :: rest => rest
    | _ => cs
  let magnitude := unsigned cs
  if ["inf", "infinity", "nan"].contains (String.ofList (magnitude.map Char.toLower)) then true
  else
    let whole := magnitude.takeWhile Char.isDigit
    let (fraction, rest) := match magnitude.dropWhile Char.isDigit with
      | '.' :: rest => (rest.takeWhile Char.isDigit, rest.dropWhile Char.isDigit)
      | rest => ([], rest)
    !(whole ++ fraction).isEmpty &&
      match rest with
      | [] => true
      | c :: exponent =>
        c.toLower = 'e' && !(unsigned exponent).isEmpty && (unsigned exponent).all Char.isDigit

/-- The field that a text between braces asks for. A value is a number or a pattern; nothing is
read behind a second equals sign. -/
def LogField.ofChars? (cs : List Char) : Option LogField :=
  if cs.isEmpty then none
  else
    match Text.pieces '=' cs with
    | name :: value :: _ =>
      if LogField.isNumber value || Text.Pattern.isWellFormed value then
        some { name := String.ofList name, valued := true }
      else none
    | _ => some { name := String.ofList cs, valued := false }

namespace LogRule

/-- Whether a rule may start with this character, a bracket apart. -/
def startsRule (c : Char) : Bool := Text.isAlphanumeric c || c = '-' || c = ':' || c = '_'

/-- The length of a text in bytes. -/
def byteLength (cs : List Char) : Nat := (String.ofList cs).utf8ByteSize

/-- The first `n` bytes of a text and the others, unless the cut is inside of a character. -/
def splitBytes : Nat → List Char → Except LogRuleFault (List Char × List Char)
  | 0, cs => .ok ([], cs)
  | _ + 1, [] => .error .splitsCharacter
  | n + 1, c :: rest =>
    if c.utf8Size ≤ n + 1 then (splitBytes (n + 1 - c.utf8Size) rest).map fun (cut, rest) => (c :: cut, rest)
    else .error .splitsCharacter

/-- What a text has from a place on. -/
def ending (text : List Char) (start : Nat) : Except LogRuleFault (List Char) :=
  (splitBytes start text).map (·.2)

/-- What a text has at a place, as long as what the scan found there. -/
def part (text : List Char) (start : Nat) (found : List Char) : Except LogRuleFault (List Char) := do
  return (← splitBytes (byteLength found) (← ending text start)).1

/-- The level that starts at a place and ends with the text. -/
def levelAt (text : List Char) (start : Nat) : Except LogRuleFault LogLevel := do
  let level := String.ofList (← ending text start)
  if level.isEmpty then return .trace
  else
    match LogLevel.ofText? level with
    | some level => return level
    | none => throw .malformed

/-- The level of a rule whose brackets have been scanned up to a place. -/
def levelAfterBrackets (text : List Char) (start : Nat) : List Char → Except LogRuleFault LogLevel
  | [] => .ok .trace
  | '=' :: _ => levelAt text (start + 1)
  | _ => .error .malformed

/-- The field and the level of a rule whose opening brace has been scanned. -/
def fieldAt (text : List Char) (start : Nat) (scanned : List Char) :
    Except LogRuleFault (LogField × LogLevel) := do
  let found := scanned.takeWhile (· ≠ '}')
  match scanned.dropWhile (· ≠ '}') with
  | [] => throw .malformed
  | _ :: rest =>
    match LogField.ofChars? (← part text start found), rest with
    | some field, ']' :: rest =>
      return (field, ← levelAfterBrackets text (start + byteLength found + 2) rest)
    | _, _ => throw .malformed

/-- The rule with a target whose opening bracket has been scanned. -/
def bracketsAt (target : Option String) (text : List Char) (start : Nat) (scanned : List Char) :
    Except LogRuleFault LogRule := do
  let ends (c : Char) : Bool := c = ']' || c = '{'
  let found := scanned.takeWhile (!ends ·)
  match scanned.dropWhile (!ends ·) with
  | [] => throw .malformed
  | c :: rest =>
    let span := String.ofList (← part text start found)
    let next := start + byteLength found + 1
    if c = ']' then
      return { target, span, field := none, level := ← levelAfterBrackets text next rest }
    else
      let (field, level) ← fieldAt text next rest
      return { target, span := if span.isEmpty then none else span, field, level }

/-- The rule that a word states: a level or a target. -/
def ofWord (word : String) : LogRule :=
  match LogLevel.ofText? word with
  | some level => { target := none, span := none, field := none, level }
  | none => { target := word, span := none, field := none, level := .trace }

/-- The rule that a text states. -/
def ofChars (text : List Char) : Except LogRuleFault LogRule := do
  let scanned := Text.trimmed text
  let ends (c : Char) : Bool := c = '=' || c = '['
  match scanned.takeWhile (!ends ·), scanned.dropWhile (!ends ·) with
  | [], '[' :: rest => bracketsAt none text 1 rest
  | c :: more, rest =>
    if !startsRule c then throw .malformed
    else
      match rest with
      | [] => return ofWord (String.ofList text)
      | e :: rest =>
        let target := String.ofList (← part text 0 (c :: more))
        let next := byteLength (c :: more) + 1
        if e = '[' then bracketsAt target text next rest
        else return { target, span := none, field := none, level := ← levelAt text next }
  | _, _ => throw .malformed

/-- Whether a rule is for a line. -/
def fits (r : LogRule) (l : LogLine) : Bool :=
  r.target.all (fun t => t.toList.isPrefixOf l.target.toList)
    && r.span.isNone
    && r.field.all fun f => !f.valued && l.names.contains f.name

/-- How much of a target a rule asks for. -/
def reach (r : LogRule) : Nat := r.target.elim 0 (·.length + 1)

/-- The name of the field a rule asks for. -/
def fieldName (r : LogRule) : String := r.field.elim "" (·.name)

/-- Whether a rule goes before another one that fits the same line: it asks for more of the
target, or for as much of it and for a field that is later in the alphabet. -/
def outranks (a b : LogRule) : Bool :=
  b.reach < a.reach || (a.reach = b.reach && b.fieldName < a.fieldName)

end LogRule

end ClickGrant
