import ClickGrant.Datum.Basic
import ClickGrant.Decimal.Reading

/-!
# JSON

Strict JSON over bytes: no comments, no trailing commas, no byte order mark, no leading zeros, no
raw control characters in strings; blanks may stand around every token and nothing may follow the
value. `Json.read` gives the datum a text denotes.

A number without fraction and exponent is whole if it fits 64 bits, signed or not; every other
number, minus zero among them, is a double, and one too large for a double is unreadable. A string
whose escapes leave half a surrogate pair, or whose bytes are not UTF-8, is unreadable, and so is
a record one of whose keys is.

Where keys may be numbers, `Json.readSpelled` is used instead: a number has no escapes, so in its
keys a digit that is written as an escape is no digit.

The grammar is defined here, not proved against another account of the format. Proved is only what
the consent file rests on: a printed record of whole numbers reads back (`Proofs.Json`).
-/
set_option autoImplicit false

namespace ClickGrant.Json

/-- The code of an ASCII character. -/
def code (c : Char) : UInt8 := c.toNat.toUInt8

def isBlank (b : UInt8) : Bool := b == 32 || b == 9 || b == 10 || b == 13

/-- What follows the blanks. -/
def skipBlanks (bs : List UInt8) : List UInt8 := bs.dropWhile isBlank

def isDigit (b : UInt8) : Bool := 48 ≤ b && b ≤ 57

/-- The digits a text starts with, and what follows them. -/
def digits (bs : List UInt8) : List UInt8 × List UInt8 := bs.span isDigit

/-- The digits as characters. -/
def chars (bs : List UInt8) : List Char := bs.map fun b => Char.ofNat b.toNat

/-- A piece of a string: a byte as it stands, or a 16-bit unit written as an escape. -/
inductive Piece where
  | byte (b : UInt8)
  | unit (u : Nat)

def hexValue (b : UInt8) : Option Nat :=
  if isDigit b then some (b.toNat - 48)
  else if 65 ≤ b && b ≤ 70 then some (b.toNat - 55)
  else if 97 ≤ b && b ≤ 102 then some (b.toNat - 87)
  else none

/-- The number written by four hexadecimal digits. -/
def hex4 (a b c d : UInt8) : Option Nat := do
  return ((((← hexValue a) * 16 + (← hexValue b)) * 16 + (← hexValue c)) * 16 + (← hexValue d))

/-- The byte a one-letter escape stands for. -/
def shortEscape (b : UInt8) : Option UInt8 :=
  if b == code '"' || b == code '\\' || b == code '/' then some b
  else if b == code 'b' then some 8
  else if b == code 'f' then some 12
  else if b == code 'n' then some 10
  else if b == code 'r' then some 13
  else if b == code 't' then some 9
  else none

/-- The pieces of a string whose opening quote has been read, and what follows its closing quote.
`pieces` holds those read so far, last first. -/
def stringPieces (pieces : List Piece) : List UInt8 → Option (List Piece × List UInt8)
  | [] => none
  | b :: rest =>
    if b == code '"' then some (pieces.reverse, rest)
    else if b == code '\\' then
      match rest with
      | [] => none
      | e :: rest =>
        if e == code 'u' then
          match rest with
          | h₁ :: h₂ :: h₃ :: h₄ :: rest =>
            (hex4 h₁ h₂ h₃ h₄).bind fun u => stringPieces (.unit u :: pieces) rest
          | _ => none
        else (shortEscape e).bind fun b => stringPieces (.byte b :: pieces) rest
    else if b < 32 then none
    else stringPieces (.byte b :: pieces) rest

/-- The UTF-8 bytes of a character. -/
def utf8 (c : Char) : List UInt8 := (String.singleton c).toUTF8.toList

/-- The bytes the pieces denote. Units from 0xD800 on come in pairs, high before low. -/
def assemble : List Piece → Option (List UInt8)
  | [] => some []
  | .byte b :: rest => (assemble rest).map (b :: ·)
  | .unit u :: rest =>
    if u < 0xD800 || 0xDFFF < u then (assemble rest).map (utf8 (Char.ofNat u) ++ ·)
    else if u < 0xDC00 then
      match rest with
      | .unit v :: rest =>
        if 0xDC00 ≤ v && v ≤ 0xDFFF then
          let c := Char.ofNat (0x10000 + (u - 0xD800) * 0x400 + (v - 0xDC00))
          (assemble rest).map (utf8 c ++ ·)
        else none
      | _ => none
    else none

/-- The text of a string's pieces, if they denote one. -/
def textOf (pieces : List Piece) : Option String :=
  (assemble pieces).bind fun bytes => String.fromUTF8? ⟨bytes.toArray⟩

/-- The text of a string's pieces, but with the backslash of every escape that stands for a
digit. -/
def spellingOf (pieces : List Piece) : Option String :=
  textOf <| pieces.flatMap fun
    | .unit u => if 48 ≤ u && u ≤ 57 then [.byte (code '\\'), .unit u] else [.unit u]
    | piece => [piece]

/-- A string whose opening quote has been read. -/
def string (reading : List Piece → Option String) (bs : List UInt8) :
    Option (Option String × List UInt8) :=
  (stringPieces [] bs).map fun (pieces, rest) => (reading pieces, rest)

/-- The datum of a number literal; `plainInt` if neither point nor exponent was written. -/
def numberOf (l : Decimal.Literal) (plainInt : Bool) : Datum :=
  let n := Decimal.ofDigits l.whole
  if plainInt && !l.negative && n < UInt64.size then .int n
  else if plainInt && l.negative && 0 < n && n ≤ Nat.pow 2 63 then .int (-n)
  else
    let x := l.toFloat
    if x.isFinite then .real x else .unreadable

/-- The exponent part of a number, if there is one. -/
def exponentPart (bs : List UInt8) : Option (Option Int × List UInt8) :=
  match bs with
  | b :: rest =>
    if b == code 'e' || b == code 'E' then
      let (negative, rest) := match rest with
        | s :: more => if s == code '-' then (true, more) else if s == code '+' then (false, more) else (false, rest)
        | [] => (false, rest)
      let (ds, rest) := digits rest
      if ds.isEmpty then none
      else
        let n : Int := Decimal.ofDigits (chars ds)
        some (some (if negative then -n else n), rest)
    else some (none, bs)
  | [] => some (none, bs)

/-- The fraction part of a number, if there is one. -/
def fractionPart (bs : List UInt8) : Option (Option (List UInt8) × List UInt8) :=
  match bs with
  | b :: rest =>
    if b == code '.' then
      let (ds, rest) := digits rest
      if ds.isEmpty then none else some (some ds, rest)
    else some (none, bs)
  | [] => some (none, bs)

/-- A number. -/
def number (bs : List UInt8) : Option (Datum × List UInt8) := do
  let (negative, bs) := match bs with
    | b :: rest => if b == code '-' then (true, rest) else (false, bs)
    | [] => (false, bs)
  let (whole, bs) ← match bs with
    | [] => none
    | b :: rest =>
      if b == code '0' then some ([b], rest)
      else if isDigit b then some (digits bs) else none
  let (fraction, bs) ← fractionPart bs
  let (exponent, bs) ← exponentPart bs
  let literal : Decimal.Literal :=
    { negative, whole := chars whole, fraction := chars (fraction.getD []), exponent := exponent.getD 0 }
  return (numberOf literal (fraction.isNone && exponent.isNone), bs)

/-- `bs` less the word `w` it starts with. -/
def dropWord : (w : List Char) → List UInt8 → Option (List UInt8)
  | [], bs => some bs
  | c :: w, b :: bs => if b == code c then dropWord w bs else none
  | _ :: _, [] => none

/-- A member's key joined to the members that follow it; an unreadable key or tail spoils the
record. -/
def joinMember (key : Option String) (d : Datum) (rest : Option (List (String × Datum))) :
    Option (List (String × Datum)) :=
  match key, rest with
  | some k, some ms => some ((k, d) :: ms)
  | _, _ => none

mutual

/-- A value, with blanks before it skipped; `keyOf` reads keys. The number bounds that of tokens. -/
def value (keyOf : List Piece → Option String) : Nat → List UInt8 → Option (Datum × List UInt8)
  | 0, _ => none
  | fuel + 1, bs =>
    match skipBlanks bs with
    | [] => none
    | b :: rest =>
      if b == code '{' then
        match skipBlanks rest with
        | [] => none
        | c :: after =>
          if c == code '}' then some (.record [], after)
          else do
            let (ms, rest) ← members keyOf fuel (c :: after)
            return (ms.elim .unreadable .record, rest)
      else if b == code '[' then
        match skipBlanks rest with
        | [] => none
        | c :: after =>
          if c == code ']' then some (.list [], after)
          else do
            let (ds, rest) ← items keyOf fuel (c :: after)
            return (.list ds, rest)
      else if b == code '"' then do
        let (s, rest) ← string textOf rest
        return (s.elim .unreadable .text, rest)
      else if b == code 't' then do return (.flag true, ← dropWord "rue".toList rest)
      else if b == code 'f' then do return (.flag false, ← dropWord "alse".toList rest)
      else if b == code 'n' then do return (.null, ← dropWord "ull".toList rest)
      else number (b :: rest)

/-- The items of a list up to its closing bracket. -/
def items (keyOf : List Piece → Option String) : Nat → List UInt8 → Option (List Datum × List UInt8)
  | 0, _ => none
  | fuel + 1, bs => do
    let (d, rest) ← value keyOf fuel bs
    match skipBlanks rest with
    | [] => none
    | b :: rest =>
      if b == code ',' then do
        let (ds, rest) ← items keyOf fuel rest
        return (d :: ds, rest)
      else if b == code ']' then some ([d], rest)
      else none

/-- The members of a record up to its closing brace; no members if one of the keys is
unreadable. -/
def members (keyOf : List Piece → Option String) :
    Nat → List UInt8 → Option (Option (List (String × Datum)) × List UInt8)
  | 0, _ => none
  | fuel + 1, bs =>
    match skipBlanks bs with
    | [] => none
    | q :: rest =>
      if q == code '"' then do
        let (key, rest) ← string keyOf rest
        match skipBlanks rest with
        | [] => none
        | c :: rest =>
          if c == code ':' then do
            let (d, rest) ← value keyOf fuel rest
            match skipBlanks rest with
            | [] => none
            | b :: rest =>
              if b == code ',' then do
                let (ms, rest) ← members keyOf fuel rest
                return (joinMember key d ms, rest)
              else if b == code '}' then some (joinMember key d (some []), rest)
              else none
          else none
      else none

end

/-- The datum a text denotes, if it is JSON. Every token is a byte at least, and each takes two
steps at most. -/
def readWith (keyOf : List Piece → Option String) (bs : List UInt8) : Option Datum :=
  match value keyOf (2 * bs.length + 2) bs with
  | some (d, rest) => if (skipBlanks rest).isEmpty then some d else none
  | none => none

/-- The datum a text denotes, with every key as it reads. -/
def read (bs : List UInt8) : Option Datum := readWith textOf bs

/-- The datum a text denotes, with the digits of every key as they are spelled. -/
def readSpelled (bs : List UInt8) : Option Datum := readWith spellingOf bs

/-- `read` of a text's UTF-8 bytes. -/
def readText (s : String) : Option Datum := read s.toUTF8.toList

end ClickGrant.Json
