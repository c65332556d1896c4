import ClickGrant.Datum.Basic
import ClickGrant.Decimal.Reading

/-!
# TOML: numbers, dates and truth values

A scalar is a word of letters, digits and the signs that numbers and dates use; what stands after
it can belong to no scalar. A whole number fits 64 signed bits, in decimal, or without a sign in
hexadecimal, octal or binary; underscores may stand between digits. A float needs a fraction or an
exponent, or is an infinity or a NaN; a positive one beyond every double is refused, while a
negative one is minus infinity. Dates are checked against the calendar, and a time may follow a
date after a blank.
-/
set_option autoImplicit false

namespace ClickGrant.Toml

/-- A character of a scalar word. -/
def isWord (c : Char) : Bool := c.isAlphanum || c = '+' || c = '-' || c = '.' || c = ':' || c = '_'

/-- The digits a text starts with, underscores between two digits left out, and what follows. The
flag tells whether a digit came just before. -/
def digitRun (isDigit : Char → Bool) (afterDigit : Bool) : List Char → Option (List Char × List Char)
  | [] => if afterDigit then some ([], []) else none
  | c :: rest =>
    if isDigit c then (digitRun isDigit true rest).map fun (ds, more) => (c :: ds, more)
    else if c = '_' then if afterDigit then digitRun isDigit false rest else none
    else if afterDigit then some ([], c :: rest)
    else none

/-- Decimal digits without a superfluous leading zero, and what follows. -/
def wholeDigits (cs : List Char) : Option (List Char × List Char) :=
  match cs with
  | '0' :: rest => some (['0'], rest)
  | _ => digitRun Decimal.isDigit false cs

/-- A sign, if there is one. -/
def signOf : List Char → Option Bool × List Char
  | '+' :: rest => (some false, rest)
  | '-' :: rest => (some true, rest)
  | cs => (none, cs)

/-- The value of a digit of some base up to 16. -/
def digitValue (c : Char) : Nat :=
  if '0' ≤ c && c ≤ '9' then c.toNat - 48
  else if 'A' ≤ c && c ≤ 'F' then c.toNat - 55
  else c.toNat - 87

/-- Whether a character is a digit of a base. -/
def isDigitOf (base : Nat) (c : Char) : Bool :=
  (('0' ≤ c && c ≤ '9') || ('A' ≤ c && c ≤ 'F') || ('a' ≤ c && c ≤ 'f')) && digitValue c < base

/-- The whole number of a sign and magnitude, if it fits 64 signed bits. -/
def fit (negative : Bool) (n : Nat) : Option Int :=
  if negative then if n ≤ Nat.pow 2 63 then some (-n) else none
  else if n < Nat.pow 2 63 then some n else none

/-- A whole number in the notation of a base, after its mark. -/
def based (base : Nat) (cs : List Char) : Option Int :=
  match digitRun (isDigitOf base) false cs with
  | some (ds, []) => fit false (ds.foldl (fun n c => base * n + digitValue c) 0)
  | _ => none

/-- A whole number. -/
def integer? : List Char → Option Int
  | '0' :: 'x' :: rest => based 16 rest
  | '0' :: 'o' :: rest => based 8 rest
  | '0' :: 'b' :: rest => based 2 rest
  | cs =>
    let (sign, cs) := signOf cs
    match wholeDigits cs with
    | some (ds, []) => fit (sign.getD false) (Decimal.ofDigits ds)
    | _ => none

/-- The exponent of a float, mark included, up to the end of the word. -/
def exponent? : List Char → Option Int
  | 'e' :: rest => after rest
  | 'E' :: rest => after rest
  | _ => none
where
  after (cs : List Char) : Option Int :=
    let (sign, cs) := signOf cs
    match digitRun Decimal.isDigit false cs with
    | some (ds, []) =>
      let n : Int := Decimal.ofDigits ds
      some (if sign.getD false then -n else n)
    | _ => none

/-- The literal of a float. -/
def literal? (cs : List Char) : Option Decimal.Literal := do
  let (sign, cs) := signOf cs
  let (whole, rest) ← wholeDigits cs
  match rest with
  | '.' :: rest =>
    let (fraction, rest) ← digitRun Decimal.isDigit false rest
    let exponent ← if rest.isEmpty then some 0 else exponent? rest
    return { negative := sign.getD false, whole, fraction, exponent }
  | _ =>
    let exponent ← exponent? rest
    return { negative := sign.getD false, whole, fraction := [], exponent }

/-- A float. -/
def float? (cs : List Char) : Option Float :=
  let (sign, body) := signOf cs
  let signed (x : Float) : Float := if sign.getD false then -x else x
  if body = "inf".toList then some (signed (1 / 0))
  else if body = "nan".toList then some (0 / 0)
  else (literal? cs).bind fun l =>
    let x := l.toFloat
    if x.isInf && x > 0 then none else some x

/-- Whether every character is a decimal digit, and there are `n` of them. -/
def isNumber (n : Nat) (cs : List Char) : Bool := cs.length = n && cs.all Decimal.isDigit

/-- The number at a place of a word, if `width` digits stand there. -/
def numberAt (cs : List Char) (start width : Nat) : Option Nat :=
  let part := (cs.drop start).take width
  if isNumber width part then some (Decimal.ofDigits part) else none

/-- The length of a month. -/
def daysIn (year month : Nat) : Nat :=
  if month = 2 then
    if year % 4 = 0 && (year % 100 ≠ 0 || year % 400 = 0) then 29 else 28
  else if month = 4 || month = 6 || month = 9 || month = 11 then 30
  else 31

/-- What follows a calendar date `dddd-dd-dd`. -/
def calendarDate (cs : List Char) : Option (List Char) := do
  let year ← numberAt cs 0 4
  let month ← numberAt cs 5 2
  let day ← numberAt cs 8 2
  if cs[4]? = some '-' && cs[7]? = some '-' && 1 ≤ month && month ≤ 12 && 1 ≤ day && day ≤ daysIn year month then
    some (cs.drop 10)
  else none

/-- What follows a time of day `dd:dd:dd`, with a fraction of the second if there is one. -/
def timeOfDay (cs : List Char) : Option (List Char) := do
  let hour ← numberAt cs 0 2
  let minute ← numberAt cs 3 2
  let second ← numberAt cs 6 2
  if cs[2]? = some ':' && cs[5]? = some ':' && hour ≤ 23 && minute ≤ 59 && second ≤ 60 then
    match cs.drop 8 with
    | '.' :: rest => if (rest.takeWhile Decimal.isDigit).isEmpty then none else some (rest.dropWhile Decimal.isDigit)
    | rest => some rest
  else none

/-- Whether the characters are an offset from universal time, or none at all. -/
def isOffset (cs : List Char) : Bool :=
  match cs with
  | [] => true
  | ['Z'] => true
  | ['z'] => true
  | c :: rest =>
    (c = '+' || c = '-') && rest.length = 5 && rest[2]? = some ':'
      && (numberAt rest 0 2).any (· ≤ 23) && (numberAt rest 3 2).any (· ≤ 59)

/-- Whether the word is a time of day, with an offset if `offset` allows one. -/
def isTime (offset : Bool) (cs : List Char) : Bool :=
  match timeOfDay cs with
  | some rest => if offset then isOffset rest else rest.isEmpty
  | none => false

/-- Whether the word is a date with its time. -/
def isMoment (cs : List Char) : Bool :=
  match calendarDate cs with
  | some (c :: rest) => (c = 'T' || c = 't') && isTime true rest
  | _ => false

/-- A word that is no date. -/
def plainScalar (word : List Char) : Option Datum :=
  if word = "true".toList then some (.flag true)
  else if word = "false".toList then some (.flag false)
  else match integer? word with
    | some n => some (.int n)
    | none => (float? word).map .real

/-- A scalar and what follows it. -/
def scalar (cs : List Char) : Option (Datum × List Char) :=
  let (word, rest) := cs.span isWord
  if isMoment word || isTime false word then some (.date (String.ofList word), rest)
  else if calendarDate word = some [] then
    match rest with
    | ' ' :: more =>
      let (time, rest') := more.span isWord
      if isTime true time then some (.date (String.ofList (word ++ ' ' :: time)), rest')
      else some (.date (String.ofList word), rest)
    | _ => some (.date (String.ofList word), rest)
  else (plainScalar word).map fun d => (d, rest)

end ClickGrant.Toml
