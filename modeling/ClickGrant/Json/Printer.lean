import ClickGrant.Datum.Basic
import ClickGrant.Decimal.Text

/-!
# Writing JSON

Compact JSON: no blanks, members in the order given. In strings only the quote, the backslash and
the control characters are escaped, the common ones by a letter and the others by four hexadecimal
digits; every other character stands for itself.

Proved is that records of whole numbers read back (`Proofs.Json`). About strings with escapes nothing is
proved.
-/
set_option autoImplicit false

namespace ClickGrant.Json

/-- The lower-case hexadecimal digit of a number below 16. -/
def hexDigit (n : Nat) : Char := Nat.digitChar n

/-- A character inside a string. -/
def escape (c : Char) : List Char :=
  if c = '"' then ['\\', '"']
  else if c = '\\' then ['\\', '\\']
  else if c = '\x08' then ['\\', 'b']
  else if c = '\x0c' then ['\\', 'f']
  else if c = '\n' then ['\\', 'n']
  else if c = '\r' then ['\\', 'r']
  else if c = '\t' then ['\\', 't']
  else if c < ' ' then ['\\', 'u', '0', '0', hexDigit (c.toNat / 16), hexDigit (c.toNat % 16)]
  else [c]

/-- A string with its quotes. -/
def quoted (s : String) : List Char := '"' :: s.toList.flatMap escape ++ ['"']

/-- A whole number. -/
def integer (n : Int) : List Char := (toString n).toList

mutual

/-- The text of a datum. A date is written as a string; what is unreadable, as `null`. -/
def render : Datum → List Char
  | .null => "null".toList
  | .flag true => "true".toList
  | .flag false => "false".toList
  | .int n => integer n
  | .real x => if x.isFinite then (Decimal.plain .document x).toList else "null".toList
  | .text s => quoted s
  | .date s => quoted s
  | .list ds => '[' :: itemChars ds ++ [']']
  | .record ms => '\x7b' :: memberChars ms ++ ['\x7d']
  | .unreadable => "null".toList

/-- Items with commas between them. -/
def itemChars : List Datum → List Char
  | [] => []
  | [d] => render d
  | d :: rest => render d ++ ',' :: itemChars rest

/-- Members with commas between them. -/
def memberChars : List (String × Datum) → List Char
  | [] => []
  | [(k, d)] => quoted k ++ ':' :: render d
  | (k, d) :: rest => quoted k ++ ':' :: render d ++ ',' :: memberChars rest

end

/-- The compact text of a datum. -/
def print (d : Datum) : String := String.ofList (render d)

end ClickGrant.Json
