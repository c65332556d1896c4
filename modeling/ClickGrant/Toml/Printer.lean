import ClickGrant.Decimal.Text

/-!
# Writing TOML

The text of values. A string is written in the first of these forms that shows it as it is:
between quotation marks, between apostrophes, on lines of its own between three quotation marks,
between three apostrophes. If none does, it is written with escapes, on lines of its own when it
has several.

A form shows a string as it is if it needs no escape in it: control characters other than tab and
line feed need one everywhere, the backslash between quotation marks, and the closing mark of the
form wherever it would end it.

The format would allow other forms as well; which one is taken is a choice of this printer. Proved is
that every form reads back (`Proofs.Toml.Strings`), and every other value too (`Proofs.Toml.Scalars`),
a float on the condition that its decimal text does.
-/
set_option autoImplicit false

namespace ClickGrant.Toml

/-- A control character that only an escape can write. -/
def needsEscape (c : Char) : Bool := (c < ' ' && c ≠ '\t' && c ≠ '\n') || c = '\x7f'

/-- The length of the longest run of `q`; `run` counts the one being read. -/
def longestRun (q : Char) (run : Nat) : List Char → Nat
  | [] => 0
  | c :: rest => if c = q then max (run + 1) (longestRun q (run + 1) rest) else longestRun q 0 rest

/-- The forms of a string. -/
inductive StringForm where
  | basic
  | literal
  | multilineBasic
  | multilineLiteral
  deriving DecidableEq, Repr

/-- The form a string is written in. -/
def StringForm.of (cs : List Char) : StringForm :=
  let controls := cs.any needsEscape
  let backslash := cs.contains '\\'
  let newline := cs.contains '\n'
  let apostrophes := longestRun '\'' 0 cs
  let quotes := longestRun '"' 0 cs
  if !controls && !backslash && quotes = 0 && !newline then .basic
  else if !controls && apostrophes = 0 && !newline then .literal
  else if !controls && !backslash && quotes ≤ 2 then .multilineBasic
  else if !controls && apostrophes ≤ 2 then .multilineLiteral
  else if newline then .multilineBasic
  else .basic

/-- An upper-case hexadecimal digit. -/
def hexDigit (n : Nat) : Char := (Nat.digitChar n).toUpper

/-- A character between quotation marks, apart from the quotation mark itself. -/
def escape (multiline : Bool) (c : Char) : List Char :=
  if c = '\x08' then ['\\', 'b']
  else if c = '\t' then ['\\', 't']
  else if c = '\n' then if multiline then ['\n'] else ['\\', 'n']
  else if c = '\x0c' then ['\\', 'f']
  else if c = '\r' then ['\\', 'r']
  else if c = '\\' then ['\\', '\\']
  else if c < ' ' || c = '\x7f' then
    ['\\', 'u', '0', '0', hexDigit (c.toNat / 16), hexDigit (c.toNat % 16)]
  else [c]

/-- The content of a string between quotation marks. `most` quotation marks in a row are written
as they are, the next one with an escape; `run` counts those just written. -/
def escapeAll (multiline : Bool) (most run : Nat) : List Char → List Char
  | [] => []
  | c :: rest =>
    if c = '"' then
      if run < most then '"' :: escapeAll multiline most (run + 1) rest
      else '\\' :: '"' :: escapeAll multiline most 0 rest
    else escape multiline c ++ escapeAll multiline most 0 rest

/-- A string. Text that has several lines starts on a line of its own. -/
def quoted (s : String) : List Char :=
  let cs := s.toList
  let lead := if cs.contains '\n' then ['\n'] else []
  match StringForm.of cs with
  | .basic => '"' :: escapeAll false 0 0 cs ++ ['"']
  | .literal => '\'' :: cs ++ ['\'']
  | .multilineBasic => ['"', '"', '"'] ++ lead ++ escapeAll true 2 0 cs ++ ['"', '"', '"']
  | .multilineLiteral => ['\'', '\'', '\''] ++ lead ++ cs ++ ['\'', '\'', '\'']

/-- An array of strings: on one line with at most one item, else an item a line. -/
def stringArray : List String → List Char
  | [] => ['[', ']']
  | [s] => '[' :: quoted s ++ [']']
  | ss => '[' :: '\n' :: ss.flatMap (fun s => "    ".toList ++ quoted s ++ [',', '\n']) ++ [']']

/-- A truth value. -/
def bool (b : Bool) : List Char := if b then "true".toList else "false".toList

/-- A whole number. -/
def natural (n : Nat) : List Char := Decimal.digitsOf n

/-- A float; whole ones show a point. -/
def float (x : Float) : List Char := (Decimal.plain .document x).toList

/-- A line that assigns a value to a bare key. -/
def assignment (key : String) (value : List Char) : List Char := key.toList ++ " = ".toList ++ value ++ ['\n']

end ClickGrant.Toml
