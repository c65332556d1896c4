/-!
# TOML: blanks, strings and keys

The four string forms, and keys made of bare words or one-line strings joined by points. A reader
takes the characters ahead and gives what it read with the characters that follow. Text is read
with Unix line ends: a carriage return counts only in front of a line feed, and vanishes there.
-/
set_option autoImplicit false

namespace ClickGrant.Toml

/-- A blank within a line. -/
def isBlank (c : Char) : Bool := c = ' ' || c = '\t'

def skipBlanks (cs : List Char) : List Char := cs.dropWhile isBlank

/-- A character that may stand in a comment or a string as it is: no control character but the
tab. -/
def isPlain (c : Char) : Bool := c = '\t' || (' ' ≤ c && c ≠ '\x7f')

/-- What follows an optional line end. -/
def skipNewline : List Char → List Char
  | '\n' :: rest => rest
  | '\r' :: '\n' :: rest => rest
  | cs => cs

/-- What follows a comment, if one starts here. -/
def skipComment : List Char → List Char
  | '#' :: rest => rest.dropWhile isPlain
  | cs => cs

/-- What follows the end of a line: blanks and a comment may come first. The end of the text ends
its last line. -/
def lineEnd (cs : List Char) : Option (List Char) :=
  match skipComment (skipBlanks cs) with
  | [] => some []
  | '\n' :: rest => some rest
  | '\r' :: '\n' :: rest => some rest
  | _ => none

/-- What follows blanks, line ends and comments. A comment ends with its line; at a character that
no comment holds the rest is handed back as it is. -/
def skipFiller (inComment : Bool) : List Char → List Char
  | [] => []
  | '\n' :: rest => skipFiller false rest
  | '\r' :: '\n' :: rest => skipFiller false rest
  | c :: rest =>
    if inComment then if isPlain c then skipFiller true rest else c :: rest
    else if isBlank c then skipFiller false rest
    else if c = '#' then skipFiller true rest
    else c :: rest

def hexValue (c : Char) : Option Nat :=
  if '0' ≤ c && c ≤ '9' then some (c.toNat - 48)
  else if 'A' ≤ c && c ≤ 'F' then some (c.toNat - 55)
  else if 'a' ≤ c && c ≤ 'f' then some (c.toNat - 87)
  else none

/-- The number written by hexadecimal digits. -/
def hexNumber (cs : List Char) : Option Nat :=
  cs.foldl (fun n c => do return (← n) * 16 + (← hexValue c)) (some 0)

/-- The character with a code written in hexadecimal; surrogates are none. -/
def hexChar (cs : List Char) : Option Char :=
  (hexNumber cs).bind fun n => if h : n.isValidChar then some (Char.ofNatAux n h) else none

/-- The character behind a one-letter escape. -/
def shortEscape (c : Char) : Option Char :=
  match c with
  | 'b' => some '\x08'
  | 't' => some '\t'
  | 'n' => some '\n'
  | 'f' => some '\x0c'
  | 'r' => some '\r'
  | '"' => some '"'
  | '\\' => some '\\'
  | _ => none

/-- A character put in front of a text that was read. -/
def push (c : Char) (r : Option (List Char × List Char)) : Option (List Char × List Char) :=
  r.map fun (s, rest) => (c :: s, rest)

/-- The content of a one-line string after its opening quote, escapes resolved. -/
def basicBody : List Char → Option (List Char × List Char)
  | [] => none
  | '"' :: rest => some ([], rest)
  | '\\' :: 'u' :: a :: b :: c :: d :: rest =>
    (hexChar [a, b, c, d]).bind fun x => push x (basicBody rest)
  | '\\' :: 'U' :: a :: b :: c :: d :: e :: f :: g :: h :: rest =>
    (hexChar [a, b, c, d, e, f, g, h]).bind fun x => push x (basicBody rest)
  | '\\' :: e :: rest => (shortEscape e).bind fun x => push x (basicBody rest)
  | c :: rest => if isPlain c && c ≠ '\\' then push c (basicBody rest) else none

/-- The content of a one-line literal string after its opening quote. -/
def literalBody : List Char → Option (List Char × List Char)
  | [] => none
  | '\'' :: rest => some ([], rest)
  | c :: rest => if isPlain c then push c (literalBody rest) else none

/-- Where the reader of a string of several lines stands. -/
inductive LinePosition where
  /-- Among content. -/
  | within
  /-- After a backslash and blanks; the line must end here. -/
  | breaking
  /-- After such a line end; further blanks and line ends are skipped. -/
  | skipping
  deriving DecidableEq

/-- The content of a string of several lines after its opening quotes. Up to two quotes may stand
in front of the closing three. A backslash at the end of a line takes the line end with it and
all blanks and line ends that follow. -/
def multilineBody (p : LinePosition) : List Char → Option (List Char × List Char)
  | [] => none
  | '\n' :: rest =>
    match p with
    | .within => push '\n' (multilineBody .within rest)
    | _ => multilineBody .skipping rest
  | '\r' :: '\n' :: rest =>
    match p with
    | .within => push '\n' (multilineBody .within rest)
    | _ => multilineBody .skipping rest
  | '"' :: '"' :: '"' :: '"' :: '"' :: rest => if p = .breaking then none else some (['"', '"'], rest)
  | '"' :: '"' :: '"' :: '"' :: rest => if p = .breaking then none else some (['"'], rest)
  | '"' :: '"' :: '"' :: rest => if p = .breaking then none else some ([], rest)
  | '\\' :: 'u' :: a :: b :: c :: d :: rest =>
    if p = .breaking then none
    else (hexChar [a, b, c, d]).bind fun x => push x (multilineBody .within rest)
  | '\\' :: 'U' :: a :: b :: c :: d :: e :: f :: g :: h :: rest =>
    if p = .breaking then none
    else (hexChar [a, b, c, d, e, f, g, h]).bind fun x => push x (multilineBody .within rest)
  | '\\' :: e :: rest =>
    if p = .breaking then none
    else if e = '\n' then multilineBody .skipping rest
    else if isBlank e || e = '\r' then multilineBody .breaking (e :: rest)
    else (shortEscape e).bind fun x => push x (multilineBody .within rest)
  | c :: rest =>
    if p ≠ .within && isBlank c then multilineBody p rest
    else if p ≠ .breaking && isPlain c && c ≠ '\\' then push c (multilineBody .within rest)
    else none

/-- The content of a literal string of several lines after its opening quotes. -/
def multilineLiteralBody : List Char → Option (List Char × List Char)
  | [] => none
  | '\n' :: rest => push '\n' (multilineLiteralBody rest)
  | '\r' :: '\n' :: rest => push '\n' (multilineLiteralBody rest)
  | '\'' :: '\'' :: '\'' :: '\'' :: '\'' :: rest => some (['\'', '\''], rest)
  | '\'' :: '\'' :: '\'' :: '\'' :: rest => some (['\''], rest)
  | '\'' :: '\'' :: '\'' :: rest => some ([], rest)
  | c :: rest => if isPlain c then push c (multilineLiteralBody rest) else none

/-- A one-line string of either form. -/
def lineString : List Char → Option (List Char × List Char)
  | '"' :: rest => basicBody rest
  | '\'' :: rest => literalBody rest
  | _ => none

/-- A string of any form. Three quotes open one of several lines, whose first line may be empty. -/
def string : List Char → Option (List Char × List Char)
  | '"' :: '"' :: '"' :: rest => multilineBody .within (skipNewline rest)
  | '\'' :: '\'' :: '\'' :: rest => multilineLiteralBody (skipNewline rest)
  | cs => lineString cs

/-- A character of a bare key. -/
def isBare (c : Char) : Bool := c.isAlphanum || c = '_' || c = '-'

/-- One part of a key. -/
def keyPart (cs : List Char) : Option (String × List Char) :=
  match cs with
  | '"' :: _ => (lineString cs).map fun (s, rest) => (String.ofList s, rest)
  | '\'' :: _ => (lineString cs).map fun (s, rest) => (String.ofList s, rest)
  | _ =>
    let (word, rest) := cs.span isBare
    if word.isEmpty then none else some (String.ofList word, rest)

/-- A key of at most `parts` parts, with blanks around each part skipped. -/
def key : (parts : Nat) → List Char → Option (List String × List Char)
  | 0, _ => none
  | parts + 1, cs => do
    let (name, rest) ← keyPart (skipBlanks cs)
    match skipBlanks rest with
    | '.' :: rest => do
      let (names, rest) ← key parts rest
      return (name :: names, rest)
    | rest => some ([name], rest)

end ClickGrant.Toml
