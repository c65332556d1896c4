import ClickGrant.Text.Alphanumeric

/-!
# Patterns

Which texts are patterns of characters that a finite automaton can look for: alternatives,
repetitions, groups, bracketed classes of characters, escapes. `Pattern.isWellFormed` decides it.
Counted repetitions, references to groups and conditions on the characters around a place other
than the two ends of a line are not among them.
-/
set_option autoImplicit false

namespace ClickGrant.Text.Pattern

/-- What stands in a pattern where a character may. -/
inductive Item where
  | character (c : Char)
  /-- Any character of a class. -/
  | someOf
  /-- One of the ends of the text. -/
  | place
  deriving DecidableEq, Repr

/-- The number that hexadecimal digits write. -/
def hexadecimal? (ds : List Char) : Option Nat :=
  ds.foldlM (fun n d =>
    if d.isDigit then some (16 * n + (d.toNat - '0'.toNat))
    else if 'a' ≤ d.toLower && d.toLower ≤ 'f' then some (16 * n + (d.toLower.toNat - 'a'.toNat + 10))
    else none) 0

/-- The character whose code is written by the first `count` characters, and what follows them. -/
def coded (count : Nat) (cs : List Char) : Option (Item × List Char) := do
  let n ← hexadecimal? (cs.take count)
  if count ≤ cs.length && n.isValidChar then some (.character (Char.ofNat n), cs.drop count) else none

/-- The letters that stand for a control character behind a backslash. -/
def controls : List (Char × Char) :=
  [('a', '\x07'), ('f', '\x0C'), ('t', '\t'), ('n', '\n'), ('r', '\r'), ('v', '\x0B')]

/-- What stands behind a backslash, and what follows it. Punctuation stands for itself. -/
def escape : List Char → Option (Item × List Char)
  | [] => none
  | c :: rest =>
    if c = 'x' then coded 2 rest
    else if c = 'u' then coded 4 rest
    else if c = 'U' then coded 8 rest
    else if "dDsSwW".toList.contains c then some (.someOf, rest)
    else if c = 'p' || c = 'P' then
      match rest with
      | category :: rest => if "clmnpsz".toList.contains category.toLower then some (.someOf, rest) else none
      | [] => none
    else if c = 'A' || c = 'z' then some (.place, rest)
    else
      match controls.lookup c with
      | some control => some (.character control, rest)
      | none =>
        if c.toNat < 128 && !c.isAlphanum && c ≠ '<' && c ≠ '>' then some (.character c, rest) else none

/-- The first item of a class, and what follows it. -/
def item : List Char → Option (Item × List Char)
  | [] => none
  | '\\' :: rest => escape rest
  | c :: rest => some (.character c, rest)

/-- What follows the first item of a class, or the first range. A range goes up, from character to
character; at the end of a class or before another one a dash is no range. -/
def afterItem (cs : List Char) : Option (List Char) := do
  let (first, rest) ← item cs
  match rest with
  | '-' :: next :: more =>
    if next = ']' || next = '-' then if first = .place then none else some rest
    else
      match first, ← item (next :: more) with
      | .character a, (.character b, rest) => if a ≤ b then some rest else none
      | _, _ => none
  | _ => if first = .place then none else some rest

/-- The classes that have a name. -/
def classNames : List String :=
  ["alnum", "alpha", "ascii", "blank", "cntrl", "digit", "graph", "lower", "print", "punct", "space",
   "upper", "word", "xdigit"]

/-- What follows a named class whose bracket has been read, `:name:]` or `:^name:]`. -/
def afterClassName : List Char → Option (List Char)
  | ':' :: cs =>
    let cs := match cs with
      | '^' :: rest => rest
      | _ => cs
    match cs.dropWhile (· ≠ ':') with
    | ':' :: ']' :: rest =>
      if classNames.contains (String.ofList (cs.takeWhile (· ≠ ':'))) then some rest else none
    | _ => none
  | _ => none

/-- The items of a class whose bracket has been read. A dash or a closing bracket in the first
place is an item. -/
def classStart (cs : List Char) : List Char :=
  let cs := match cs with
    | '^' :: rest => rest
    | _ => cs
  match cs with
  | ']' :: rest => rest
  | _ => cs.dropWhile (· = '-')

/-- What follows a class; `depth` counts the classes around the innermost one. The first argument
bounds the number of items. -/
def afterClass : Nat → Nat → List Char → Option (List Char)
  | 0, _, _ => none
  | _ + 1, _, [] => none
  | fuel + 1, depth, '[' :: rest =>
    match afterClassName rest with
    | some rest => afterClass fuel depth rest
    | none => afterClass fuel (depth + 1) (classStart rest)
  | fuel + 1, depth, ']' :: rest =>
    match depth with
    | 0 => some rest
    | depth + 1 => afterClass fuel depth rest
  | fuel + 1, depth, '&' :: '&' :: rest => afterClass fuel depth rest
  | fuel + 1, depth, '-' :: '-' :: rest => afterClass fuel depth rest
  | fuel + 1, depth, '~' :: '~' :: rest => afterClass fuel depth rest
  | fuel + 1, depth, cs => (afterItem cs).bind (afterClass fuel depth)

/-- Whether a group may have this name. -/
def isGroupName : List Char → Bool
  | [] => false
  | c :: cs =>
    (c = '_' || (isAlphanumeric c && !c.isDigit))
      && cs.all fun c => "_.[]".toList.contains c || isAlphanumeric c

/-- Whether these switches, on before the minus sign and off behind it, may be set together. -/
def areSwitches (cs : List Char) : Bool :=
  cs.all "imsUuxR-".toList.contains && cs.eraseDups = cs && cs.getLast? ≠ some '-'

/-- The beginning of a group, behind its parenthesis. -/
structure Opening where
  /-- Whether a group follows; switches may also stand alone. -/
  opens : Bool
  name : Option (List Char)
  rest : List Char

/-- The beginning of a group with a name. -/
def named (cs : List Char) : Option Opening :=
  let name := cs.takeWhile (· ≠ '>')
  match cs.dropWhile (· ≠ '>') with
  | [] => none
  | _ :: rest => if isGroupName name then some { opens := true, name := some name, rest } else none

/-- The beginning of a group. -/
def opening : List Char → Option Opening
  | '?' :: 'P' :: '<' :: cs => named cs
  | '?' :: '<' :: cs => named cs
  | '?' :: cs =>
    let ends (c : Char) : Bool := c = ':' || c = ')'
    let switches := cs.takeWhile (!ends ·)
    match cs.dropWhile (!ends ·) with
    | [] => none
    | c :: rest =>
      if areSwitches switches && (c = ':' || !switches.isEmpty) then
        some { opens := c = ':', name := none, rest }
      else none
  | cs => some { opens := true, name := none, rest := cs }

/-- Whether the rest of a pattern is well-formed: `depth` groups are open, `names` are taken, and
something to repeat stands before it or not. The first argument bounds the number of items. -/
def continues : Nat → (depth : Nat) → (names : List (List Char)) → (repeatable : Bool) →
    List Char → Bool
  | 0, _, _, _, _ => false
  | _ + 1, depth, _, _, [] => depth = 0
  | fuel + 1, depth, names, repeatable, c :: rest =>
    if c = '(' then
      match opening rest with
      | none => false
      | some o =>
        !o.name.any names.contains
          && continues fuel (if o.opens then depth + 1 else depth) (o.name.toList ++ names) false o.rest
    else if c = ')' then
      match depth with
      | 0 => false
      | depth + 1 => continues fuel depth names true rest
    else if c = '|' then continues fuel depth names false rest
    else if c = '[' then
      match afterClass (rest.length + 1) 0 (classStart rest) with
      | none => false
      | some rest => continues fuel depth names true rest
    else if c = '?' || c = '*' || c = '+' then
      repeatable
        && continues fuel depth names true
          (match rest with
          | '?' :: rest => rest
          | _ => rest)
    else if c = '{' then false
    else if c = '\\' then
      match escape rest with
      | none => false
      | some (_, rest) => continues fuel depth names true rest
    else continues fuel depth names true rest

/-- Whether a text is a pattern. -/
def isWellFormed (cs : List Char) : Bool := continues (cs.length + 1) 0 [] false cs

end ClickGrant.Text.Pattern
