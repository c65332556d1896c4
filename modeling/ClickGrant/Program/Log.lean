/-!
# Log

Levels of detail, and the lines of the log. A line says which part of the program writes it, and
its message may be followed by named values, its fields.
-/
set_option autoImplicit false

namespace ClickGrant

/-- Levels, from the one that nothing has to the one that everything has. -/
inductive LogLevel where
  | off | error | warn | info | debug | trace
  deriving DecidableEq, Repr

namespace LogLevel

def all : List LogLevel := [.off, .error, .warn, .info, .debug, .trace]

def name : LogLevel → String
  | .off => "OFF"
  | .error => "ERROR"
  | .warn => "WARN"
  | .info => "INFO"
  | .debug => "DEBUG"
  | .trace => "TRACE"

/-- Position in the order of detail. -/
def detail : LogLevel → Nat
  | .off => 0
  | .error => 1
  | .warn => 2
  | .info => 3
  | .debug => 4
  | .trace => 5

/-- The number that digits write, after a plus sign or none. -/
def number? (text : String) : Option Nat :=
  let digits := match text.toList with
    | '+' :: rest => rest
    | cs => cs
  if digits.isEmpty || !digits.all Char.isDigit then none
  else some (digits.foldl (fun n d => 10 * n + (d.toNat - '0'.toNat)) 0)

/-- A level by its name in letters of either case, or by its detail. -/
def ofText? (text : String) : Option LogLevel :=
  match number? text with
  | some n => all.find? (·.detail = n)
  | none => all.find? (·.name = text.toUpper)

end LogLevel

/-- A line of the log. -/
structure LogLine where
  level : LogLevel
  /-- The part of the program that writes. -/
  target : String
  message : String
  /-- Values with their names. -/
  fields : List (String × String)
  deriving DecidableEq, Repr

/-- The names a line has values for. The message is one of them. -/
def LogLine.names (l : LogLine) : List String := "message" :: l.fields.map (·.1)

/-- The line as it is written. -/
def LogLine.text (l : LogLine) : String :=
  l.level.name ++ " " ++ l.target ++ ": " ++ l.message
    ++ String.join (l.fields.map fun (name, value) => " " ++ name ++ "=" ++ value)

end ClickGrant
