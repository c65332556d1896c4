import ClickGrant.Program.LogFilter
import ClickGrant.Program.Plan
import ClickGrant.Program.Session

/-!
# Transcripts

A whole run of the program when nobody calls, as seen from outside: its exit status, what it
prints and what it complains about, and the lines in its log file.
-/
set_option autoImplicit false

namespace ClickGrant

/-- The files that a run finds. -/
structure Files where
  /-- The text in a file that can be read. -/
  text? : String → Option String
  /-- Whether a log file can be opened. -/
  opens : Path → Bool
  /-- What lies at a consent file's path. -/
  consents : Path → ConsentFile

/-- A run as seen from outside. -/
structure Transcript where
  status : Nat
  output : String
  complaint : String
  log : List String
  deriving DecidableEq, Repr

/-- The lines a filter lets through, in the order they were logged. -/
def Session.selected (s : Session) (f : LogFilter) : List String :=
  (s.lines.reverse.filter f.selects).map LogLine.text

namespace Transcript

/-- A failed run. -/
def failed (f : RunFailure) : Transcript :=
  { status := f.status, output := "", complaint := f.message, log := [] }

/-- A run that only prints. -/
def printed (text : String) : Transcript := { status := 0, output := text, complaint := "", log := [] }

/-- A run that serves until the idle exit. -/
def served (files : Files) (now : UInt64) (c : Config) : Transcript :=
  match LogFilter.inForce? c.logging.level with
  | none => failed .brokenFilter
  | some filter =>
    let lines := (Session.untilIdle c (files.consents c.consent.file) now).selected filter
    match c.logging.file with
    | none => printed (String.join (lines.map (· ++ "\n")))
    | some path => if files.opens path then { printed "" with log := lines } else failed .noLog

/-- What arguments come down to. -/
def planOf (files : Files) (arguments : List String) : Except RunFailure Plan := do
  let command ← (Command.ofArguments arguments).mapError .usage
  command.plan (command.configFile.bind files.text?)

/-- The run of an invocation that starts at the time `now`. -/
def ofArguments (files : Files) (now : UInt64) (arguments : List String) : Transcript :=
  match planOf files arguments with
  | .error f => failed f
  | .ok (.print text) => printed text
  | .ok (.serve c) => served files now c

end Transcript

end ClickGrant
