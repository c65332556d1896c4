import ClickGrant.Program.Transcript

/-!
# The program

Reads the arguments and the files they name, prints or serves, and keeps the time while serving.
-/
set_option autoImplicit false

namespace ClickGrant.Program

/-- The text of a file, if it can be read. -/
def readText (path : String) : IO (Option String) := do
  try return some (← IO.FS.readFile path)
  catch _ => return none

/-- What lies at a consent file's path. -/
def readConsents (path : Path) : IO ConsentFile := do
  try return .bytes (← IO.FS.readBinFile path.text).toList
  catch
    | .noFileOrDirectory .. => return .missing
    | _ => return .directory

/-- The clock, in milliseconds. -/
def readClock : IO UInt64 := return UInt64.ofNat (← IO.monoMsNow)

/-- Where the log goes; nothing if the log file cannot be opened. -/
def openLog (c : Config) : IO (Option IO.FS.Stream) := do
  match c.logging.file with
  | none => return some (← IO.getStdout)
  | some path =>
    try return some (.ofHandle (← IO.FS.Handle.mk path.text .append))
    catch _ => return none

/-- Writes the lines logged so far. -/
def writeLog (out : IO.FS.Stream) (filter : LogFilter) (s : Session) : IO Session := do
  for line in s.selected filter do
    out.putStrLn line
  out.flush
  return { s with lines := [] }

/-- Passes of the timer loop until the idle exit. -/
partial def serveOn (out : IO.FS.Stream) (filter : LogFilter) (s : Session) : IO Unit := do
  let s ← writeLog out filter (s.wake (← readClock))
  if s.ended then
    let _ ← writeLog out filter s.close
  else
    IO.sleep (UInt32.ofNat s.sleepLength)
    serveOn out filter s

/-- Tells why the run fails. -/
def fail (f : RunFailure) : IO UInt32 := do
  (← IO.getStderr).putStr f.message
  return UInt32.ofNat f.status

/-- Serves until the idle exit. -/
def serve (c : Config) : IO UInt32 := do
  match LogFilter.inForce? c.logging.level with
  | none => fail .brokenFilter
  | some filter =>
    match ← openLog c with
    | none => fail .noLog
    | some out =>
      let file ← readConsents c.consent.file
      serveOn out filter (.start c file (← readClock))
      return 0

/-- Runs an invocation. -/
def runCommand (command : Command) : IO UInt32 := do
  let content ← match command.configFile with
    | none => pure none
    | some path => readText path
  match command.plan content with
  | .error f => fail f
  | .ok (.print text) => do
    (← IO.getStdout).putStr text
    return 0
  | .ok (.serve c) => serve c

end ClickGrant.Program

/-- The program. -/
def main (arguments : List String) : IO UInt32 :=
  match ClickGrant.Command.ofArguments arguments with
  | .error e => ClickGrant.Program.fail (.usage e)
  | .ok command => ClickGrant.Program.runCommand command
