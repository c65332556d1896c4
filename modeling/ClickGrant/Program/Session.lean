import ClickGrant.Config.Document
import ClickGrant.Metrics.Exposition
import ClickGrant.Program.CommandLine
import ClickGrant.Program.Log
import ClickGrant.Service
import ClickGrant.Standalone.Environment
import ClickGrant.Timer.Loop

/-!
# A session of the program

The service running alone, from its start to the idle exit. The idle exit is armed at the start;
after that only time moves a session, one pass of the timer loop after the other. Each step adds
to the log.
-/
set_option autoImplicit false

namespace ClickGrant

/-- A service that runs alone. -/
structure Session where
  settings : Settings
  registry : Registry
  environment : Environment
  /-- Everything logged so far, the last line first. -/
  lines : List LogLine

namespace Session

/-- Part of the program that writes its life into the log. -/
def lifeTarget : String := "scmgr_daemon"

/-- Part of the program that writes about a module into the log. -/
def moduleTarget (name : String) : String := lifeTarget ++ "::" ++ name

/-- Adds a line to the log. -/
def log (level : LogLevel) (target message : String) (fields : List (String × String)) (s : Session) :
    Session :=
  { s with lines := { level, target, message, fields } :: s.lines }

/-- Carries an operation of the service out. -/
def perform {α : Type} (x : Op Registry α) (s : Session) : α × Session :=
  let answer (q : Request) (r : Registry) : StateM Environment (q.Answer × Registry) :=
    modifyGet fun e => ((e.answer q |>.1, r), (e.answer q).2)
  let ((a, registry), environment) := ((x s.registry).run answer).run s.environment
  (a, { s with registry, environment })

/-- Notes a consent file that is of no use. -/
def logConsentFile (path : Path) (file : ConsentFile) (s : Session) : Session :=
  match file with
  | .missing => s
  | .directory =>
    s.log .warn (moduleTarget "consent") "cannot read consent file, starting empty"
      [("path", path.text), ("error", "Is a directory (os error 21)")]
  | .bytes content =>
    match ConsentStore.decode? content with
    | some records =>
      s.log .debug (moduleTarget "consent") "consent records loaded"
        [("path", path.text), ("identities", toString records.entries.length)]
    | none =>
      s.log .warn (moduleTarget "consent") "corrupt consent file, starting empty"
        [("path", path.text), ("error", "no consent records")]

/-- Notes whether there is an enhancement module. -/
def logEnhancement : Except Refusal UInt64 → Session → Session
  | .ok handle => log .info lifeTarget "enhance module present" [("handle", toString handle)]
  | .error _ => log .info lifeTarget "running without enhance module" []

/-- Arms the idle exit. -/
def armIdleExit (s : Session) : Session :=
  let s := { s with registry := s.registry.armIdleExit s.settings }
  match s.registry.timers.deadlineOf idleKey with
  | some deadline =>
    s.log .debug (moduleTarget "registry") "idle exit armed" [("deadline_ms", toString deadline)]
  | none => s

/-- A session that has just started. -/
def start (c : Config) (consentFile : ConsentFile) (now : UInt64) : Session :=
  let settings := Settings.ofConfig c none false
  let s : Session :=
    { settings
      registry := .start now (.ofFile consentFile) (some .empty)
      environment := .ofConfig c
      lines := [] }
  let s := s.log .info lifeTarget "starting scmgr-daemon" [("version", "\"" ++ programVersion ++ "\"")]
  let s := s.logConsentFile c.consent.file consentFile
  let (handle, s) := s.perform (Service.enhanceObject settings).run
  let s := (s.logEnhancement handle).armIdleExit
  s.log .info lifeTarget "service ready"
    [("displays", toString c.displays.length), ("idle_exit_ms", toString c.timing.serviceExitDelay)]

/-- One timer goes off. -/
def fire (s : Session) (event : TimerEvent) : Session :=
  let s' := (s.perform (Registry.handleTimer event)).2
  if s'.registry.shuttingDown && !s.registry.shuttingDown then
    s'.log .info (moduleTarget "registry") "no components registered, service exiting" []
  else s'

/-- Notes that a timer has gone off. -/
def logFired (s : Session) (event : TimerEvent) : Session :=
  s.log .debug (moduleTarget "timer") "timer fired"
    [("key", event.key), ("event", "\"" ++ event.name ++ "\"")]

/-- A pass of the timer loop at the time `now`. -/
def wake (s : Session) (now : UInt64) : Session :=
  let (due, registry) := { s.registry with now }.takeDue
  due.foldl fire (due.foldl logFired { s with registry })

/-- How long to sleep after a pass. -/
def sleepLength (s : Session) : Nat := s.registry.timers.sleepLength s.registry.now

/-- Whether the idle exit has come. -/
def ended (s : Session) : Bool := s.registry.shuttingDown

/-- The session's end. -/
def close (s : Session) : Session :=
  let s := s.log .info lifeTarget "idle exit" []
  let s := s.log .debug (moduleTarget "timer") "timer driver stopped" []
  let s := match s.registry.metrics with
    | some m => s.log .debug lifeTarget "final metrics" [("metrics", m.text)]
    | none => s
  s.log .info lifeTarget "scmgr-daemon stopped" []

/-- A whole session, when nobody calls: it sleeps until the idle exit is due. -/
def untilIdle (c : Config) (consentFile : ConsentFile) (now : UInt64) : Session :=
  let s := start c consentFile now
  (s.wake ((s.registry.timers.deadlineOf idleKey).getD now)).close

end Session

end ClickGrant
