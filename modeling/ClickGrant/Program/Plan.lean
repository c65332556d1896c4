import ClickGrant.Config.Document
import ClickGrant.Program.CommandLine

/-!
# Plans

What an invocation comes down to: a text to print, or a configuration to serve under. The settings
of the command line go before those of the configuration file, and they are not checked.
-/
set_option autoImplicit false

namespace ClickGrant

/-- Why a run fails. -/
inductive RunFailure where
  | usage (e : UsageError)
  /-- The configuration file cannot be read. -/
  | noConfig (path : String)
  | badConfig (path : String) (e : ConfigError)
  /-- The configuration has no written form. -/
  | unwritable
  /-- The log filter has a part that splits a character. -/
  | brokenFilter
  /-- The log file cannot be opened. -/
  | noLog

namespace RunFailure

/-- The exit status. -/
def status : RunFailure → Nat
  | .usage _ => 2
  | .brokenFilter => 101
  | _ => 1

/-- The wording for a configuration that is none. -/
def configCause : ConfigError → String
  | .malformed => "failed to parse config"
  | .refused fault => fault.message

/-- A failed step with its cause. -/
def report (step cause : String) : String := "Error: " ++ step ++ "\n\nCaused by:\n    " ++ cause ++ "\n"

/-- What the program says. -/
def message : RunFailure → String
  | .usage e => e.message
  | .noConfig path => report ("failed to load config " ++ path) "failed to read config"
  | .badConfig path e => report ("failed to load config " ++ path) (configCause e)
  | .unwritable => report "failed to render config" "failed to serialize config"
  | .brokenFilter => "the log filter splits a character\n"
  | .noLog => "Error: failed to open log file\n"

end RunFailure

/-- What an invocation comes down to. -/
inductive Plan where
  | print (text : String)
  | serve (c : Config)

namespace Options

/-- The configuration with the settings of the command line. -/
def apply (o : Options) (c : Config) : Config :=
  { c with
    logging :=
      { level := o.logLevel.getD c.logging.level, file := o.logFile.map Path.mk <|> c.logging.file }
    consent := { c.consent with file := (o.consentFile.map Path.mk).getD c.consent.file } }

/-- The configuration of a file with this content, or the standard one if no file is named. -/
def fileConfig (o : Options) (content : Option String) : Except RunFailure Config :=
  match o.config, content with
  | none, _ => .ok .standard
  | some path, none => .error (.noConfig path)
  | some path, some text => (Config.ofToml text).mapError (.badConfig path)

/-- The plan of a run. -/
def plan (o : Options) (content : Option String) : Except RunFailure Plan := do
  let c := o.apply (← o.fileConfig content)
  if o.checkConfig then
    match c.toToml? with
    | some text => return .print text
    | none => throw .unwritable
  else return .serve c

end Options

namespace Command

/-- The configuration file that is named. -/
def configFile : Command → Option String
  | .run o => o.config
  | _ => none

/-- The plan for what is asked; `content` is what the named file holds, if it can be read. -/
def plan (content : Option String) : Command → Except RunFailure Plan
  | .help => .ok (.print helpText)
  | .version => .ok (.print versionText)
  | .run o => o.plan content

end Command

end ClickGrant
