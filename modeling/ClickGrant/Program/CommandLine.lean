/-!
# Command line

Four settings that take a value, a switch, and the two words that ask about the program. A value
follows its setting as the next argument or after an equals sign, and for the one-letter form also
directly. Nothing may be given twice, there is nothing but options, and a path may not be empty.
Arguments are read from left to right, so a request for help counts only if nothing is wrong
before it.

Which command lines are refused is defined here, and no property of it is proved.
-/
set_option autoImplicit false

namespace ClickGrant

/-- A setting that takes a value. -/
inductive Setting where
  | config | logLevel | logFile | consentFile
  deriving DecidableEq, Repr

namespace Setting

/-- All settings, in the order the help lists them. -/
def all : List Setting := [.config, .logLevel, .logFile, .consentFile]

def name : Setting → String
  | .config => "config"
  | .logLevel => "log-level"
  | .logFile => "log-file"
  | .consentFile => "consent-file"

/-- The setting with its value, as usage texts show it. -/
def shown : Setting → String
  | .config => "--config <CONFIG>"
  | .logLevel => "--log-level <LOG_LEVEL>"
  | .logFile => "--log-file <LOG_FILE>"
  | .consentFile => "--consent-file <CONSENT_FILE>"

def help : Setting → String
  | .config => "Path to the TOML configuration file"
  | .logLevel => "Log level filter (overrides `daemon.log_level`)"
  | .logFile => "Log file (overrides `daemon.log_file`; stdout if neither is set)"
  | .consentFile => "Consent record file (overrides `consent.file`)"

/-- Whether the value is a path. -/
def isPath (s : Setting) : Bool := s ≠ .logLevel

end Setting

/-- What an invocation sets. -/
structure Options where
  config : Option String
  logLevel : Option String
  logFile : Option String
  consentFile : Option String
  /-- Print the configuration instead of serving. -/
  checkConfig : Bool
  deriving DecidableEq, Repr

/-- Nothing is set. -/
def Options.unset : Options :=
  { config := none, logLevel := none, logFile := none, consentFile := none, checkConfig := false }

/-- Why an invocation is refused. -/
inductive UsageError where
  | unexpected (argument : String)
  | valueMissing (setting : Setting)
  | repeated (shown : String)
  | valueUnneeded (option value : String)
  deriving DecidableEq, Repr

/-- What an invocation asks for. -/
inductive Command where
  | help
  | version
  | run (options : Options)
  deriving DecidableEq, Repr

/-- An argument by its form. -/
inductive Argument where
  | help
  | version
  | checkConfig
  /-- A setting, with its value if that is part of the argument. -/
  | setting (s : Setting) (value : Option String)
  /-- An option that takes no value, with one. -/
  | overfull (option value : String)
  /-- Options end here. -/
  | separator
  /-- Not an option. -/
  | word
  /-- An option that does not exist. -/
  | unknown (option : String)
  deriving DecidableEq, Repr

namespace Argument

/-- An option without a value. -/
def bare (option : String) (value : Option String) (a : Argument) : Argument :=
  match value with
  | none => a
  | some v => .overfull option v

/-- An option by its long name. -/
def ofLongName (name : String) (value : Option String) : Argument :=
  match Setting.all.find? (·.name = name) with
  | some s => .setting s value
  | none =>
    if name = "check-config" then bare "--check-config" value .checkConfig
    else if name = "help" then bare "--help" value .help
    else if name = "version" then bare "--version" value .version
    else .unknown ("--" ++ name)

/-- What follows the first equals sign, if there is one. -/
def afterEquals : List Char → Option String
  | [] => none
  | c :: rest => if c = '=' then some (String.ofList rest) else afterEquals rest

/-- The value written directly behind a letter. -/
def attached : List Char → Option String
  | [] => none
  | '=' :: rest => some (String.ofList rest)
  | rest => some (String.ofList rest)

/-- An option by its letter. The letters that ask about the program take effect at once, so what
follows them is never looked at. -/
def ofLetter (letter : Char) (rest : List Char) : Argument :=
  if letter = 'c' then .setting .config (attached rest)
  else if letter = 'h' then .help
  else if letter = 'V' then .version
  else .unknown (String.ofList ['-', letter])

/-- The form of an argument. -/
def ofChars : List Char → Argument
  | ['-', '-'] => .separator
  | '-' :: '-' :: rest => ofLongName (String.ofList (rest.takeWhile (· ≠ '='))) (afterEquals rest)
  | '-' :: letter :: rest => ofLetter letter rest
  | _ => .word

end Argument

namespace Options

/-- The value of a setting. -/
def get (o : Options) : Setting → Option String
  | .config => o.config
  | .logLevel => o.logLevel
  | .logFile => o.logFile
  | .consentFile => o.consentFile

/-- Gives a setting its value, whatever it had. -/
def put (o : Options) (value : String) : Setting → Options
  | .config => { o with config := some value }
  | .logLevel => { o with logLevel := some value }
  | .logFile => { o with logFile := some value }
  | .consentFile => { o with consentFile := some value }

/-- Gives a setting the value it was given on the command line. -/
def take (o : Options) (s : Setting) (value : String) : Except UsageError Options :=
  if (o.get s).isSome then .error (.repeated s.shown)
  else if s.isPath && value.isEmpty then .error (.valueMissing s)
  else .ok (o.put value s)

/-- Turns the switch on. -/
def check (o : Options) : Except UsageError Options :=
  if o.checkConfig then .error (.repeated "--check-config") else .ok { o with checkConfig := true }

end Options

namespace Command

/-- Reads arguments, when those before have set `o`. -/
def readFrom (o : Options) : List String → Except UsageError Command
  | [] => .ok (.run o)
  | text :: rest =>
    match Argument.ofChars text.toList with
    | .help => .ok .help
    | .version => .ok .version
    | .checkConfig => do readFrom (← o.check) rest
    | .setting s (some value) => do readFrom (← o.take s value) rest
    | .setting s none =>
      match rest with
      | [] => .error (.valueMissing s)
      | value :: rest =>
        match Argument.ofChars value.toList with
        | .word => do readFrom (← o.take s value) rest
        | .unknown option => .error (.unexpected option)
        | .overfull option value => .error (.valueUnneeded option value)
        | _ => .error (.valueMissing s)
    | .separator =>
      match rest with
      | [] => .ok (.run o)
      | argument :: _ => .error (.unexpected argument)
    | .overfull option value => .error (.valueUnneeded option value)
    | .word => .error (.unexpected text)
    | .unknown option => .error (.unexpected option)

/-- What the arguments ask for. -/
def ofArguments (arguments : List String) : Except UsageError Command := readFrom .unset arguments

end Command

/-- Name under which the program is called. -/
def programName : String := "scmgr-daemon"

def programVersion : String := "0.1.0"

def usageLine : String := "Usage: " ++ programName ++ " [OPTIONS]\n"

/-- The answer to a request for the version. -/
def versionText : String := programName ++ " " ++ programVersion ++ "\n"

/-- One entry of the help text. -/
def helpEntry (letter : Option Char) (option help : String) : String :=
  let start := match letter with
    | some c => String.ofList [' ', ' ', '-', c, ',', ' ']
    | none => "      "
  start ++ option ++ "\n          " ++ help ++ "\n"

/-- The answer to a request for help. -/
def helpText : String :=
  "Security component manager daemon: registry, permission grants and timers\n\n" ++ usageLine
    ++ "\nOptions:\n"
    ++ String.join (Setting.all.map fun s => helpEntry (if s = .config then some 'c' else none) s.shown s.help)
    ++ helpEntry none "--check-config" "Validate the configuration, print it and exit"
    ++ helpEntry (some 'h') "--help" "Print help"
    ++ helpEntry (some 'V') "--version" "Print version"

/-- The wording of a cause. -/
def UsageError.cause : UsageError → String
  | .unexpected argument => s!"unexpected argument '{argument}' found"
  | .valueMissing s => s!"a value is required for '{s.shown}' but none was supplied"
  | .repeated shown => s!"the argument '{shown}' cannot be used multiple times"
  | .valueUnneeded option value =>
    s!"unexpected value '{value}' for '{option}' found; no more were expected"

/-- What the program says about a refused invocation. -/
def UsageError.message (e : UsageError) : String :=
  let usage := match e with
    | .valueMissing _ => ""
    | _ => usageLine ++ "\n"
  "error: " ++ e.cause ++ "\n\n" ++ usage ++ "For more information, try '--help'.\n"

end ClickGrant
