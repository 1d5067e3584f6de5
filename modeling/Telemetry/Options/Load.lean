import Telemetry.Options.Check

/-!
# Loading options

The command line comes before the environment, the environment before the file that either of them
names, and the file before the defaults. Only the options that come out are checked.
-/

namespace Telemetry.Options

/-- Reads the options of a file; `content` is its text, or why it cannot be read. Options that the
file leaves out have their defaults. -/
def readFile (e : Engines) (content : Except String String) : Except OptionsError Options :=
  match content with
  | .error reason => .error (.file reason)
  | .ok s =>
    match e.file s with
    | .ok g => .ok { g.complete with configFile := none }
    | .error reason => .error (.parse reason)

/-- Reads the command line and the environment. -/
def readArguments (e : Engines) (words : List String) (environment : String → Option String) :
    Except OptionsError Matches :=
  (e.arguments words environment).mapError .arguments

/-- Takes the options of a file where nothing else was given. The file does not name itself. -/
def fill (o file : Options) (given : OptionName → Bool) : Options where
  protocol := if given .protocol then o.protocol else file.protocol
  url := if given .url then o.url else file.url
  database := if given .database then o.database else file.database
  username := if given .username then o.username else file.username
  password := if given .password then o.password else file.password
  udpAddress := if given .udpAddress then o.udpAddress else file.udpAddress
  periodSeconds := if given .periodSeconds then o.periodSeconds else file.periodSeconds
  queueCapacity := if given .queueCapacity then o.queueCapacity else file.queueCapacity
  lead := if given .lead then o.lead else file.lead
  tags := if given .tags then o.tags else file.tags
  tagHost := if given .tagHost then o.tagHost else file.tagHost
  skipIdle := if given .skipIdle then o.skipIdle else file.skipIdle
  relativeCounters := if given .relativeCounters then o.relativeCounters else file.relativeCounters
  rateUnit := if given .rateUnit then o.rateUnit else file.rateUnit
  durationUnit := if given .durationUnit then o.durationUnit else file.durationUnit
  failurePolicy := if given .failurePolicy then o.failurePolicy else file.failurePolicy
  nameScheme := if given .nameScheme then o.nameScheme else file.nameScheme
  filter := if given .filter then o.filter else file.filter
  logLevel := if given .logLevel then o.logLevel else file.logLevel
  logFormat := if given .logFormat then o.logFormat else file.logFormat
  connectTimeoutSeconds :=
    if given .connectTimeoutSeconds then o.connectTimeoutSeconds else file.connectTimeoutSeconds
  requestTimeoutSeconds :=
    if given .requestTimeoutSeconds then o.requestTimeoutSeconds else file.requestTimeoutSeconds
  configFile := o.configFile

/-- The options of all sources, not yet checked. -/
def merge (e : Engines) (words : List String) (environment : String → Option String)
    (files : String → Except String String) : Except OptionsError Options := do
  let m ← readArguments e words environment
  match m.options.configFile with
  | none => pure m.options
  | some path => pure (m.options.fill (← readFile e (files path)) m.explicit)

/-- The options that a program starts with. -/
def load (e : Engines) (words : List String) (environment : String → Option String)
    (files : String → Except String String) : Except OptionsError Options := do
  let o ← merge e words environment files
  o.validate e
  pure o

/-- The options that a file alone gives. -/
def loadFile (e : Engines) (path : String) (content : Except String String) :
    Except OptionsError Options := do
  let o := { ← readFile e content with configFile := some path }
  o.validate e
  pure o

end Telemetry.Options
