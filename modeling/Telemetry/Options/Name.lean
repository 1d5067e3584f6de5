import Telemetry.Options.Basic
import Telemetry.Text.Cut
import Telemetry.Text.Decimal

/-!
# Names of options

Each option has a name on the command line, a variable in the environment and a key in files. On the
command line and in the environment its value is a text, and so is its default there.
-/

namespace Telemetry

inductive OptionName where
  | protocol | url | database | username | password | udpAddress | periodSeconds | queueCapacity
  | lead | tags | tagHost | skipIdle | relativeCounters | rateUnit | durationUnit | failurePolicy
  | nameScheme | filter | logLevel | logFormat | connectTimeoutSeconds | requestTimeoutSeconds
  | configFile
  deriving DecidableEq, Repr

/-- Why arguments are not accepted, or what they ask for instead. -/
inductive ArgumentError where
  | unknown
  /-- An option that may be given once is given twice. -/
  | conflict
  /-- A value is missing or is none of those that the option has. -/
  | invalidValue
  /-- A value has the wrong form. -/
  | malformedValue
  /-- A value is given to an option that takes none. -/
  | tooManyValues
  | help
  | version
  deriving DecidableEq, Repr

def ArgumentError.message : ArgumentError → String
  | unknown => "unexpected argument"
  | conflict => "an option cannot be used multiple times"
  | invalidValue => "a value is missing or is none of the possible values"
  | malformedValue => "a value is malformed"
  | tooManyValues => "an option takes no value"
  | help => "help is asked for"
  | version => "the version is asked for"

namespace OptionName

/-- In the order in which variables of the environment are read. -/
def all : List OptionName :=
  [protocol, url, database, username, password, udpAddress, periodSeconds, queueCapacity, lead,
    tags, tagHost, skipIdle, relativeCounters, rateUnit, durationUnit, failurePolicy, nameScheme,
    filter, logLevel, logFormat, connectTimeoutSeconds, requestTimeoutSeconds, configFile]

/-- The name after the dashes. -/
def argument : OptionName → String
  | protocol => "protocol"
  | url => "url"
  | database => "database"
  | username => "username"
  | password => "password"
  | udpAddress => "udp-address"
  | periodSeconds => "period-secs"
  | queueCapacity => "queue-capacity"
  | lead => "prefix"
  | tags => "tag"
  | tagHost => "tag-host"
  | skipIdle => "skip-idle"
  | relativeCounters => "relative-counters"
  | rateUnit => "rate-unit"
  | durationUnit => "duration-unit"
  | failurePolicy => "failure-policy"
  | nameScheme => "name-transformer"
  | filter => "filter-regex"
  | logLevel => "log-level"
  | logFormat => "log-format"
  | connectTimeoutSeconds => "connect-timeout-secs"
  | requestTimeoutSeconds => "request-timeout-secs"
  | configFile => "config-file"

def environment : OptionName → String
  | protocol => "INFLUX_PROTOCOL"
  | url => "INFLUX_URL"
  | database => "INFLUX_DATABASE"
  | username => "INFLUX_USERNAME"
  | password => "INFLUX_PASSWORD"
  | udpAddress => "INFLUX_UDP_ADDRESS"
  | periodSeconds => "INFLUX_PERIOD_SECS"
  | queueCapacity => "INFLUX_QUEUE_CAPACITY"
  | lead => "INFLUX_PREFIX"
  | tags => "INFLUX_TAGS"
  | tagHost => "INFLUX_TAG_HOST"
  | skipIdle => "INFLUX_SKIP_IDLE"
  | relativeCounters => "INFLUX_RELATIVE_COUNTERS"
  | rateUnit => "INFLUX_RATE_UNIT"
  | durationUnit => "INFLUX_DURATION_UNIT"
  | failurePolicy => "INFLUX_FAILURE_POLICY"
  | nameScheme => "INFLUX_NAME_TRANSFORMER"
  | filter => "INFLUX_FILTER"
  | logLevel => "LOG_LEVEL"
  | logFormat => "LOG_FORMAT"
  | connectTimeoutSeconds => "INFLUX_CONNECT_TIMEOUT_SECS"
  | requestTimeoutSeconds => "INFLUX_REQUEST_TIMEOUT_SECS"
  | configFile => "INFLUX_CONFIG_FILE"

/-- The option is given by its name alone. -/
def isFlag : OptionName → Bool
  | tagHost | skipIdle | relativeCounters => true
  | _ => false

/-- The text that the command line has for an option if none is given. -/
def defaultText? : OptionName → Option String
  | protocol => some "http"
  | url => some "http://localhost:8086"
  | database => some "metrics"
  | udpAddress => some "localhost:8089"
  | periodSeconds => some "10"
  | queueCapacity => some "5000"
  | tagHost | skipIdle | relativeCounters => some "false"
  | rateUnit => some "seconds"
  | durationUnit => some "milliseconds"
  | failurePolicy => some "abort-cycle"
  | nameScheme => some "identity"
  | logLevel => some "info"
  | logFormat => some "compact"
  | connectTimeoutSeconds => some "5"
  | requestTimeoutSeconds => some "10"
  | username | password | lead | tags | filter | configFile => none

def ofArgument? (s : String) : Option OptionName :=
  all.find? fun o => o.argument = s

/-- What an option is set to. -/
@[reducible] def Value : OptionName → Type
  | protocol => Protocol
  | url | database | username | password | udpAddress | lead | nameScheme | filter | configFile =>
    String
  | periodSeconds | queueCapacity | connectTimeoutSeconds | requestTimeoutSeconds => Nat
  | tags => List String
  | tagHost | skipIdle | relativeCounters => Bool
  | rateUnit | durationUnit => TimeUnit
  | failurePolicy => FailurePolicy
  | logLevel => LogLevel
  | logFormat => LogFormat

/-- A value that is one of a few names. -/
def chosen {α : Type} (ofName? : String → Option α) (s : String) : Except ArgumentError α :=
  match ofName? s with
  | some a => .ok a
  | none => .error .invalidValue

def number (s : String) : Except ArgumentError Nat :=
  match Text.readNat? (UInt64.size - 1) s with
  | some n => .ok n
  | none => .error .malformedValue

def switch (s : String) : Except ArgumentError Bool :=
  chosen (fun s => if s = "true" then some true else if s = "false" then some false else none) s

def path (s : String) : Except ArgumentError String :=
  if s.isEmpty then .error .invalidValue else .ok s

/-- Reads the text of a value. Tags are split at commas. -/
def read : (o : OptionName) → String → Except ArgumentError o.Value
  | protocol, s => chosen Protocol.ofName? s
  | url, s => .ok s
  | database, s => .ok s
  | username, s => .ok s
  | password, s => .ok s
  | udpAddress, s => .ok s
  | periodSeconds, s => number s
  | queueCapacity, s => number s
  | lead, s => .ok s
  | tags, s => .ok (Text.cut ',' s)
  | tagHost, s => switch s
  | skipIdle, s => switch s
  | relativeCounters, s => switch s
  | rateUnit, s => chosen TimeUnit.ofName? s
  | durationUnit, s => chosen TimeUnit.ofName? s
  | failurePolicy, s => chosen FailurePolicy.ofName? s
  | nameScheme, s => .ok s
  | filter, s => .ok s
  | logLevel, s => chosen LogLevel.ofName? s
  | logFormat, s => chosen LogFormat.ofName? s
  | connectTimeoutSeconds, s => number s
  | requestTimeoutSeconds, s => number s
  | configFile, s => path s

/-- Tags are added to those given before. Any other value takes the place of an earlier one. -/
def joined : (o : OptionName) → Option o.Value → o.Value → o.Value
  | tags, earlier, v => earlier.getD [] ++ v
  | _, _, v => v

end OptionName

namespace Given

/-- What an option is set to, if it is given. -/
def get? (g : Given) : (o : OptionName) → Option o.Value
  | .protocol => g.protocol
  | .url => g.url
  | .database => g.database
  | .username => g.username
  | .password => g.password
  | .udpAddress => g.udpAddress
  | .periodSeconds => g.periodSeconds
  | .queueCapacity => g.queueCapacity
  | .lead => g.lead
  | .tags => g.tags
  | .tagHost => g.tagHost
  | .skipIdle => g.skipIdle
  | .relativeCounters => g.relativeCounters
  | .rateUnit => g.rateUnit
  | .durationUnit => g.durationUnit
  | .failurePolicy => g.failurePolicy
  | .nameScheme => g.nameScheme
  | .filter => g.filter
  | .logLevel => g.logLevel
  | .logFormat => g.logFormat
  | .connectTimeoutSeconds => g.connectTimeoutSeconds
  | .requestTimeoutSeconds => g.requestTimeoutSeconds
  | .configFile => g.configFile

def set (g : Given) : (o : OptionName) → o.Value → Given
  | .protocol, v => { g with protocol := some v }
  | .url, v => { g with url := some v }
  | .database, v => { g with database := some v }
  | .username, v => { g with username := some v }
  | .password, v => { g with password := some v }
  | .udpAddress, v => { g with udpAddress := some v }
  | .periodSeconds, v => { g with periodSeconds := some v }
  | .queueCapacity, v => { g with queueCapacity := some v }
  | .lead, v => { g with lead := some v }
  | .tags, v => { g with tags := some v }
  | .tagHost, v => { g with tagHost := some v }
  | .skipIdle, v => { g with skipIdle := some v }
  | .relativeCounters, v => { g with relativeCounters := some v }
  | .rateUnit, v => { g with rateUnit := some v }
  | .durationUnit, v => { g with durationUnit := some v }
  | .failurePolicy, v => { g with failurePolicy := some v }
  | .nameScheme, v => { g with nameScheme := some v }
  | .filter, v => { g with filter := some v }
  | .logLevel, v => { g with logLevel := some v }
  | .logFormat, v => { g with logFormat := some v }
  | .connectTimeoutSeconds, v => { g with connectTimeoutSeconds := some v }
  | .requestTimeoutSeconds, v => { g with requestTimeoutSeconds := some v }
  | .configFile, v => { g with configFile := some v }

/-- The option is among those that are given. -/
def has (g : Given) (o : OptionName) : Bool := (g.get? o).isSome

/-- Gives an option the value that a text stands for. -/
def put (g : Given) (o : OptionName) (s : String) : Except ArgumentError Given := do
  let v ← o.read s
  pure (g.set o (o.joined (g.get? o) v))

/-- Adds the value of a text to an option, if there is a text and the option is not given yet. -/
def addText (texts : OptionName → Option String) (g : Given) (o : OptionName) :
    Except ArgumentError Given :=
  match texts o with
  | some s => if g.has o then .ok g else g.put o s
  | none => .ok g

def addTexts (texts : OptionName → Option String) (g : Given) : Except ArgumentError Given :=
  OptionName.all.foldlM (addText texts) g

@[simp] theorem get?_set_self (g : Given) (o : OptionName) (v : o.Value) :
    (g.set o v).get? o = some v := by
  cases o <;> rfl

theorem get?_set_of_ne (g : Given) {o q : OptionName} (h : q ≠ o) (v : o.Value) :
    (g.set o v).get? q = g.get? q := by
  cases o <;> cases q <;> first | rfl | exact absurd rfl h

end Given

end Telemetry
