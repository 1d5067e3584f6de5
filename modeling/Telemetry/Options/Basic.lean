import Telemetry.Log.Level
import Telemetry.Report.Settings
import Telemetry.Transport.Http

/-!
# Options of the program

The options that a reporting process is started with, and what a source of options gives: some of
them, or all. A source that comes first is completed by the next, option by option, and at last by
the defaults.
-/

namespace Telemetry

/-- How records reach the server. -/
inductive Protocol where
  /-- One request for every flush. -/
  | http
  /-- One datagram for every record. -/
  | udp
  deriving DecidableEq, Repr, Inhabited

namespace Protocol

def all : List Protocol := [http, udp]

def name : Protocol → String
  | http => "http"
  | udp => "udp"

def ofName? (s : String) : Option Protocol :=
  all.find? fun p => p.name = s

end Protocol

/-- The form of the lines in the log. -/
inductive LogFormat where
  | compact
  | json
  deriving DecidableEq, Repr, Inhabited

namespace LogFormat

def all : List LogFormat := [compact, json]

def name : LogFormat → String
  | compact => "compact"
  | json => "json"

def ofName? (s : String) : Option LogFormat :=
  all.find? fun f => f.name = s

end LogFormat

structure Options where
  protocol : Protocol
  url : String
  database : String
  username : Option String
  password : Option String
  udpAddress : String
  periodSeconds : Nat
  queueCapacity : Nat
  /-- Put in front of every metric name. -/
  lead : Option String
  /-- Each a key and a value with an equals sign between them. -/
  tags : List String
  /-- Add a tag with the name of the machine. -/
  tagHost : Bool
  skipIdle : Bool
  relativeCounters : Bool
  rateUnit : TimeUnit
  durationUnit : TimeUnit
  failurePolicy : FailurePolicy
  nameScheme : String
  filter : Option String
  logLevel : LogLevel
  logFormat : LogFormat
  connectTimeoutSeconds : Nat
  requestTimeoutSeconds : Nat
  /-- The file that options were read from. -/
  configFile : Option String
  deriving DecidableEq, Repr

def Options.default : Options where
  protocol := .http
  url := HttpSettings.default.url
  database := HttpSettings.default.database
  username := none
  password := none
  udpAddress := "localhost:8089"
  periodSeconds := 10
  queueCapacity := defaultCapacity
  lead := none
  tags := []
  tagHost := false
  skipIdle := false
  relativeCounters := false
  rateUnit := .seconds
  durationUnit := .milliseconds
  failurePolicy := .abortCycle
  nameScheme := "identity"
  filter := none
  logLevel := .info
  logFormat := .compact
  connectTimeoutSeconds := 5
  requestTimeoutSeconds := 10
  configFile := none

/-- The options that a source gives. -/
structure Given where
  protocol : Option Protocol
  url : Option String
  database : Option String
  username : Option String
  password : Option String
  udpAddress : Option String
  periodSeconds : Option Nat
  queueCapacity : Option Nat
  lead : Option String
  tags : Option (List String)
  tagHost : Option Bool
  skipIdle : Option Bool
  relativeCounters : Option Bool
  rateUnit : Option TimeUnit
  durationUnit : Option TimeUnit
  failurePolicy : Option FailurePolicy
  nameScheme : Option String
  filter : Option String
  logLevel : Option LogLevel
  logFormat : Option LogFormat
  connectTimeoutSeconds : Option Nat
  requestTimeoutSeconds : Option Nat
  configFile : Option String
  deriving DecidableEq, Repr

namespace Given

def nothing : Given :=
  ⟨none, none, none, none, none, none, none, none, none, none, none, none, none, none, none, none,
    none, none, none, none, none, none, none⟩

/-- What is given, and the defaults of the other options. -/
def complete (g : Given) : Options where
  protocol := g.protocol.getD Options.default.protocol
  url := g.url.getD Options.default.url
  database := g.database.getD Options.default.database
  username := g.username.or Options.default.username
  password := g.password.or Options.default.password
  udpAddress := g.udpAddress.getD Options.default.udpAddress
  periodSeconds := g.periodSeconds.getD Options.default.periodSeconds
  queueCapacity := g.queueCapacity.getD Options.default.queueCapacity
  lead := g.lead.or Options.default.lead
  tags := g.tags.getD Options.default.tags
  tagHost := g.tagHost.getD Options.default.tagHost
  skipIdle := g.skipIdle.getD Options.default.skipIdle
  relativeCounters := g.relativeCounters.getD Options.default.relativeCounters
  rateUnit := g.rateUnit.getD Options.default.rateUnit
  durationUnit := g.durationUnit.getD Options.default.durationUnit
  failurePolicy := g.failurePolicy.getD Options.default.failurePolicy
  nameScheme := g.nameScheme.getD Options.default.nameScheme
  filter := g.filter.or Options.default.filter
  logLevel := g.logLevel.getD Options.default.logLevel
  logFormat := g.logFormat.getD Options.default.logFormat
  connectTimeoutSeconds := g.connectTimeoutSeconds.getD Options.default.connectTimeoutSeconds
  requestTimeoutSeconds := g.requestTimeoutSeconds.getD Options.default.requestTimeoutSeconds
  configFile := g.configFile.or Options.default.configFile

end Given

end Telemetry
