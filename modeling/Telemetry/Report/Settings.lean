import Telemetry.Instrument.Filter
import Telemetry.Queue
import Telemetry.Transform

/-!
# Settings of a reporter

Settings are drafted with defaults and checked once. The checks go in a fixed order and the first
one that fails is the error.
-/

namespace Telemetry

/-- What happens when an instrument cannot be reported. -/
inductive FailurePolicy where
  /-- Nothing of the cycle is sent. -/
  | abortCycle
  /-- Only the instrument is left out. -/
  | skipInstrument
  deriving DecidableEq, Repr, Inhabited

namespace FailurePolicy

def all : List FailurePolicy := [abortCycle, skipInstrument]

def name : FailurePolicy → String
  | abortCycle => "abort-cycle"
  | skipInstrument => "skip-instrument"

def ofName? (s : String) : Option FailurePolicy :=
  all.find? fun p => p.name = s

end FailurePolicy

/-- Errors of the reporter as a whole. -/
inductive ReporterError where
  | config (reason : String)
  | registry (reason : String)
  | transform (reason : String)
  | buffer (reason : String)
  | transport (reason : String)
  | shutdown (reason : String)
  deriving DecidableEq, Repr

def ReporterError.message : ReporterError → String
  | config reason => "Configuration error: " ++ reason
  | registry reason => "Registry error: " ++ reason
  | transform reason => "Transform error: " ++ reason
  | buffer reason => "Buffer error: " ++ reason
  | transport reason => "Transport error: " ++ reason
  | shutdown reason => "Shutdown error: " ++ reason

structure Settings where
  period : Duration
  queueCapacity : Nat
  /-- Put in front of every metric name. -/
  lead : Option String
  tags : Dict String
  skipIdle : Bool
  rateUnit : TimeUnit
  durationUnit : TimeUnit
  failurePolicy : FailurePolicy
  scheme : NameScheme
  filter : MetricFilter

/-- The queue capacity unless another one is asked for. -/
def defaultCapacity : Nat := 5000

namespace Settings

def default : Settings where
  period := .ofSeconds 10
  queueCapacity := defaultCapacity
  lead := none
  tags := .empty
  skipIdle := false
  rateUnit := .seconds
  durationUnit := .milliseconds
  failurePolicy := .abortCycle
  scheme := .identity
  filter := .all

/-- What is wrong with the tags, in the order of their keys. -/
def tagFault : List (String × String) → Option String
  | [] => none
  | (key, value) :: rest =>
    if Text.blank key then some s!"Tag keys must not be empty (value '{value}')"
    else if Text.blank value then some s!"Tag '{key}' must have a non-empty value"
    else tagFault rest

def schemeFault : NameScheme → Option String
  | .categories names =>
    if names.any Text.blank then some "Name categories must not be empty" else none
  | _ => none

/-- The first fault of the settings. -/
def fault (s : Settings) : Option String :=
  if s.period.nanos = 0 then some "Report period must be greater than 0"
  else if s.queueCapacity = 0 then some "Queue capacity must be greater than 0"
  else (tagFault s.tags.entries).or (schemeFault s.scheme)

/-- The settings, if they have no fault. -/
def build (s : Settings) : Except ReporterError Settings :=
  match s.fault with
  | some reason => .error (.config reason)
  | none => .ok s

def naming (s : Settings) : Naming := .new s.lead s.tags s.scheme

def context (s : Settings) : Context :=
  .new s.rateUnit s.durationUnit s.skipIdle s.naming

end Settings

end Telemetry
