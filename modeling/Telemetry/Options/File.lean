import Telemetry.Options.Basic
import Telemetry.Toml.Parser

/-!
# Files of options

A file gives options under their keys. Keys that are no option do not count, but each option must
have a value of its kind. A name that stands for a choice may also be the only key of a table that
holds nothing.
-/

namespace Telemetry.Given

/-- A value under a key, if the key is there; nothing at all if the value has the wrong kind. -/
def valueAt {α : Type} (read : Toml → Option α) (es : Toml.Entries) (key : String) :
    Option (Option α) :=
  match es.get? key with
  | none => some none
  | some v => (read v).map some

def textOf? : Toml → Option String
  | .text s => some s
  | _ => none

def naturalOf? : Toml → Option Nat
  | .whole i => if 0 ≤ i then some i.toNat else none
  | _ => none

def switchOf? : Toml → Option Bool
  | .flag b => some b
  | _ => none

def textsOf? : Toml → Option (List String)
  | .list _ items => items.mapM textOf?
  | _ => none

/-- Nothing stands in the value. -/
def isVoid : Toml → Bool
  | .list _ [] | .table _ [] => true
  | _ => false

def choiceOf? {α : Type} (ofName? : String → Option α) : Toml → Option α
  | .text s => ofName? s
  | .table _ [(name, v)] => if isVoid v then ofName? name else none
  | _ => none

/-- What the entries of a document give. -/
def ofEntries? (es : Toml.Entries) : Option Given := do
  pure {
    protocol := ← valueAt (choiceOf? Protocol.ofName?) es "protocol"
    url := ← valueAt textOf? es "url"
    database := ← valueAt textOf? es "database"
    username := ← valueAt textOf? es "username"
    password := ← valueAt textOf? es "password"
    udpAddress := ← valueAt textOf? es "udp_address"
    periodSeconds := ← valueAt naturalOf? es "period_secs"
    queueCapacity := ← valueAt naturalOf? es "queue_capacity"
    lead := ← valueAt textOf? es "prefix"
    tags := ← valueAt textsOf? es "tags"
    tagHost := ← valueAt switchOf? es "tag_host"
    skipIdle := ← valueAt switchOf? es "skip_idle"
    relativeCounters := ← valueAt switchOf? es "relative_counters"
    rateUnit := ← valueAt (choiceOf? TimeUnit.ofName?) es "rate_unit"
    durationUnit := ← valueAt (choiceOf? TimeUnit.ofName?) es "duration_unit"
    failurePolicy := ← valueAt (choiceOf? FailurePolicy.ofName?) es "failure_policy"
    nameScheme := ← valueAt textOf? es "name_transformer"
    filter := ← valueAt textOf? es "filter_regex"
    logLevel := ← valueAt (choiceOf? LogLevel.ofName?) es "log_level"
    logFormat := ← valueAt (choiceOf? LogFormat.ofName?) es "log_format"
    connectTimeoutSeconds := ← valueAt naturalOf? es "connect_timeout_secs"
    requestTimeoutSeconds := ← valueAt naturalOf? es "request_timeout_secs"
    configFile := none }

/-- What the text of a file gives. -/
def ofFile? (content : String) : Option Given :=
  (Toml.parse? content).bind ofEntries?

end Telemetry.Given
