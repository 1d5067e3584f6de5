import Telemetry.Options.Check
import Telemetry.Report.Reporter

/-!
# The reporting service

A service reports its registry as its options say. Starting it makes the settings, opens the
transport, registers the instruments of the process itself and starts a reporter, in this order; the
first failure ends it.
-/

namespace Telemetry

namespace TransportError

/-- The texts of an error and of the errors behind it, the outermost first. -/
def causes (e : TransportError) : List String :=
  match e with
  | system reason => [e.message, reason]
  | request reason => [e.message, reason]
  | e => [e.message]

end TransportError

namespace OptionsError

/-- The texts of an error and of the errors behind it, the outermost first. -/
def causes (e : OptionsError) : List String :=
  match e with
  | transport why => e.message :: why.causes
  | file reason => [e.message, reason]
  | parse reason => [e.message, reason]
  | e => [e.message]

end OptionsError

/-- Why a service does not start. -/
inductive ServiceError where
  | settings (why : OptionsError)
  | transport (why : OptionsError)
  | uptime (why : RegistryError)
  | version (why : RegistryError)
  | cycle (why : ReporterError)
  /-- The reporter ended by itself. -/
  | period
  deriving DecidableEq, Repr

/-- What was attempted, and why it failed down to the first cause. -/
def ServiceError.message (e : ServiceError) : String :=
  ": ".intercalate <| match e with
    | settings why => "Invalid reporter configuration" :: why.causes
    | transport why => "Failed to set up transport" :: why.causes
    | uptime why => ["Failed to register uptime gauge", why.message]
    | version why => ["Failed to register version gauge", why.message]
    | cycle why => [why.message]
    | period => [(ReporterError.shutdown "the period has no length").message]

structure Service where
  options : Options
  registry : Registry

namespace Service

def version : String := "0.1.0"

/-- The seconds that the process has run for. No real time passes in a simulated one. -/
def uptimeGauge : Gauge := .constant (.ofUnsigned 0)

def versionGauge : Gauge := .constant (.text version)

def adapters (o : Options) : List Adapter :=
  if o.relativeCounters then [.relative] else []

/-- What starting needs to know of the machine: its engines, its name, its link, and what the server
answers. -/
structure Machine where
  engines : Engines
  hostname : String
  link : Link
  responses : List HttpResponse

/-- Registers the instruments of the process, with what is registered by then. -/
def registerOwn (r : Registry) : Except ServiceError Unit × Registry :=
  match r.registerGauge "reporter.uptime" uptimeGauge with
  | .error e => (.error (.uptime e), r)
  | .ok r =>
    match r.registerGauge "reporter.version" versionGauge with
    | .error e => (.error (.version e), r)
    | .ok r => (.ok (), r)

/-- Starts the service at a time of day. The registry is told also when it does not start. -/
def start (s : Service) (m : Machine) (startMillis : Int64) :
    Except ServiceError (Reporter NetworkOutlet) × Registry :=
  match s.options.settings m.engines m.hostname with
  | .error e => (.error (.settings e), s.registry)
  | .ok settings =>
    match s.options.outlet m.link m.responses with
    | .error e => (.error (.transport e), s.registry)
    | .ok outlet =>
      match registerOwn s.registry with
      | (.error e, registry) => (.error e, registry)
      | (.ok _, registry) =>
        match Cycle.new settings (adapters s.options) outlet.transport outlet with
        | .error e => (.error (.cycle e), registry)
        | .ok cycle =>
          let delays := outlet.transport.delays
          match Reporter.spawn delays cycle registry settings.period startMillis with
          | none => (.error .period, registry)
          | some r => (.ok r, registry)

end Service

/-- A service over time. -/
inductive ServiceRun where
  /-- It starts as soon as time passes. -/
  | ready (s : Service)
  | failed (why : ServiceError) (registry : Registry)
  | running (r : Reporter NetworkOutlet)

namespace ServiceRun

/-- Lets time pass. -/
def sleep (run : ServiceRun) (m : Service.Machine) (startMillis : Int64) (d : Duration) :
    ServiceRun :=
  match run with
  | ready s =>
    if d.nanos = 0 then ready s
    else
      match s.start m startMillis with
      | (.error why, registry) => failed why registry
      | (.ok r, _) => running (r.sleep d)
  | failed why registry => failed why registry
  | running r => running (r.sleep d)

def registry : ServiceRun → Registry
  | ready s => s.registry
  | failed _ registry => registry
  | running r => r.registry

def finished : ServiceRun → Bool
  | ready _ => false
  | failed .. => true
  | running r => r.finished

/-- Takes away the datagrams that were sent since the last time. -/
def collectLines : ServiceRun → List String × ServiceRun
  | running r =>
    let ((accepted, _), next) := r.collect
    match r.cycle.sender.outlet with
    | .datagram _ => (accepted, running next)
    | .http _ => ([], running next)
  | run => ([], run)

/-- Ends the service as a signal does, after it has started. -/
def stop (run : ServiceRun) (m : Service.Machine) (startMillis : Int64) :
    Except ServiceError SenderStats :=
  match run with
  | ready s => (s.start m startMillis).1.map fun r => r.stop.cycle.sender.stats
  | failed why _ => .error why
  | running r => .ok r.stop.cycle.sender.stats

end ServiceRun

end Telemetry
