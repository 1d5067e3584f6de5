import Telemetry.Report.Settings
import Telemetry.Sender

/-!
# Report cycles

A cycle reads every accepted instrument once, in the order of the kinds and by ascending name, under
one timestamp. The records are offered to the sender together and flushed once. When an instrument
cannot be reported, the policy decides whether the cycle is given up or goes on without it. What is
remembered for instruments that are gone is dropped after every cycle.
-/

namespace Telemetry

open Number (WordArithmetic Overflow)

structure CycleReport where
  timestamp : Int64
  instruments : Nat
  produced : Nat
  /-- Instruments with nothing to report. -/
  skipped : Nat
  failed : Nat
  aborted : Bool
  /-- Nothing if the cycle was given up. -/
  flush : Option FlushOutcome
  deriving DecidableEq, Repr

structure Cycle (σ : Type) where
  context : Context
  tracking : Tracking
  sender : Sender σ
  policy : FailurePolicy
  filter : MetricFilter

/-- The state of a walk over the instruments. -/
structure Walk where
  registry : Registry
  tracking : Tracking
  records : List Record
  skipped : Nat
  failed : Nat
  aborted : Bool
  warnings : List Warning

/-- What an overflow leaves behind. -/
structure Crash where
  overflow : Overflow
  registry : Registry

namespace Walk

def start (registry : Registry) (tracking : Tracking) : Walk :=
  ⟨registry, tracking, [], 0, 0, false, []⟩

/-- Goes on with what a transform made of an instrument. -/
def note (policy : FailurePolicy) (w : Walk) (name : String) (reg : Registration)
    (t : Transformed) : Walk :=
  let w := { w with
    registry := w.registry.putBack name reg.serial t.instrument
    tracking := t.tracking
    warnings := w.warnings ++ t.warnings }
  match t.outcome with
  | .ok (some record) => { w with records := w.records ++ [record] }
  | .ok none => { w with skipped := w.skipped + 1 }
  | .error e =>
    match policy with
    | .abortCycle =>
      { w with
        failed := w.failed + 1
        aborted := true
        warnings := w.warnings ++ [.cycleSkipped name e.message] }
    | .skipInstrument =>
      { w with
        failed := w.failed + 1
        warnings := w.warnings ++ [.metricLeftOut name e.message] }

/-- Reports one instrument. -/
def visit (ctx : Context) (policy : FailurePolicy) (timestamp : Int64) (w : Walk)
    (name : String) (reg : Registration) : Walk :=
  w.note policy name reg
    (transform ctx w.tracking name w.registry.clock.tick timestamp reg.instrument)

/-- Reports one instrument as far as the arithmetic goes. -/
def visitIn (m : WordArithmetic) (ctx : Context) (policy : FailurePolicy) (timestamp : Int64)
    (w : Walk) (name : String) (reg : Registration) : Except Crash Walk :=
  match transformIn m ctx w.tracking name w.registry.clock.tick timestamp reg.instrument with
  | .error overflow => .error ⟨overflow, w.registry⟩
  | .ok t => .ok (w.note policy name reg t)

/-- Reports the instruments until the cycle is given up. -/
def visitAll (ctx : Context) (policy : FailurePolicy) (timestamp : Int64) (w : Walk) :
    List (String × Registration) → Walk
  | [] => w
  | (name, reg) :: rest =>
    let w := w.visit ctx policy timestamp name reg
    if w.aborted then w else w.visitAll ctx policy timestamp rest

/-- Reports the instruments until the cycle is given up, as far as the arithmetic goes. -/
def visitAllIn (m : WordArithmetic) (ctx : Context) (policy : FailurePolicy) (timestamp : Int64)
    (w : Walk) : List (String × Registration) → Except Crash Walk
  | [] => .ok w
  | (name, reg) :: rest =>
    match w.visitIn m ctx policy timestamp name reg with
    | .error crash => .error crash
    | .ok w => if w.aborted then .ok w else w.visitAllIn m ctx policy timestamp rest

end Walk

/-- A cycle between the walk and the flush. -/
structure Gathered (σ : Type) where
  cycle : Cycle σ
  registry : Registry
  /-- The report without the outcome of a flush. -/
  report : CycleReport
  warnings : List Warning

/-- All that one report did. -/
structure Reported (σ : Type) where
  cycle : Cycle σ
  registry : Registry
  report : CycleReport
  /-- The payloads that the transport accepted. -/
  accepted : List String
  warnings : List Warning

namespace Cycle

variable {σ : Type}

def new (settings : Settings) (adapters : List Adapter) (transport : Transport σ) (outlet : σ) :
    Except ReporterError (Cycle σ) :=
  match Sender.new transport outlet settings.queueCapacity with
  | .error e => .error (.buffer e.message)
  | .ok sender =>
    .ok ⟨settings.context, ⟨.empty, adapters⟩, sender, settings.failurePolicy, settings.filter⟩

/-- Offers the records of a walk over the selection, unless the cycle was given up, and drops what is
remembered for names that are not in it. -/
def conclude (c : Cycle σ) (timestamp : Int64) (selection : List (String × Registration))
    (w : Walk) : Gathered σ :=
  let live := selection.map (·.1)
  let produced := if w.aborted then [] else w.records
  { cycle :=
      { c with
        tracking := w.tracking.retain (live.contains ·)
        sender := c.sender.offerAll produced }
    registry := w.registry
    report := ⟨timestamp, selection.length, produced.length, w.skipped, w.failed, w.aborted, none⟩
    warnings := w.warnings }

/-- Walks over the registry and offers the records. -/
def gather (c : Cycle σ) (registry : Registry) (timestamp : Int64) : Gathered σ :=
  let selection := registry.selection c.filter
  c.conclude timestamp selection
    ((Walk.start registry c.tracking).visitAll c.context c.policy timestamp selection)

/-- Walks over the registry and offers the records, as far as the arithmetic goes. -/
def gatherIn (m : WordArithmetic) (c : Cycle σ) (registry : Registry) (timestamp : Int64) :
    Except Crash (Gathered σ) :=
  let selection := registry.selection c.filter
  ((Walk.start registry c.tracking).visitAllIn m c.context c.policy timestamp selection).map
    (c.conclude timestamp selection)

/-- Flushes the sender, unless the cycle was given up. -/
def send (g : Gathered σ) : Reported σ :=
  if g.report.aborted then ⟨g.cycle, g.registry, g.report, [], g.warnings⟩
  else
    let (sender, flushed) := g.cycle.sender.flush
    { cycle := { g.cycle with sender }
      registry := g.registry
      report := { g.report with flush := some flushed.outcome }
      accepted := flushed.accepted
      warnings := g.warnings ++ flushed.warnings }

/-- One full cycle. -/
def report (c : Cycle σ) (registry : Registry) (timestamp : Int64) : Reported σ :=
  send (c.gather registry timestamp)

/-- One full cycle, as far as the arithmetic goes. -/
def reportIn (m : WordArithmetic) (c : Cycle σ) (registry : Registry) (timestamp : Int64) :
    Except Crash (Reported σ) :=
  (c.gatherIn m registry timestamp).map send

def close (c : Cycle σ) : Nat × Cycle σ :=
  let (dropped, sender) := c.sender.close
  (dropped, { c with sender })

end Cycle

end Telemetry
