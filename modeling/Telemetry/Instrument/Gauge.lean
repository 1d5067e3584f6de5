import Telemetry.Number.Word

/-!
# Gauges

A gauge is read on demand. What it will answer is a sequence of readings, the last of which it
repeats for ever, and a reading may be an error.
-/

namespace Telemetry

inductive GaugeValue where
  | integer (v : Int64)
  | float (v : Float)
  | boolean (v : Bool)
  | text (v : String)
  /-- Nothing to report at the moment. -/
  | null

/-- An unsigned number above the signed range becomes the largest integer. -/
def GaugeValue.ofUnsigned (n : UInt64) : GaugeValue :=
  integer (Number.clampCount n)

structure GaugeError where
  reason : String
  deriving DecidableEq, Repr

def GaugeError.message (e : GaugeError) : String :=
  "gauge read failed: " ++ e.reason

abbrev GaugeReading := Except GaugeError GaugeValue

structure Gauge where
  current : GaugeReading
  upcoming : List GaugeReading

namespace Gauge

def constant (v : GaugeValue) : Gauge := ⟨.ok v, []⟩

/-- One reading, and the gauge that gives the next one. -/
def read (g : Gauge) : GaugeReading × Gauge :=
  match g.upcoming with
  | [] => (g.current, g)
  | r :: rs => (g.current, ⟨r, rs⟩)

end Gauge

end Telemetry
