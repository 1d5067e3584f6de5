import Telemetry.Instrument.Counter
import Telemetry.Instrument.Gauge
import Telemetry.Instrument.Timer

/-!
# Instruments

The five kinds of instruments, and instruments of any kind.
-/

namespace Telemetry

inductive InstrumentKind where
  | counter | gauge | histogram | meter | timer
  deriving DecidableEq, Repr

def InstrumentKind.name : InstrumentKind → String
  | counter => "counter"
  | gauge => "gauge"
  | histogram => "histogram"
  | meter => "meter"
  | timer => "timer"

inductive Instrument where
  | counter (c : Counter)
  | gauge (g : Gauge)
  | histogram (h : Histogram)
  | meter (m : Meter)
  | timer (t : Timer)

def Instrument.kind : Instrument → InstrumentKind
  | counter _ => .counter
  | gauge _ => .gauge
  | histogram _ => .histogram
  | meter _ => .meter
  | timer _ => .timer

end Telemetry
