import Telemetry.Instrument.Histogram
import Telemetry.Instrument.Meter

/-!
# Timers

A timer is a meter of calls and a histogram of their durations in nanoseconds.
-/

namespace Telemetry

structure Timer where
  meter : Meter
  durations : Histogram

namespace Timer

def new (now : UInt64) : Timer := ⟨.new now, .new Histogram.defaultRoom⟩

def update (t : Timer) (now : UInt64) (d : Duration) : Timer :=
  ⟨t.meter.mark now 1, t.durations.update (Number.clamp d.nanos)⟩

def count (t : Timer) : UInt64 := t.meter.count

def sample (t : Timer) : Sample := t.durations.sample

def rates (t : Timer) (now : UInt64) : Rates × Timer :=
  let (rates, meter) := t.meter.rates now
  (rates, { t with meter })

end Timer

end Telemetry
