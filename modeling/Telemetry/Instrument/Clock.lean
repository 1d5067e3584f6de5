import Telemetry.TimeUnit

/-!
# Clocks

A clock has a tick in nanoseconds, of which only differences mean something, and the time of day in
milliseconds. Moving it forward adds all nanoseconds to the tick and the whole milliseconds to the
time of day; both wrap at the end of their range.
-/

namespace Telemetry

structure Clock where
  tick : UInt64
  millis : Int64
  deriving DecidableEq, Repr, Inhabited

namespace Clock

/-- A clock that shows this time of day and has not ticked. -/
def starting (millis : Int64) : Clock := ⟨0, millis⟩

def advance (c : Clock) (d : Duration) : Clock :=
  ⟨c.tick + d.nanos.toUInt64, c.millis + Int64.ofNat d.millis⟩

/-- The ticks since an earlier one, and zero if that one is not earlier. -/
def since (now earlier : UInt64) : UInt64 :=
  if earlier ≤ now then now - earlier else 0

end Clock

end Telemetry
