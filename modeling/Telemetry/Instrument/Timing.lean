import Telemetry.Instrument.Registry

/-!
# Timings

A timing runs from a tick of the clock and is recorded once in the timer that it was started on. If
that timer is no longer registered, the timing still ends but nobody can see what it recorded.
-/

namespace Telemetry

structure Timing where
  /-- The name of the timer. -/
  name : String
  /-- The registration of the timer. -/
  serial : Nat
  started : UInt64
  deriving DecidableEq, Repr

namespace Registry

/-- Adds a duration to a timer, which is made if the name is free. -/
def recordDuration (r : Registry) (name : String) (d : Duration) :
    Except RegistryError (Timer × Registry) :=
  let now := r.clock.tick
  r.use .timers name (.new now) (·.update now d)

/-- Starts a timing on a timer, which is made if the name is free. -/
def startTiming (r : Registry) (name : String) : Except RegistryError (Timing × Registry) :=
  (r.obtain .timers name (.new r.clock.tick)).map fun (held, r) =>
    (⟨name, held.serial, r.clock.tick⟩, r)

/-- Ends a timing: the elapsed time, recorded if the timer is still registered. -/
def endTiming (r : Registry) (t : Timing) : Duration × Registry :=
  let now := r.clock.tick
  let elapsed : Duration := ⟨(Clock.since now t.started).toNat⟩
  let registry :=
    match r.shelves.timers.get? t.name with
    | some held => r.putBack t.name t.serial (.timer (held.instrument.update now elapsed))
    | none => r
  (elapsed, registry)

/-- Times something that lasts as long as `d`. -/
def timeFor (r : Registry) (name : String) (d : Duration) : Except RegistryError Registry :=
  (r.startTiming name).map fun (t, r) => ((r.advance d).endTiming t).2

end Registry

end Telemetry
