import Telemetry.Instrument.Timing

/-!
# Registries in use

A registry together with the timings under way, each under an identifier. A timing that is started
under an identifier in use ends the one that ran under it.
-/

namespace Telemetry

structure Bench where
  registry : Registry
  timings : List (String × Timing)

namespace Bench

def new (registry : Registry) : Bench := ⟨registry, []⟩

/-- Ends the timing with an identifier, if it runs. -/
def stop (b : Bench) (id : String) : Option Duration × Bench :=
  match b.timings.find? fun e => e.1 = id with
  | none => (none, b)
  | some (_, t) =>
    let (elapsed, registry) := b.registry.endTiming t
    (some elapsed, ⟨registry, b.timings.filter fun e => e.1 ≠ id⟩)

/-- Starts a timing under an identifier. -/
def start (b : Bench) (id name : String) : Except RegistryError Bench :=
  (b.registry.startTiming name).map fun (timing, registry) =>
    let (_, b) := stop { b with registry } id
    { b with timings := (id, timing) :: b.timings }

/-- How many durations the timer under a name holds. -/
def timerCount (b : Bench) (name : String) : Nat :=
  match b.registry.get? name with
  | some (.timer t) => t.count.toNat
  | _ => 0

end Bench

end Telemetry
