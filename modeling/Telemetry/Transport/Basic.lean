import Telemetry.TimeUnit
import Telemetry.Transport.Error

/-!
# Transports

A transport takes payloads one at a time and accepts or refuses each. What it will do next is its
state, so a transport is a function from states and payloads to answers.
-/

namespace Telemetry

/-- How records are grouped into payloads. -/
inductive Framing where
  | batch
  | perRecord
  deriving DecidableEq, Repr

structure Transport (σ : Type) where
  framing : Framing
  /-- The precision of the timestamps that the receiver expects. -/
  precision : TimeUnit
  /-- How long every send takes. -/
  delay : Duration
  /-- The answer to a payload and the state after it. -/
  send : σ → String → Except TransportError Unit × σ

/-- The delay of every send by its number. -/
def Transport.delays {σ : Type} (t : Transport σ) : Nat → Duration := fun _ => t.delay

end Telemetry
