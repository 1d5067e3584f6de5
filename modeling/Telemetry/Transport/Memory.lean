import Telemetry.Transport.Basic

/-!
# Transports in memory

A transport that reaches nobody: it accepts every payload until it is told to fail, and counts the
payloads that it was given.
-/

namespace Telemetry

structure MemoryOutlet where
  failing : Bool
  attempts : Nat
  deriving DecidableEq, Repr

namespace MemoryOutlet

def new : MemoryOutlet := ⟨false, 0⟩

def failure : TransportError := .unavailable "memory transport set to fail"

def send (m : MemoryOutlet) (_ : String) : Except TransportError Unit × MemoryOutlet :=
  (if m.failing then .error failure else .ok (), { m with attempts := m.attempts + 1 })

def transport (framing : Framing) (precision : TimeUnit) : Transport MemoryOutlet :=
  ⟨framing, precision, ⟨0⟩, send⟩

end MemoryOutlet

end Telemetry
