import Telemetry.Transport.Basic

/-!
# Scripted transports

A transport whose answers are laid down beforehand, and which accepts all payloads after that.
-/

namespace Telemetry

structure ScriptOutlet where
  answers : List (Except TransportError Unit)

namespace ScriptOutlet

def send (s : ScriptOutlet) (_ : String) : Except TransportError Unit × ScriptOutlet :=
  match s.answers with
  | [] => (.ok (), s)
  | a :: rest => (a, ⟨rest⟩)

/-- Lays down more answers, after those that are left. -/
def append (s : ScriptOutlet) (more : List (Except TransportError Unit)) : ScriptOutlet :=
  ⟨s.answers ++ more⟩

end ScriptOutlet

end Telemetry
