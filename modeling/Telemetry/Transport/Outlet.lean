import Telemetry.Transport.Memory
import Telemetry.Transport.Network
import Telemetry.Transport.Script

/-!
# Outlets

The kinds of transport that a sender can be given, as one.
-/

namespace Telemetry

inductive Outlet where
  | memory (o : MemoryOutlet)
  | script (o : ScriptOutlet)
  | network (o : NetworkOutlet)

namespace Outlet

def send (o : Outlet) (payload : String) : Except TransportError Unit × Outlet :=
  match o with
  | memory o => (o.send payload).map id memory
  | script o => (o.send payload).map id script
  | network o => (o.send payload).map id network

/-- The requests that arrived at a server, in order. -/
def requests : Outlet → List HttpRequest
  | network (.http o) => o.received
  | _ => []

/-- The transport that options open. -/
def ofNetwork (o : NetworkOutlet) : Transport Outlet × Outlet :=
  ({ o.transport with send }, network o)

end Outlet

end Telemetry
