import Telemetry.Transport.Datagram
import Telemetry.Transport.Http

/-!
# Transports over the network

Either of the two ways to reach a server.
-/

namespace Telemetry

inductive NetworkOutlet where
  | http (o : HttpOutlet)
  | datagram (o : DatagramOutlet)

namespace NetworkOutlet

def send (o : NetworkOutlet) (payload : String) : Except TransportError Unit × NetworkOutlet :=
  match o with
  | http o => (o.send payload).map id http
  | datagram o => (o.send payload).map id datagram

def transport : NetworkOutlet → Transport NetworkOutlet
  | http _ => { HttpOutlet.transport with send }
  | datagram _ => { DatagramOutlet.transport with send }

end NetworkOutlet

end Telemetry
