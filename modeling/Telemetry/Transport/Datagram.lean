import Telemetry.Files
import Telemetry.Transport.Basic
import Telemetry.Transport.Link

/-!
# Datagrams

Each record is a datagram of its own, with its timestamp in nanoseconds. Nobody confirms it, so it
counts as delivered once the system has taken it.
-/

namespace Telemetry

structure DatagramOutlet where
  /-- The datagrams that were sent, in order. -/
  sent : List String
  deriving DecidableEq, Repr

namespace DatagramOutlet

/-- An address is a host and a port with a colon between them. The host is handed to the system. -/
def addressFault (address : String) : Option String :=
  match Text.cutLast ':' address with
  | none => some "invalid socket address"
  | some (host, port) =>
    if (Text.readNat? 65535 port).isNone then some "invalid port value"
    else Files.handedFault? host

def connect (link : Link) (address : String) : Except TransportError DatagramOutlet :=
  match addressFault address, link with
  | some reason, _ => .error (.system reason)
  | none, .down => .error (.system Link.fault)
  | none, .up => .ok ⟨[]⟩

/-- The most bytes that fit into a datagram. -/
def room : Nat := 65507

def send (o : DatagramOutlet) (payload : String) : Except TransportError Unit × DatagramOutlet :=
  if room < payload.utf8ByteSize then (.error (.system "Message too long (os error 90)"), o)
  else (.ok (), ⟨o.sent ++ [payload]⟩)

def transport : Transport DatagramOutlet :=
  ⟨.perRecord, .nanoseconds, ⟨0⟩, send⟩

end DatagramOutlet

end Telemetry
