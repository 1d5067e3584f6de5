import Telemetry.Line.Writer
import Telemetry.Queue
import Telemetry.Transport.Basic
import Telemetry.Warning

/-!
# Senders

A sender keeps records in a bounded queue until a flush hands all of them to the transport. A flush
succeeds when the transport accepted a payload or refused none, and then the queue is emptied.
Otherwise the records stay for the next flush. A flush goes payload by payload, so that time may
pass in between.
-/

namespace Telemetry

/-- The figures of a sender. Each stands for an unsigned word, as long as it is below `2 ^ 64`. -/
structure SenderStats where
  flushesSucceeded : Nat
  flushesFailed : Nat
  recordsSent : Nat
  recordsEvicted : Nat
  bytesSent : Nat
  deriving DecidableEq, Repr

inductive FlushOutcome where
  /-- Nothing was pending. -/
  | empty
  | sent (records bytes : Nat)
  /-- The records stay queued. -/
  | retained (records : Nat) (error : TransportError)
  deriving DecidableEq, Repr

def FlushOutcome.success : FlushOutcome → Bool
  | retained .. => false
  | _ => true

/-- The figures are those of `SenderStats`. -/
structure Sender (σ : Type) where
  queue : Queue Record
  transport : Transport σ
  /-- The state of the transport. -/
  outlet : σ
  flushesSucceeded : Nat
  flushesFailed : Nat
  recordsSent : Nat
  bytesSent : Nat

/-- A flush under way. -/
structure Flight where
  /-- The number of records that were pending. -/
  records : Nat
  /-- The payloads that are still to be sent. -/
  waiting : List String
  /-- The payloads that the transport accepted. -/
  accepted : List String
  lastError : Option TransportError
  deriving DecidableEq, Repr

namespace Flight

/-- Notes the answer to a payload. -/
def note (f : Flight) (payload : String) : Except TransportError Unit → Flight
  | .ok _ => { f with accepted := f.accepted ++ [payload] }
  | .error e => { f with lastError := some e }

def bytes (f : Flight) : Nat := f.accepted.foldl (fun n p => n + p.utf8ByteSize) 0

/-- The last error counts when nothing was accepted. -/
def outcome (f : Flight) : FlushOutcome :=
  match f.lastError, f.accepted with
  | some e, [] => .retained f.records e
  | _, _ => .sent f.records f.bytes

end Flight

/-- The outcome of a flush with the payloads that were accepted. -/
structure Flushed where
  outcome : FlushOutcome
  accepted : List String
  warnings : List Warning

namespace Sender

variable {σ : Type}

def new (transport : Transport σ) (outlet : σ) (capacity : Nat) :
    Except CapacityError (Sender σ) :=
  (Queue.new capacity).map fun queue => ⟨queue, transport, outlet, 0, 0, 0, 0⟩

def offer (s : Sender σ) (r : Record) : Sender σ :=
  { s with queue := (s.queue.offer r).2 }

def offerAll (s : Sender σ) (rs : List Record) : Sender σ :=
  rs.foldl offer s

def pending (s : Sender σ) : Nat := s.queue.size

def stats (s : Sender σ) : SenderStats :=
  ⟨s.flushesSucceeded, s.flushesFailed, s.recordsSent, s.queue.evicted, s.bytesSent⟩

/-- The pending records as the payloads of a flush. -/
def payloads (s : Sender σ) : List String :=
  match s.transport.framing with
  | .batch => [Line.writeAll s.transport.precision s.queue.items]
  | .perRecord => s.queue.items.map (Line.write s.transport.precision)

/-- Begins a flush, if anything is pending. -/
def launch (s : Sender σ) : Option Flight :=
  if s.queue.isEmpty then none else some ⟨s.pending, s.payloads, [], none⟩

/-- Hands one payload to the transport. -/
def carry (s : Sender σ) (f : Flight) (payload : String) : Sender σ × Flight :=
  let (answer, outlet) := s.transport.send s.outlet payload
  ({ s with outlet }, f.note payload answer)

/-- Hands over all payloads. -/
def carryAll (s : Sender σ) (f : Flight) : List String → Sender σ × Flight
  | [] => (s, f)
  | p :: ps =>
    let (s, f) := s.carry f p
    s.carryAll f ps

/-- Ends a flush: the queue and the figures follow the outcome. -/
def land (s : Sender σ) (f : Flight) : Sender σ × Flushed :=
  let outcome := f.outcome
  match outcome with
  | .sent records bytes =>
    ({ s with
        queue := s.queue.clear
        flushesSucceeded := s.flushesSucceeded + 1
        recordsSent := s.recordsSent + records
        bytesSent := s.bytesSent + bytes },
      ⟨outcome, f.accepted, []⟩)
  | .retained records e =>
    ({ s with flushesFailed := s.flushesFailed + 1 },
      ⟨outcome, f.accepted, [.flushFailed records e]⟩)
  | .empty => (s, ⟨outcome, f.accepted, []⟩)

/-- Sends everything that is pending. -/
def flush (s : Sender σ) : Sender σ × Flushed :=
  match s.launch with
  | none => (s, ⟨.empty, [], []⟩)
  | some f =>
    let (s, f) := s.carryAll f f.waiting
    s.land f

/-- Drops what is pending and counts it. -/
def close (s : Sender σ) : Nat × Sender σ :=
  (s.pending, { s with queue := s.queue.clear })

end Sender

end Telemetry
