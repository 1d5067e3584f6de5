import Telemetry.Report.Cycle
import Telemetry.Report.Ticker

/-!
# Scheduled reporting

A reporter runs a cycle at every tick and never two at once: while a flush is under way no tick is
served. Time is simulated, so a reporter is moved to a time and tells what happened up to it. After
a cancellation a flush under way is finished, no cycle begins, and pending records are dropped.
-/

namespace Telemetry

open Number (WordArithmetic)

/-- What a reporter is doing. -/
inductive Phase where
  | waiting
  /-- A flush whose next answer comes at the time `wake`. -/
  | flushing (flight : Flight) (wake : Nat)
  | stopped
  deriving DecidableEq, Repr

/-- What can happen next. -/
inductive Event where
  /-- A cycle begins at the time. -/
  | begin (time : Nat)
  /-- A payload of a flush gets its answer at the time, with the payloads that are left. -/
  | answer (time : Nat) (flight : Flight) (payload : String) (rest : List String)
  /-- A flush ends whose payloads all have their answer. -/
  | land (flight : Flight)
  | finish

/-- How many events it takes at most to come to rest. -/
def Phase.rank : Phase → Nat
  | stopped => 0
  | waiting => 1
  | flushing flight _ => flight.waiting.length + 2

structure Reporter (σ : Type) where
  cycle : Cycle σ
  registry : Registry
  ticker : Ticker
  phase : Phase
  /-- Nanoseconds since the start. -/
  now : Nat
  /-- The time of day at the start. -/
  startMillis : Int64
  cancelled : Bool
  /-- The payloads accepted so far that were not taken away. -/
  accepted : List String
  warnings : List Warning
  /-- How long every send takes, by its number. -/
  delays : Nat → Duration
  /-- The sends that have their answer. -/
  sends : Nat

namespace Reporter

variable {σ : Type}

/-- Starts a reporter. A period of no length is refused. -/
def spawn (delays : Nat → Duration) (cycle : Cycle σ) (registry : Registry) (period : Duration)
    (startMillis : Int64) : Option (Reporter σ) :=
  if h : 0 < period.nanos then
    some
      { cycle, registry, startMillis, delays
        ticker := .starting period.nanos 0 h
        phase := .waiting
        now := 0
        cancelled := false
        accepted := []
        warnings := []
        sends := 0 }
  else none

/-- The clock of the instruments at a time of the reporter. -/
def clockAt (startMillis : Int64) (now : Nat) : Clock :=
  (Clock.starting startMillis).advance ⟨now⟩

def setNow (r : Reporter σ) (now : Nat) : Reporter σ :=
  { r with now, registry := { r.registry with clock := clockAt r.startMillis now } }

/-- When a payload that is handed over now gets its answer. -/
def wake (r : Reporter σ) : Nat := r.now + (r.delays r.sends).nanos

/-- Ends a flush. -/
def land (r : Reporter σ) (flight : Flight) : Reporter σ :=
  let (sender, flushed) := r.cycle.sender.land flight
  { r with
    cycle := { r.cycle with sender }
    phase := .waiting
    warnings := r.warnings ++ flushed.warnings }

/-- Begins the cycle of the current deadline at the present time. -/
def begin (r : Reporter σ) : Reporter σ :=
  let g := r.cycle.gather r.registry r.registry.clock.millis
  let phase :=
    if g.report.aborted then .waiting
    else
      match g.cycle.sender.launch with
      | none => .waiting
      | some flight => .flushing flight r.wake
  { r with
    cycle := g.cycle
    registry := g.registry
    ticker := r.ticker.serve r.now
    phase
    warnings := r.warnings ++ g.warnings }

/-- The next payload gets its answer. -/
def answer (r : Reporter σ) (flight : Flight) (payload : String) (rest : List String) :
    Reporter σ × Flight :=
  let (sender, noted) := r.cycle.sender.carry { flight with waiting := rest } payload
  let r := { r with
    cycle := { r.cycle with sender }
    accepted := r.accepted ++ noted.accepted.drop flight.accepted.length
    sends := r.sends + 1 }
  ({ r with phase := .flushing noted r.wake }, noted)

/-- Ends the reporter and drops what is pending. -/
def finish (r : Reporter σ) : Reporter σ :=
  { r with cycle := r.cycle.close.2, phase := .stopped }

/-- The next event before the limit, if there is one. A flush whose payloads all have their answer
ends at once. -/
def due? (r : Reporter σ) (limit : Nat) : Option Event :=
  match r.phase with
  | .stopped => none
  | .flushing flight wake =>
    match flight.waiting with
    | [] => some (.land flight)
    | p :: rest => if wake < limit then some (.answer wake flight p rest) else none
  | .waiting =>
    if r.cancelled then some .finish
    else
      let time := max r.now r.ticker.deadline
      if time < limit then some (.begin time) else none

def perform (r : Reporter σ) : Event → Reporter σ
  | .begin time => (r.setNow time).begin
  | .answer time flight p rest => ((r.setNow time).answer flight p rest).1
  | .land flight => r.land flight
  | .finish => r.finish

theorem note_waiting (f : Flight) (p : String) (a : Except TransportError Unit) :
    (f.note p a).waiting = f.waiting := by
  cases a <;> rfl

theorem answer_phase (r : Reporter σ) (flight : Flight) (p : String) (rest : List String) :
    (r.answer flight p rest).1.phase.rank = rest.length + 2 := by
  simp [answer, Sender.carry, Phase.rank, note_waiting]

/-- Every event either serves a deadline or comes nearer to the end of a flush. -/
theorem perform_decreases {r : Reporter σ} {limit : Nat} {e : Event} (h : r.due? limit = some e) :
    Prod.Lex (· < ·) (· < ·) (limit - (r.perform e).ticker.deadline, (r.perform e).phase.rank)
      (limit - r.ticker.deadline, r.phase.rank) := by
  unfold due? at h
  split at h
  · simp at h
  · rename_i flight wake hp
    split at h
    · rename_i hw
      cases h
      refine Prod.Lex.right' _ (Nat.le_refl _) ?_
      simp [perform, land, Phase.rank, hp]
    · rename_i p rest hw
      split at h
      · cases h
        refine Prod.Lex.right' _ (Nat.le_refl _) ?_
        rw [perform, answer_phase, hp]
        simp [Phase.rank, hw]
      · simp at h
  · rename_i hp
    split at h
    · cases h
      refine Prod.Lex.right' _ (Nat.le_refl _) ?_
      simp [perform, finish, Phase.rank, hp]
    · dsimp only at h
      split at h
      · rename_i hl
        cases h
        refine Prod.Lex.left _ _ ?_
        have := r.ticker.deadline_lt_following (max r.now r.ticker.deadline)
        simp only [perform, begin, Ticker.serve, setNow]
        omega
      · simp at h

/-- Lets everything happen that happens before the limit. -/
def runUntil (r : Reporter σ) (limit : Nat) : Reporter σ :=
  match _due : r.due? limit with
  | some e => (r.perform e).runUntil limit
  | none => r
termination_by (limit - r.ticker.deadline, r.phase.rank)
decreasing_by exact perform_decreases (by assumption)

/-- What is left of the reporter when an event ends in an overflow. -/
def crash? (m : WordArithmetic) (r : Reporter σ) : Event → Option (Reporter σ)
  | .begin time =>
    let r := r.setNow time
    match r.cycle.gatherIn m r.registry r.registry.clock.millis with
    | .error crash => some { r with registry := crash.registry, phase := .stopped }
    | .ok _ => none
  | _ => none

/-- Lets everything happen that happens before the limit, or before an overflow. The error is what
is left of the reporter. -/
def runUntilIn (m : WordArithmetic) (r : Reporter σ) (limit : Nat) :
    Except (Reporter σ) (Reporter σ) :=
  match _due : r.due? limit with
  | some e =>
    match r.crash? m e with
    | some left => .error left
    | none => (r.perform e).runUntilIn m limit
  | none => .ok r
termination_by (limit - r.ticker.deadline, r.phase.rank)
decreasing_by exact perform_decreases (by assumption)

/-- Moves the reporter forward in time. What is due at the very end is left for the next move. -/
def sleep (r : Reporter σ) (d : Duration) : Reporter σ :=
  if d.nanos = 0 then r
  else (r.runUntil (r.now + d.nanos)).setNow (r.now + d.nanos)

/-- Moves the reporter forward in time, or the clock alone after an overflow. -/
def sleepIn (m : WordArithmetic) (r : Reporter σ) (d : Duration) :
    Except (Reporter σ) (Reporter σ) :=
  let time := r.now + d.nanos
  if d.nanos = 0 then .ok r
  else
    match r.runUntilIn m time with
    | .error left => .error (left.setNow time)
    | .ok r => .ok (r.setNow time)

def cancel (r : Reporter σ) : Reporter σ := { r with cancelled := true }

def finished (r : Reporter σ) : Bool := r.phase = .stopped

/-- Hands over the payloads that are left of a flush, each at its time. -/
def complete (r : Reporter σ) (flight : Flight) (wake : Nat) : List String → Reporter σ × Flight
  | [] => (r, flight)
  | p :: rest =>
    let (r, noted) := (r.setNow wake).answer flight p rest
    r.complete noted r.wake rest

/-- Cancels the reporter and waits for its end. -/
def stop (r : Reporter σ) : Reporter σ :=
  let r := r.cancel
  match r.phase with
  | .stopped => r
  | .waiting => r.finish
  | .flushing flight wake =>
    let (r, flight) := r.complete flight wake flight.waiting
    (r.land flight).finish

/-- Takes away what was accepted and said since the last time. -/
def collect (r : Reporter σ) : (List String × List Warning) × Reporter σ :=
  ((r.accepted, r.warnings), { r with accepted := [], warnings := [] })

end Reporter

/-- A reporter as its owner sees it. -/
inductive ReporterHandle (σ : Type) where
  /-- The period was refused, so the reporter failed at once. -/
  | broken
  | on (r : Reporter σ)
  /-- The owner has waited for the end. -/
  | stopped (r : Reporter σ)
  /-- An overflow ended the reporter, which is as that left it. -/
  | crashed (r : Reporter σ)

namespace ReporterHandle

variable {σ : Type}

def spawn (cycle : Cycle σ) (registry : Registry) (period : Duration) (startMillis : Int64) :
    ReporterHandle σ :=
  match Reporter.spawn cycle.sender.transport.delays cycle registry period startMillis with
  | some r => on r
  | none => broken

def reporter? : ReporterHandle σ → Option (Reporter σ)
  | broken => none
  | on r | stopped r | crashed r => some r

/-- Changes the reporter, if there is one. -/
def update (f : Reporter σ → Reporter σ) : ReporterHandle σ → ReporterHandle σ
  | broken => broken
  | on r => on (f r)
  | stopped r => stopped (f r)
  | crashed r => crashed (f r)

/-- Changes the reporter, if it was not waited for. -/
def updateOn (f : Reporter σ → Reporter σ) : ReporterHandle σ → ReporterHandle σ
  | on r => on (f r)
  | h => h

/-- Moves the reporter forward in time, if it was not waited for. -/
def sleep (m : WordArithmetic) (d : Duration) : ReporterHandle σ → ReporterHandle σ
  | on r =>
    match r.sleepIn m d with
    | .error left => crashed left
    | .ok r => on r
  | crashed r => crashed (r.setNow (r.now + d.nanos))
  | h => h

/-- Stops the reporter. Only a reporter that ran has something to tell. -/
def stop : ReporterHandle σ → Option SenderStats × ReporterHandle σ
  | broken => (none, broken)
  | on r => (some r.stop.cycle.sender.stats, stopped r.stop)
  | stopped r => (none, stopped r)
  | crashed r => (none, crashed r)

end ReporterHandle

end Telemetry
