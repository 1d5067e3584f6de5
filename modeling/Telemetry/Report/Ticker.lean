import Telemetry.TimeUnit

/-!
# Tickers

A ticker has a deadline for every period. A tick that comes a little late is followed by the next
deadline as planned. After a tick that comes later than the tolerance, the deadlines that have
passed meanwhile are skipped. Times are nanoseconds since the ticker started.
-/

namespace Telemetry

structure Ticker where
  period : Nat
  deadline : Nat
  period_pos : 0 < period

namespace Ticker

/-- The lag up to which a tick counts as punctual: five milliseconds. -/
def tolerance : Nat := 5000000

/-- The first deadline is one period after the start. -/
def starting (period now : Nat) (h : 0 < period) : Ticker := ⟨period, now + period, h⟩

/-- The deadline after one that was served at the time `now`. -/
def nextDeadline (period deadline now : Nat) : Nat :=
  let lag := now - deadline
  if lag ≤ tolerance then deadline + period
  else deadline + period * (lag / period + 1)

def following (t : Ticker) (now : Nat) : Nat := nextDeadline t.period t.deadline now

def serve (t : Ticker) (now : Nat) : Ticker :=
  { t with deadline := t.following now }

theorem deadline_lt_following (t : Ticker) (now : Nat) : t.deadline < t.following now := by
  have := t.period_pos
  unfold following nextDeadline
  dsimp only
  split
  · omega
  · rw [Nat.mul_add]
    omega

end Ticker

end Telemetry
