import Telemetry.Instrument.Clock

/-!
# Meters

A meter counts events and keeps three moving averages of their rate per second. The averages are
updated once for every interval of five seconds that has passed, at the next mark or reading.
-/

namespace Telemetry

/-- An exponentially weighted moving average of a rate. -/
structure MovingAverage where
  /-- The weight of the last interval. -/
  weight : Float
  /-- Events per second; unset before the first interval ends. -/
  rate : Option Float
  /-- Events since the last interval ended. -/
  pending : UInt64

namespace MovingAverage

/-- Seconds in an interval. -/
def interval : Float := 5

def ofMinutes (minutes : Float) : MovingAverage :=
  ⟨1 - (-interval / 60 / minutes).exp, none, 0⟩

def mark (a : MovingAverage) (n : UInt64) : MovingAverage :=
  { a with pending := a.pending + n }

/-- The rate after an interval in which `n` events happened. -/
@[inline] def follow (weight : Float) (rate : Option Float) (n : UInt64) : Float :=
  let instant := n.toFloat / interval
  match rate with
  | none => instant
  | some rate => rate + weight * (instant - rate)

/-- Ends an interval. -/
def tick (a : MovingAverage) : MovingAverage :=
  { a with rate := some (follow a.weight a.rate a.pending), pending := 0 }

/-- The rate after intervals without events. -/
def fade (weight rate : Float) : Nat → Float
  | 0 => rate
  | n + 1 => fade weight (follow weight (some rate) 0) n

/-- Ends several intervals. All events are in the first one. -/
def ticks (a : MovingAverage) : Nat → MovingAverage
  | 0 => a
  | n + 1 =>
    { a with rate := some (fade a.weight (follow a.weight a.rate a.pending) n), pending := 0 }

def value (a : MovingAverage) : Float := a.rate.getD 0

/-- The intervals end one after another. -/
theorem ticks_succ (a : MovingAverage) (n : Nat) : a.ticks (n + 1) = a.tick.ticks n := by
  cases n <;> rfl

end MovingAverage

/-- The averages over one, five and fifteen minutes. -/
structure Averages where
  one : MovingAverage
  five : MovingAverage
  fifteen : MovingAverage

namespace Averages

def new : Averages := ⟨.ofMinutes 1, .ofMinutes 5, .ofMinutes 15⟩

def mark (a : Averages) (n : UInt64) : Averages :=
  ⟨a.one.mark n, a.five.mark n, a.fifteen.mark n⟩

/-- Ends several intervals. -/
def ticks (a : Averages) (n : Nat) : Averages :=
  ⟨a.one.ticks n, a.five.ticks n, a.fifteen.ticks n⟩

end Averages

structure Meter where
  count : UInt64
  startTick : UInt64
  /-- Where the current interval began. -/
  lastTick : UInt64
  averages : Averages

/-- Events per second. -/
structure Rates where
  one : Float
  five : Float
  fifteen : Float
  mean : Float

namespace Meter

/-- Nanoseconds in an interval. -/
def interval : UInt64 := 5000000000

def new (now : UInt64) : Meter := ⟨0, now, now, .new⟩

/-- Ends the intervals that have passed, once more than one interval is over. -/
def catchUp (m : Meter) (now : UInt64) : Meter :=
  let age := Clock.since now m.lastTick
  if age ≤ interval then m
  else
    { m with
      lastTick := now - age % interval
      averages := m.averages.ticks (age / interval).toNat }

def mark (m : Meter) (now n : UInt64) : Meter :=
  let m := m.catchUp now
  { m with count := m.count + n, averages := m.averages.mark n }

/-- Events per second since the meter was made. -/
def meanRate (m : Meter) (now : UInt64) : Float :=
  let elapsed := Clock.since now m.startTick
  if m.count = 0 ∨ elapsed = 0 then 0 else m.count.toFloat / (elapsed.toFloat / 1e9)

/-- The four rates, and the meter that has caught up with the clock. -/
def rates (m : Meter) (now : UInt64) : Rates × Meter :=
  let m := m.catchUp now
  (⟨m.averages.one.value, m.averages.five.value, m.averages.fifteen.value, m.meanRate now⟩, m)

end Meter

end Telemetry
