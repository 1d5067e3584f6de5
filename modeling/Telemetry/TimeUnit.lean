import Telemetry.Number.Word

/-!
# Units of time

A unit is a whole number of nanoseconds. Rates and durations are scaled by units, and a timestamp
in milliseconds is converted to a unit by a product that stops at the ends of the range, or by a
division that drops the remainder.
-/

namespace Telemetry

inductive TimeUnit where
  | nanoseconds | microseconds | milliseconds | seconds | minutes | hours | days
  deriving DecidableEq, Repr, Inhabited

namespace TimeUnit

def all : List TimeUnit :=
  [nanoseconds, microseconds, milliseconds, seconds, minutes, hours, days]

def name : TimeUnit → String
  | nanoseconds => "nanoseconds"
  | microseconds => "microseconds"
  | milliseconds => "milliseconds"
  | seconds => "seconds"
  | minutes => "minutes"
  | hours => "hours"
  | days => "days"

def ofName? (s : String) : Option TimeUnit :=
  all.find? fun u => u.name = s

/-- Nanoseconds in one unit. -/
def nanos : TimeUnit → Nat
  | nanoseconds => 1
  | microseconds => 1000
  | milliseconds => 1000000
  | seconds => 1000000000
  | minutes => 60 * 1000000000
  | hours => 3600 * 1000000000
  | days => 86400 * 1000000000

/-- Seconds in one unit. -/
def toSeconds (u : TimeUnit) : Float :=
  u.nanos.toUInt64.toFloat / 1e9

/-- What turns a rate per second into a rate per unit. -/
def rateFactor (u : TimeUnit) : Float :=
  u.toSeconds

def convertMillis (u : TimeUnit) (millis : Int64) : Int64 :=
  if u.nanos ≤ milliseconds.nanos then
    Number.clamp (millis.toInt * (milliseconds.nanos / u.nanos))
  else
    Int64.ofInt (millis.toInt.tdiv (u.nanos / milliseconds.nanos))

end TimeUnit

/-- A length of time in nanoseconds. -/
structure Duration where
  nanos : Nat
  deriving DecidableEq, Repr, Inhabited

namespace Duration

def ofParts (seconds nanos : Nat) : Duration := ⟨seconds * 1000000000 + nanos⟩

def ofSeconds (n : Nat) : Duration := ⟨n * 1000000000⟩

def ofMillis (n : Nat) : Duration := ⟨n * 1000000⟩

/-- Whole milliseconds. -/
def millis (d : Duration) : Nat := d.nanos / 1000000

/-- Whole seconds. -/
def seconds (d : Duration) : Nat := d.nanos / 1000000000

end Duration

end Telemetry
