import Telemetry.Number.Binary

/-!
# Shortest decimals

Of the decimals that round to a double, the shortest one is chosen, of several the nearest one, and
of two equally near the larger. For a number of digits only the two neighbours of the value on that
decimal grid need to be looked at.
-/

namespace Telemetry.Number

/-- The number `0.d₁d₂… * 10 ^ point`. -/
structure Decimal where
  digits : List Char
  point : Int
  deriving DecidableEq, Repr

/-- The power of ten just above `numerator / denominator`, both positive. -/
def magnitude (numerator denominator : Nat) : Int :=
  if denominator ≤ numerator then (Nat.toDigits 10 (numerator / denominator)).length
  else 1 - (Nat.toDigits 10 ((denominator - 1) / numerator)).length

namespace Interval

/-- The same interval measured in units of `10 ^ unit`. -/
def inUnits (i : Interval) (unit : Int) : Interval :=
  let power := Nat.pow 10 unit.natAbs
  if unit < 0 then
    { i with low := i.low * power, value := i.value * power, high := i.high * power }
  else { i with denominator := i.denominator * power }

def holds (i : Interval) (n : Nat) : Bool :=
  let x := n * i.denominator
  if i.closed then i.low ≤ x && x ≤ i.high else i.low < x && x < i.high

/-- The whole number in the interval that is nearest to the value, among its two neighbours. -/
def nearest? (i : Interval) : Option Nat :=
  let below := i.value / i.denominator
  let rest := i.value % i.denominator
  match i.holds below, i.holds (below + 1) with
  | true, true => some (if 2 * rest < i.denominator then below else below + 1)
  | true, false => some below
  | false, true => some (below + 1)
  | false, false => none

end Interval

/-- The digits of `n` units of `10 ^ unit`. -/
def Decimal.ofUnits (n : Nat) (unit : Int) : Decimal :=
  let digits := Nat.toDigits 10 n
  { digits := (digits.reverse.dropWhile (· == '0')).reverse
    point := unit + digits.length }

/-- The shortest decimal that rounds to the positive number. Seventeen digits always suffice. -/
def Binary.shortest (b : Binary) : Decimal :=
  let i := b.interval
  let top := magnitude i.value i.denominator
  let attempt (count : Nat) : Option Decimal :=
    let unit := top - count
    (i.inUnits unit).nearest?.map (Decimal.ofUnits · unit)
  ((List.range' 1 17).findSome? attempt).getD (.ofUnits i.value 0)

end Telemetry.Number
