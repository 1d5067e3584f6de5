/-!
# Doubles as exact numbers

A double is read from its bits: it is not a number, infinite, or a sign with a natural mantissa
and a power of two. The reals that round to a finite double form an interval around it, which
reaches half a unit of the mantissa to each side, and only a quarter below the least mantissa.
-/

namespace Telemetry.Number

/-- The number `mantissa * 2 ^ exponent`. -/
structure Binary where
  mantissa : Nat
  exponent : Int
  /-- The next smaller double is only half a unit away. -/
  closeBelow : Bool
  deriving DecidableEq, Repr

inductive Shape where
  | nan
  | infinite (negative : Bool)
  | finite (negative : Bool) (value : Binary)
  deriving DecidableEq, Repr

/-- Reads the sign, the eleven bits of the exponent and the fifty-two bits of the fraction. -/
def Shape.ofBits (bits : Nat) : Shape :=
  let fraction := bits % Nat.pow 2 52
  let exponent : Nat := bits / Nat.pow 2 52 % Nat.pow 2 11
  let negative := bits / Nat.pow 2 63 % 2 == 1
  if exponent = 2047 then
    if fraction = 0 then .infinite negative else .nan
  else if exponent = 0 then
    .finite negative ⟨fraction, -1074, false⟩
  else
    .finite negative ⟨Nat.pow 2 52 + fraction, (exponent : Int) - 1075, fraction == 0 && exponent != 1⟩

def shape (x : Float) : Shape :=
  .ofBits x.toBits.toNat

/-- Neither infinite nor a NaN. -/
def isFinite (x : Float) : Bool :=
  match shape x with
  | .finite .. => true
  | _ => false

/-- A positive number and the ends of its interval, as numerators over one denominator. -/
structure Interval where
  low : Nat
  value : Nat
  high : Nat
  denominator : Nat
  /-- The ends themselves round to the number. -/
  closed : Bool
  deriving Repr

/-- The reals that round to the number: a tie goes to the even mantissa. -/
def Binary.interval (b : Binary) : Interval :=
  let power := Nat.pow 2 (b.exponent - 2).natAbs
  let (factor, denominator) := if b.exponent < 2 then (1, power) else (power, 1)
  { low := (4 * b.mantissa - if b.closeBelow then 1 else 2) * factor
    value := 4 * b.mantissa * factor
    high := (4 * b.mantissa + 2) * factor
    denominator
    closed := b.mantissa % 2 == 0 }

end Telemetry.Number
