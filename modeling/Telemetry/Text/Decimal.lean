/-!
# Decimal numerals

Whole numbers are written with no leading zero and a minus sign when negative. Reading takes an
optional plus sign and leading zeros, digits only, and refuses what is above a limit.
-/

namespace Telemetry.Text

def natDigits (n : Nat) : List Char :=
  Nat.toDigits 10 n

def natText (n : Nat) : String :=
  String.ofList (natDigits n)

def intDigits (i : Int) : List Char :=
  if i < 0 then '-' :: natDigits i.natAbs else natDigits i.natAbs

def intText (i : Int) : String :=
  String.ofList (intDigits i)

/-- The number that the digits spell, if they all are digits and there is one. -/
def digitsValue? (cs : List Char) : Option Nat :=
  if cs.isEmpty || !cs.all Char.isDigit then none
  else some (Nat.ofDigitChars 10 cs 0)

/-- Reads a natural number up to `limit`. -/
def readNat? (limit : Nat) (s : String) : Option Nat :=
  let digits :=
    match s.toList with
    | '+' :: r => r
    | cs => cs
  (digitsValue? digits).filter (· ≤ limit)

end Telemetry.Text
