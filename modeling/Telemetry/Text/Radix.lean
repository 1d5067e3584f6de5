/-!
# Digits in a radix

Digits go on after 9 with the letters, in either case when read. A numeral is one digit or more.
-/

namespace Telemetry.Text

/-- The value of a digit or letter, up to 35. -/
def digitValue? (c : Char) : Option Nat :=
  let n := c.toNat
  if '0'.toNat ≤ n ∧ n ≤ '9'.toNat then some (n - '0'.toNat)
  else if 'a'.toNat ≤ n ∧ n ≤ 'z'.toNat then some (n - 'a'.toNat + 10)
  else if 'A'.toNat ≤ n ∧ n ≤ 'Z'.toNat then some (n - 'A'.toNat + 10)
  else none

/-- The value of a digit below `radix`. -/
def digitBelow? (radix : Nat) (c : Char) : Option Nat :=
  (digitValue? c).filter (· < radix)

def isDigitBelow (radix : Nat) (c : Char) : Bool :=
  (digitBelow? radix c).isSome

/-- The number that the digits spell, if they all are digits and there is one. -/
def radixValue? (radix : Nat) (cs : List Char) : Option Nat :=
  if cs.isEmpty then none
  else (cs.mapM (digitBelow? radix)).map fun ds => ds.foldl (fun n d => n * radix + d) 0

/-- The character of a code in hexadecimal. -/
def codeChar? (digits : List Char) : Option Char :=
  (radixValue? 16 digits).bind fun n => if n.isValidChar then some (Char.ofNat n) else none

/-- The digit of a value up to 15, with capital letters. -/
def hexDigit (n : Nat) : Char :=
  if n < 10 then Char.ofNat ('0'.toNat + n) else Char.ofNat ('A'.toNat + n - 10)

/-- The shortest hexadecimal numeral, with small letters. -/
def hexText (n : Nat) : List Char :=
  Nat.toDigits 16 n

end Telemetry.Text
