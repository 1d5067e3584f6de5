import Telemetry.Number.Shortest

/-!
# Positional number text

A double is written with the digits of its shortest decimal and never with an exponent. A whole
number has no point, a number below one begins with a zero, and the sign of zero is kept.
-/

namespace Telemetry.Number

def zeros (n : Nat) : List Char :=
  List.replicate n '0'

/-- The digits with as many zeros as reach the point. -/
def Decimal.positional (d : Decimal) : List Char :=
  let count := d.digits.length
  if d.point ≤ 0 then '0' :: '.' :: (zeros d.point.natAbs ++ d.digits)
  else if count ≤ d.point.toNat then d.digits ++ zeros (d.point.toNat - count)
  else d.digits.take d.point.toNat ++ '.' :: d.digits.drop d.point.toNat

/-- The text of a magnitude. -/
def Binary.chars (b : Binary) : List Char :=
  if b.mantissa = 0 then ['0'] else b.shortest.positional

def Shape.chars : Shape → List Char
  | .nan => ['N', 'a', 'N']
  | .infinite negative => (if negative then ['-'] else []) ++ ['i', 'n', 'f']
  | .finite negative b => (if negative then ['-'] else []) ++ b.chars

def floatText (x : Float) : String :=
  String.ofList (shape x).chars

end Telemetry.Number
