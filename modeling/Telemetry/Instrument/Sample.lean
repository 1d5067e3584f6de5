import Telemetry.Number.Word

/-!
# Samples

A sample is a sorted list of values with its statistics. A quantile is read at the position that it
takes in one value more than there are, interpolated between the two neighbours of that position.
The arithmetic is a parameter: reports use doubles, and the laws of quantiles hold in an exact
ordered field.
-/

namespace Telemetry

/-- The operations that a quantile needs. -/
structure Arithmetic (R : Type) where
  ofWord : Int64 → R
  ofNat : Nat → R
  add : R → R → R
  sub : R → R → R
  mul : R → R → R
  less : R → R → Bool
  /-- Drops the fraction; what is below one or no number becomes zero. -/
  whole : R → Nat
  floor : R → R

/-- Double precision. -/
def doubles : Arithmetic Float where
  ofWord := Int64.toFloat
  ofNat n := n.toUInt64.toFloat
  add := (· + ·)
  sub := (· - ·)
  mul := (· * ·)
  less a b := a < b
  whole x := x.toUInt64.toNat
  floor := Float.floor

/-- Values in ascending order. -/
structure Sample where
  values : List Int64
  deriving DecidableEq, Repr

namespace Sample

def ofList (vs : List Int64) : Sample :=
  ⟨vs.mergeSort fun a b => decide (a ≤ b)⟩

def size (s : Sample) : Nat := s.values.length

def least (s : Sample) : Int64 := s.values.head?.getD 0

def greatest (s : Sample) : Int64 := s.values.getLast?.getD 0

/-- Keeps a quantile between zero and one. -/
def clampUnit {R : Type} (A : Arithmetic R) (q : R) : R :=
  if A.less q (A.ofNat 0) then A.ofNat 0 else if A.less (A.ofNat 1) q then A.ofNat 1 else q

/-- The value at a quantile in a given arithmetic. -/
def quantileIn {R : Type} (A : Arithmetic R) (s : Sample) (q : R) : R :=
  let n := s.size
  let position := A.mul (clampUnit A q) (A.ofNat (n + 1))
  let index := A.whole position
  let pick (i : Nat) : R := A.ofWord (s.values.getD i 0)
  if n = 0 then A.ofNat 0
  else if index < 1 then pick 0
  else if n ≤ index then pick (n - 1)
  else
    let lower := pick (index - 1)
    let upper := pick index
    A.add lower (A.mul (A.sub position (A.floor position)) (A.sub upper lower))

def quantile (s : Sample) (q : Float) : Float := s.quantileIn doubles q

def floats (s : Sample) : List Float := s.values.map Int64.toFloat

def countFloat (n : Nat) : Float := n.toUInt64.toFloat

/-- The sum from the least value to the greatest, divided by the number of values. -/
def mean (s : Sample) : Float :=
  if s.values.isEmpty then 0 else s.floats.foldl (· + ·) 0 / countFloat s.size

/-- The deviation within the sample, zero for fewer than two values. -/
def standardDeviation (s : Sample) : Float :=
  if s.size ≤ 1 then 0
  else
    let mean := s.mean
    let squares := s.floats.map fun v => (v - mean) * (v - mean)
    (squares.foldl (· + ·) 0 / countFloat (s.size - 1)).sqrt

def median (s : Sample) : Float := s.quantile 0.5
def percentile75 (s : Sample) : Float := s.quantile 0.75
def percentile95 (s : Sample) : Float := s.quantile 0.95
def percentile99 (s : Sample) : Float := s.quantile 0.99
def percentile999 (s : Sample) : Float := s.quantile 0.999

end Sample

end Telemetry
