/-!
# Sixty-four bit words

Conversions stop at the ends of the signed range. A difference that leaves the range either ends the
program or wraps, as the program was built.
-/

namespace Telemetry.Number

/-- The nearest word to an integer. -/
def clamp (i : Int) : Int64 :=
  if i ≤ Int64.minValue.toInt then Int64.minValue
  else if Int64.maxValue.toInt ≤ i then Int64.maxValue
  else Int64.ofInt i

/-- The nearest signed word to an unsigned one. -/
def clampCount (n : UInt64) : Int64 :=
  clamp n.toNat

/-- A difference that no word holds. -/
structure Overflow where
  minuend : Int64
  subtrahend : Int64
  deriving DecidableEq, Repr

/-- What becomes of a difference that no word holds. -/
inductive WordArithmetic where
  /-- It ends the program. -/
  | checked
  /-- A multiple of `2 ^ 64` is left out. -/
  | wrapping
  deriving DecidableEq, Repr

def WordArithmetic.minus (m : WordArithmetic) (a b : Int64) : Except Overflow Int64 :=
  match m with
  | checked => if (a - b).toInt = a.toInt - b.toInt then .ok (a - b) else .error ⟨a, b⟩
  | wrapping => .ok (a - b)

theorem toInt_clamp (i : Int) :
    (clamp i).toInt = max Int64.minValue.toInt (min i Int64.maxValue.toInt) := by
  have h1 : Int64.minValue.toInt = -2 ^ 63 := rfl
  have h2 : Int64.maxValue.toInt = 2 ^ 63 - 1 := rfl
  unfold clamp
  split
  · omega
  · split
    · omega
    · rw [Int64.toInt_ofInt_of_le] <;> omega

end Telemetry.Number
