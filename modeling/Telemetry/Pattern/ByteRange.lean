import Telemetry.Pattern.CharSet

/-!
# Sets of characters as sequences of bytes

In UTF-8 a range of characters is a union of products: sequences of at most four ranges of bytes.
`sequences` gives them in ascending order, and each one is made of characters of the same length.
-/

namespace Telemetry.Pattern

/-- The code points that are no characters. -/
def firstSurrogate : Nat := 0xD800

def lastSurrogate : Nat := 0xDFFF

/-- The last characters of one, two and three bytes. -/
def lastOfLength : List Nat := [0x7F, 0x7FF, 0xFFFF]

/-- A place inside a range where the bytes behind the first ones begin anew: after it the part up to
`high` is no product, or before it the part from `low` is none. -/
def byteCut? (low high : Nat) : Option Nat :=
  [0x40, 0x1000, 0x40000].findSome? fun m =>
    if low / m = high / m then none
    else if low % m ≠ 0 then some ((low / m + 1) * m - 1)
    else if high % m ≠ m - 1 then some (high / m * m - 1)
    else none

/-- A place where a range is cut into two that are simpler. -/
def cutRange? (low high : Nat) : Option Nat :=
  if low < firstSurrogate ∧ firstSurrogate ≤ high then some (firstSurrogate - 1)
  else if low ≤ lastSurrogate ∧ lastSurrogate < high then some lastSurrogate
  else
    match lastOfLength.find? fun n => low ≤ n && n < high with
    | some n => some n
    | none => if high ≤ 0x7F then none else byteCut? low high

def isSurrogate (n : Nat) : Bool :=
  firstSurrogate ≤ n && n ≤ lastSurrogate

/-- The sequences of ranges of bytes for a range of characters. -/
def rangeSequences (low high : Nat) : List (List (UInt8 × UInt8)) :=
  match cutRange? low high with
  | some n =>
    if _h : low ≤ n ∧ n < high then rangeSequences low n ++ rangeSequences (n + 1) high
    else []
  | none =>
    if isSurrogate low then []
    else
      [(String.utf8EncodeChar (Char.ofNat low)).zip (String.utf8EncodeChar (Char.ofNat high))]
termination_by high - low

def CharSet.sequences (s : CharSet) : List (List (UInt8 × UInt8)) :=
  s.ranges.flatMap fun (a, b) => rangeSequences a b

end Telemetry.Pattern
