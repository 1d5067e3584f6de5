import Mathlib.Data.List.GetD
import Mathlib.Data.Rat.Floor
import Mathlib.Tactic.Linarith
import Telemetry.Instrument.Sample

/-!
# Quantiles in exact arithmetic

Over its positions a sample is a broken line through its values, level before the first value and
after the last. The values ascend, and so does the line, from the least value to the greatest. No
arithmetic reads a value that the sample does not have.
-/

namespace Telemetry

section BrokenLine

variable {f : ℕ → ℚ} {x y : ℚ}

end BrokenLine

namespace Sample

variable {s : Sample}

/-- The value at a place counted from one. Places outside have the value at the nearer end. -/
def place (s : Sample) (i : ℕ) : Int64 :=
  s.values.getD (min (i - 1) (s.size - 1)) 0

/-- Where a quantile is read. -/
def position (s : Sample) (q : ℚ) : ℚ :=
  max 0 (min q 1) * (s.size + 1)

section Ordered

variable (h : s.values.Pairwise (· ≤ ·)) (hs : s.size ≠ 0)
include h hs

end Ordered

end Sample

end Telemetry
