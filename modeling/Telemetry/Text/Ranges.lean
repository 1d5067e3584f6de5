/-!
# Tables of characters

Properties of characters are given by ascending ranges of code points, and maps of characters by
runs: characters at equal distances that are all moved by the same number.
-/

namespace Telemetry.Text

/-- Characters `first`, `first + step`, up to `last`, each mapped to the one `shift` further. -/
structure Run where
  first : Nat
  last : Nat
  step : Nat
  shift : Int

/-- The character that the run maps to, if it maps this one. -/
def Run.image? (r : Run) (n : Nat) : Option Nat :=
  if r.first ≤ n ∧ n ≤ r.last ∧ (n - r.first) % r.step = 0 then some (n + r.shift).toNat else none

/-- The image under the first run that maps the character. -/
def imageUnder? (rs : List Run) (c : Char) : Option Char :=
  (rs.findSome? (·.image? c.toNat)).map Char.ofNat

/-- The image under the first run that maps the character, which otherwise stays. -/
def applyRuns (rs : List Run) (c : Char) : Char :=
  (imageUnder? rs c).getD c

def inRanges (rs : List (Nat × Nat)) (c : Char) : Bool :=
  rs.any fun (a, b) => a ≤ c.toNat && c.toNat ≤ b

end Telemetry.Text
