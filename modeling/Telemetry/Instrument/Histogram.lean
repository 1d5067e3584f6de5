import Telemetry.Instrument.Sample

/-!
# Histograms

A histogram counts all its values and keeps a reservoir of them. While the reservoir has room every
value is kept; after that the n-th value takes a slot drawn among n, so that every value has the
same chance to be in the sample.
-/

namespace Telemetry

structure Histogram where
  count : UInt64
  reservoir : Array Int64
  /-- The room of the reservoir. -/
  room : Nat
  /-- The state of the generator that draws the slots. -/
  seed : UInt64
  deriving DecidableEq, Repr

namespace Histogram

def defaultRoom : Nat := 1028

/-- A reservoir has room for one value at least. -/
def new (room : Nat) : Histogram := ⟨0, #[], max room 1, 0⟩

/-- The next state of a linear congruential generator. -/
def nextSeed (seed : UInt64) : UInt64 :=
  seed * 6364136223846793005 + 1442695040888963407

/-- A slot below `bound`. -/
def draw (seed : UInt64) (bound : Nat) : Nat :=
  (seed >>> 11).toNat % bound

def update (h : Histogram) (v : Int64) : Histogram :=
  let count := h.count + 1
  if h.reservoir.size < h.room then { h with count, reservoir := h.reservoir.push v }
  else
    let seed := nextSeed h.seed
    { h with count, seed, reservoir := h.reservoir.setIfInBounds (draw seed count.toNat) v }

def sample (h : Histogram) : Sample := .ofList h.reservoir.toList

end Histogram

end Telemetry
