/-!
# Counters

A counter moves up and down in a signed word and wraps at its ends.
-/

namespace Telemetry

structure Counter where
  count : Int64
  deriving DecidableEq, Repr

namespace Counter

def new : Counter := ⟨0⟩

def increase (c : Counter) (n : Int64) : Counter := ⟨c.count + n⟩

def decrease (c : Counter) (n : Int64) : Counter := ⟨c.count - n⟩

end Counter

end Telemetry
