import Telemetry.Dict
import Telemetry.Number.Word
import Telemetry.Warning

/-!
# Idle instruments

The tracker remembers for each name the count that was last reported as movement. A count is idle
when it does not rise above that baseline, and a count that falls below it is worth a warning. An
instrument without a baseline is never idle.
-/

namespace Telemetry

open Number (WordArithmetic Overflow)

/-- The last count reported as movement, by name. -/
structure IdleTracker where
  baselines : Dict Int64
  deriving DecidableEq, Repr

namespace IdleTracker

def empty : IdleTracker := ⟨.empty⟩

instance : Inhabited IdleTracker := ⟨empty⟩

def previous (t : IdleTracker) (name : String) : Option Int64 :=
  t.baselines.get? name

/-- How far the count is above the baseline. A fallen count is no movement. -/
def delta (t : IdleTracker) (m : WordArithmetic) (name : String) (count : Int64) :
    Except Overflow (Option Int64) :=
  match t.previous name with
  | none => .ok none
  | some before => if count < before then .ok (some 0) else (m.minus count before).map some

/-- What is to be said about a fallen count. -/
def regression (t : IdleTracker) (name : String) (count : Int64) : List Warning :=
  match t.previous name with
  | some before => if count < before then [.countFell name before count] else []
  | none => []

/-- Whether the count is no movement, and the tracker after it was looked at: movement becomes the
new baseline. -/
def check (t : IdleTracker) (m : WordArithmetic) (name : String) (count : Int64) :
    Except Overflow (Bool × IdleTracker) :=
  (t.delta m name count).map fun d =>
    if d = some 0 then (true, t) else (false, ⟨t.baselines.insert name count⟩)

/-- The answer of the check while differences wrap. -/
def idle (t : IdleTracker) (name : String) (count : Int64) : Bool :=
  (t.delta .wrapping name count).toOption = some (some 0)

/-- The tracker after the check while differences wrap. -/
def observe (t : IdleTracker) (name : String) (count : Int64) : IdleTracker :=
  if t.idle name count then t else ⟨t.baselines.insert name count⟩

def forget (t : IdleTracker) (name : String) : IdleTracker :=
  ⟨t.baselines.erase name⟩

/-- Drops the baselines of all names that are not live. -/
def retain (t : IdleTracker) (live : String → Bool) : IdleTracker :=
  ⟨t.baselines.filter fun name _ => live name⟩

def size (t : IdleTracker) : Nat :=
  t.baselines.size

@[simp] theorem previous_empty (name : String) : empty.previous name = none := rfl

theorem previous_observe (t : IdleTracker) (name other : String) (count : Int64) :
    (t.observe name count).previous other =
      if name = other ∧ ¬t.idle name count then some count else t.previous other := by
  unfold observe
  by_cases h : t.idle name count <;> simp [h, previous]

@[simp] theorem previous_forget (t : IdleTracker) (name other : String) :
    (t.forget name).previous other = if name = other then none else t.previous other :=
  Dict.get?_erase _ _ _

@[simp] theorem previous_retain (t : IdleTracker) (live : String → Bool) (name : String) :
    (t.retain live).previous name = if live name then t.previous name else none :=
  Dict.get?_filter _ _ _

end IdleTracker

end Telemetry
