import Mathlib.Algebra.Ring.Int.Defs
import Telemetry.Proofs.IdleBaseline

/-!
# How far a count is above its baseline

Counts and baselines are words, and a word cannot hold every distance between two words. The delta
of a count is exact as long as the distance is a word itself. It is an overflow otherwise, or it
wraps to a negative one, which is never taken for no movement.
-/

namespace Telemetry

open Number (WordArithmetic)

namespace Number.WordArithmetic

variable {m : WordArithmetic} {a b : Int64}

lemma toInt_sub_of_le (h : b ≤ a) :
    (a - b).toInt = a.toInt - b.toInt - if a.toInt - b.toInt < 2 ^ 63 then 0 else 2 ^ 64 := by
  have hle := Int64.le_iff_toInt_le.1 h
  have ha := a.toInt_lt
  have hb := b.le_toInt
  rw [Int64.toInt_sub, Int.bmod_def]
  split <;> split <;> omega

lemma minus_of_near (h : b ≤ a) (hnear : a.toInt - b.toInt < 2 ^ 63) :
    m.minus a b = .ok (a - b) ∧ (a - b).toInt = a.toInt - b.toInt := by
  have hexact : (a - b).toInt = a.toInt - b.toInt := by
    rw [toInt_sub_of_le h, if_pos hnear, Int.sub_zero]
  refine ⟨?_, hexact⟩
  cases m with
  | checked => exact if_pos hexact
  | wrapping => rfl

lemma minus_checked_of_far (h : b ≤ a) (hfar : 2 ^ 63 ≤ a.toInt - b.toInt) :
    checked.minus a b = .error ⟨a, b⟩ := by
  refine if_neg ?_
  rw [toInt_sub_of_le h, if_neg (Int.not_lt.2 hfar)]
  omega

end Number.WordArithmetic

namespace IdleTracker

variable {t : IdleTracker} {m : WordArithmetic} {name : String} {count before : Int64}

lemma delta_of_lt (h : t.previous name = some before) (hlt : count < before) :
    t.delta m name count = .ok (some 0) := by
  simp only [delta, h]
  rw [if_pos hlt]

lemma delta_of_le (h : t.previous name = some before) (hle : before ≤ count) :
    t.delta m name count = (m.minus count before).map some := by
  simp only [delta, h]
  rw [if_neg (Int64.not_lt.2 hle)]

lemma delta_eq_none_iff : t.delta m name count = .ok none ↔ t.previous name = none := by
  cases h : t.previous name with
  | none => simp [delta, h]
  | some before =>
    rcases Int64.lt_or_le count before with hlt | hle
    · simp [delta_of_lt h hlt]
    · rw [delta_of_le h hle]
      cases m.minus count before <;> simp [Except.map]

/-- The count is so far above its baseline that no word tells how far. -/
def Far (t : IdleTracker) (name : String) (count : Int64) : Prop :=
  ∃ before, t.previous name = some before ∧ 2 ^ 63 ≤ count.toInt - before.toInt

lemma le_of_far (hfar : 2 ^ 63 ≤ count.toInt - before.toInt) : before ≤ count :=
  Int64.le_iff_toInt_le.2 (by omega)

lemma delta_of_near (h : t.previous name = some before) (hle : before ≤ count)
    (hnear : count.toInt - before.toInt < 2 ^ 63) :
    ∃ d, d.toInt = count.toInt - before.toInt ∧ 0 ≤ d ∧
      ∀ m, t.delta m name count = .ok (some d) := by
  have hdistance := Int64.le_iff_toInt_le.1 hle
  have hexact := (WordArithmetic.minus_of_near (m := .wrapping) hle hnear).2
  refine ⟨count - before, hexact, ?_, fun m => ?_⟩
  · rw [Int64.le_iff_toInt_le, hexact, Int64.toInt_zero]
    omega
  · rw [delta_of_le h hle, (WordArithmetic.minus_of_near hle hnear).1]
    rfl

lemma delta_wrapping_of_far (h : t.previous name = some before)
    (hfar : 2 ^ 63 ≤ count.toInt - before.toInt) :
    ∃ d, d.toInt = count.toInt - before.toInt - 2 ^ 64 ∧ d < 0 ∧
      t.delta .wrapping name count = .ok (some d) := by
  have hle := le_of_far hfar
  have hcount := count.toInt_lt
  have hlow := before.le_toInt
  have hwrapped : (count - before).toInt = count.toInt - before.toInt - 2 ^ 64 := by
    rw [WordArithmetic.toInt_sub_of_le hle, if_neg (Int.not_lt.2 hfar)]
  refine ⟨count - before, hwrapped, ?_, delta_of_le h hle⟩
  rw [Int64.lt_iff_toInt_lt, hwrapped, Int64.toInt_zero]
  omega

lemma delta_checked_of_far (h : t.previous name = some before)
    (hfar : 2 ^ 63 ≤ count.toInt - before.toInt) :
    t.delta .checked name count = .error ⟨count, before⟩ := by
  have hle := le_of_far hfar
  rw [delta_of_le h hle, WordArithmetic.minus_checked_of_far hle hfar]
  rfl

/-- Near its baseline a count is treated alike in all arithmetics. -/
lemma delta_of_not_far (h : ¬t.Far name count) :
    ∃ d, ∀ m, t.delta m name count = .ok d := by
  cases hp : t.previous name with
  | none => exact ⟨none, fun m => delta_eq_none_iff.2 hp⟩
  | some before =>
    rcases Int64.lt_or_le count before with hlt | hle
    · exact ⟨some 0, fun m => delta_of_lt hp hlt⟩
    · have hnear : count.toInt - before.toInt < 2 ^ 63 :=
        Int.not_le.1 fun hfar => h ⟨before, hp, hfar⟩
      refine ⟨some (count - before), fun m => ?_⟩
      rw [delta_of_le hp hle, (WordArithmetic.minus_of_near hle hnear).1]
      rfl

lemma delta_wrapping (t : IdleTracker) (name : String) (count : Int64) :
    ∃ d, t.delta .wrapping name count = .ok d := by
  unfold delta
  split
  · exact ⟨_, rfl⟩
  · split <;> exact ⟨_, rfl⟩

lemma check_wrapping (t : IdleTracker) (name : String) (count : Int64) :
    t.check .wrapping name count = .ok (t.idle name count, t.observe name count) := by
  obtain ⟨d, hd⟩ := t.delta_wrapping name count
  rw [check, observe, idle, hd]
  by_cases h : d = some 0 <;> simp [Except.map, Except.toOption, h]

/-- A check that comes to an end answers as if differences wrapped. -/
lemma check_eq (t : IdleTracker) (m : WordArithmetic) (name : String) (count : Int64) :
    t.check m name count =
      (t.delta m name count).map fun _ => (t.idle name count, t.observe name count) := by
  by_cases hfar : t.Far name count
  · cases m with
    | wrapping =>
      obtain ⟨d, hd⟩ := t.delta_wrapping name count
      rw [check_wrapping, hd]
      rfl
    | checked =>
      obtain ⟨before, hbefore, hdistance⟩ := hfar
      rw [check, delta_checked_of_far hbefore hdistance]
      rfl
  · obtain ⟨d, hd⟩ := delta_of_not_far hfar
    have hwrapping := t.check_wrapping name count
    rw [check, hd] at hwrapping
    rw [check, hd, hwrapping]
    rfl

/-- A count that is looked at first becomes the baseline. -/
lemma check_empty (m : WordArithmetic) (name : String) (count : Int64) :
    empty.check m name count = .ok (false, empty.observe name count) ∧
      (empty.observe name count).previous name = some count := by
  have hidle : empty.idle name count = false := by
    rw [← Bool.not_eq_true, idle_iff, previous_empty]
    simp
  constructor
  · rw [check_eq, hidle, delta_eq_none_iff.2 (previous_empty name)]
    rfl
  · rw [previous_observe, if_pos ⟨rfl, by simp [hidle]⟩]

end IdleTracker

end Telemetry
