import Mathlib.Tactic.Common
import Telemetry.Idle

/-!
# Idle baselines

A tracker that has looked at some counts of a name takes a further count for idle exactly when it is
not above all of them.
-/

namespace Telemetry.IdleTracker

open Number (WordArithmetic)

lemma idle_iff {t : IdleTracker} {name : String} {k : Int64} :
    t.idle name k = true ↔ ∃ b, t.previous name = some b ∧ k ≤ b := by
  rw [idle, decide_eq_true_iff, delta]
  cases t.previous name with
  | none => simp [Except.toOption]
  | some b =>
    dsimp only
    split
    · rename_i hlt
      simp [Except.toOption, Int64.le_of_lt hlt]
    · rename_i hlt
      have hzero : k - b = 0 ↔ k ≤ b := by
        rw [Int64.sub_eq_iff_eq_add, Int64.zero_add]
        constructor
        · intro h
          rw [h]
          exact Int64.le_refl b
        · intro h
          exact Int64.le_antisymm h (Int64.not_lt.1 hlt)
      simpa [WordArithmetic.minus, Except.map, Except.toOption] using hzero

/-- These are the counts that the tracker has looked at, as far as one can tell. -/
def Knows (t : IdleTracker) (name : String) (counts : List Int64) : Prop :=
  ∀ k, t.idle name k = true ↔ ∃ j ∈ counts, k ≤ j

variable {t : IdleTracker} {name : String}

lemma knows_nil (h : t.previous name = none) : t.Knows name [] := by
  intro k
  rw [idle_iff, h]
  simp

lemma Knows.congr {u : IdleTracker} {counts : List Int64} (h : t.Knows name counts)
    (hp : u.previous name = t.previous name) : u.Knows name counts := by
  intro k
  rw [idle_iff, hp, ← idle_iff]
  exact h k

lemma Knows.observe {counts : List Int64} (h : t.Knows name counts) (count : Int64) :
    (t.observe name count).Knows name (count :: counts) := by
  intro k
  simp only [List.mem_cons, exists_eq_or_imp]
  cases hidle : t.idle name count with
  | true =>
    obtain ⟨j, hj, hle⟩ := (h count).1 hidle
    rw [IdleTracker.observe, if_pos hidle, h k]
    constructor
    · intro hk
      exact .inr hk
    · rintro (hk | hk)
      · exact ⟨j, hj, Int64.le_trans hk hle⟩
      · exact hk
  | false =>
    have habove : ∀ j ∈ counts, j ≤ count := by
      intro j hj
      apply Int64.le_of_lt
      rw [← Int64.not_le]
      intro hle
      have htrue := (h count).2 ⟨j, hj, hle⟩
      rw [hidle] at htrue
      cases htrue
    have hprevious : (t.observe name count).previous name = some count := by
      rw [previous_observe, if_pos ⟨rfl, by simp [hidle]⟩]
    rw [idle_iff, hprevious]
    constructor
    · rintro ⟨b, hb, hle⟩
      rw [Option.some.inj hb]
      exact .inl hle
    · rintro (hk | ⟨j, hj, hk⟩)
      · exact ⟨count, rfl, hk⟩
      · exact ⟨count, rfl, Int64.le_trans hk (habove j hj)⟩

end Telemetry.IdleTracker
