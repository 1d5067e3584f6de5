import Mathlib.Data.Set.Card
import Telemetry.Proofs.IdleBaseline

/-!
# Running maxima

Names are checked, forgotten and pruned in any order. The baseline of a name is then the greatest
count that it was checked with since it was dropped last, and a count is idle when it does not rise
above that one.
-/

namespace Telemetry.IdleTracker

/-- A use of a tracker. A prune asks of each name whether it is live. -/
inductive Call where
  | check (name : String) (count : Int64)
  | delta (name : String) (count : Int64)
  | forget (name : String)
  | retain (live : String → Bool)

/-- The only name that the call is about. -/
def Call.name? : Call → Option String
  | check name _ | delta name _ | forget name => some name
  | retain _ => none

def call (t : IdleTracker) : Call → IdleTracker
  | .check name count => t.observe name count
  | .delta _ _ => t
  | .forget name => t.forget name
  | .retain live => t.retain live

def run (t : IdleTracker) (calls : List Call) : IdleTracker :=
  calls.foldl call t

/-- What is checked of a name goes on a list, which starts anew when the name is dropped. -/
def note (name : String) (counts : List Int64) : Call → List Int64
  | .check other count => if other = name then count :: counts else counts
  | .delta _ _ => counts
  | .forget other => if other = name then [] else counts
  | .retain live => if live name then counts else []

/-- The counts that a name was checked with since it was dropped last, the latest first. -/
def checked (name : String) (calls : List Call) : List Int64 :=
  calls.foldl (note name) []

variable {t : IdleTracker} {name : String} {counts : List Int64}

lemma previous_call_of_ne {c : Call} {other : String} (hc : c.name? = some other)
    (hne : other ≠ name) : (t.call c).previous name = t.previous name := by
  cases c with
  | check _ count =>
    cases hc
    rw [call, previous_observe, if_neg fun h => hne h.1]
  | delta _ _ => rfl
  | forget _ =>
    cases hc
    rw [call, previous_forget, if_neg hne]
  | retain live => cases hc

lemma Knows.call (h : t.Knows name counts) (c : Call) :
    (t.call c).Knows name (note name counts c) := by
  cases c with
  | check other count =>
    by_cases hother : other = name
    · subst hother
      rw [note, if_pos rfl]
      exact h.observe count
    · rw [note, if_neg hother]
      exact h.congr (previous_call_of_ne rfl hother)
  | delta _ _ => exact h
  | forget other =>
    by_cases hother : other = name
    · rw [note, if_pos hother]
      apply knows_nil
      rw [IdleTracker.call, previous_forget, if_pos hother]
    · rw [note, if_neg hother]
      exact h.congr (previous_call_of_ne rfl hother)
  | retain live =>
    by_cases hlive : live name = true
    · rw [note, if_pos hlive]
      apply h.congr
      rw [IdleTracker.call, previous_retain, if_pos hlive]
    · rw [note, if_neg hlive]
      apply knows_nil
      rw [IdleTracker.call, previous_retain, if_neg hlive]

lemma Knows.run (h : t.Knows name counts) (calls : List Call) :
    (t.run calls).Knows name (calls.foldl (note name) counts) := by
  induction calls generalizing t counts with
  | nil => exact h
  | cons c calls ih => exact ih (h.call c)

lemma knows_run (name : String) (calls : List Call) :
    (empty.run calls).Knows name (checked name calls) :=
  (knows_nil rfl).run calls

namespace Knows

/-- Whoever knows which counts are idle knows the greatest of them. -/
lemma previous_eq_some_iff (h : t.Knows name counts) {b : Int64} :
    t.previous name = some b ↔ b ∈ counts ∧ ∀ k ∈ counts, k ≤ b := by
  have hidle (k : Int64) : (∃ p, t.previous name = some p ∧ k ≤ p) ↔ ∃ j ∈ counts, k ≤ j :=
    idle_iff.symm.trans (h k)
  constructor
  · intro hb
    have hbound : ∀ k ∈ counts, k ≤ b := by
      intro k hk
      obtain ⟨p, hp, hle⟩ := (hidle k).2 ⟨k, hk, Int64.le_refl k⟩
      rw [hb] at hp
      cases hp
      exact hle
    obtain ⟨j, hj, hle⟩ := (hidle b).1 ⟨b, hb, Int64.le_refl b⟩
    exact ⟨Int64.le_antisymm hle (hbound j hj) ▸ hj, hbound⟩
  · rintro ⟨hmem, hbound⟩
    obtain ⟨p, hp, hle⟩ := (hidle b).2 ⟨b, hmem, Int64.le_refl b⟩
    obtain ⟨j, hj, hpj⟩ := (hidle p).1 ⟨p, hp, Int64.le_refl p⟩
    rw [hp, Int64.le_antisymm (Int64.le_trans hpj (hbound j hj)) hle]

lemma previous_eq_none_iff (h : t.Knows name counts) : t.previous name = none ↔ counts = [] := by
  constructor
  · intro hnone
    rw [List.eq_nil_iff_forall_not_mem]
    intro k hk
    obtain ⟨p, hp, _⟩ := idle_iff.1 ((h k).2 ⟨k, hk, Int64.le_refl k⟩)
    rw [hnone] at hp
    cases hp
  · rintro rfl
    cases hp : t.previous name with
    | none => rfl
    | some p => exact absurd (h.previous_eq_some_iff.1 hp).1 List.not_mem_nil

end Knows

/-- The size counts the names that have a baseline. -/
lemma encard_previous (t : IdleTracker) : {name | t.previous name ≠ none}.encard = t.size := by
  have hkeys : {name | t.previous name ≠ none} = ↑t.baselines.keys.toFinset := by
    ext name
    rw [Set.mem_ofPred_eq, Option.ne_none_iff_exists', List.coe_toFinset, Set.mem_ofPred_eq,
      Dict.mem_keys_iff]
    rfl
  rw [hkeys, Set.encard_coe_eq_coe_finsetCard, List.toFinset_card_of_nodup t.baselines.nodup_keys,
    Dict.keys, List.length_map]
  rfl

/-- Whatever a tracker is used for, each baseline is the greatest count since the last drop. -/
theorem running_maximum (calls : List Call) :
    let t := empty.run calls
    (∀ name,
      (∀ b, t.previous name = some b ↔
        b ∈ checked name calls ∧ ∀ k ∈ checked name calls, k ≤ b) ∧
      (t.previous name = none ↔ checked name calls = []) ∧
      ∀ count, t.idle name count = true ↔ ∃ b, t.previous name = some b ∧ count ≤ b) ∧
    (∀ name other c, Call.name? c = some other → other ≠ name →
      (t.call c).previous name = t.previous name) ∧
    (∀ name count, t.call (.delta name count) = t) ∧
    {name | t.previous name ≠ none}.encard = t.size := by
  intro t
  refine ⟨fun name => ?_, fun name other c => previous_call_of_ne, fun _ _ => rfl,
    t.encard_previous⟩
  have hknows : t.Knows name (checked name calls) := knows_run name calls
  exact ⟨fun b => hknows.previous_eq_some_iff, hknows.previous_eq_none_iff, fun _ => idle_iff⟩

/-- A count that falls leaves the baseline alone, and so does another name that is pruned. -/
theorem running_maximum_fallen :
    let calls : List Call := [.check "a" (-5), .check "b" 7, .forget "a", .check "a" (-9),
      .check "a" (-20), .delta "a" 3, .retain fun name => name = "a"]
    let t := empty.run calls
    checked "a" calls = [-20, -9] ∧ t.previous "a" = some (-9) ∧ t.idle "a" (-10) = true ∧
      t.previous "b" = none ∧ (t.call (.forget "b")).previous "a" = t.previous "a" ∧
      {name | t.previous name ≠ none}.encard = 1 := by
  intro calls t
  obtain ⟨hnames, hother, _, hsize⟩ := running_maximum calls
  obtain ⟨hsome, _, hidle⟩ := hnames "a"
  have hchecked : checked "a" calls = [-20, -9] := by decide
  have hprevious : t.previous "a" = some (-9) := by
    rw [hsome, hchecked, List.forall_mem_cons, List.forall_mem_singleton]
    exact ⟨List.mem_cons_of_mem _ List.mem_cons_self, by decide, by decide⟩
  refine ⟨hchecked, hprevious, (hidle (-10)).2 ⟨-9, hprevious, by decide⟩, ?_,
    hother "a" "b" (.forget "b") rfl (by decide), hsize⟩
  rw [(hnames "b").2.1]
  decide

end Telemetry.IdleTracker
