import Mathlib.Data.List.DropRight
import Mathlib.Tactic.Common
import Telemetry.Text.Blank

/-!
# Trimmed texts

Trimming a text a second time changes nothing, so a trimmed text is blank only if it is empty.
-/

namespace Telemetry.Text

lemma dropEndWhile_eq_rdropWhile (p : Char → Bool) (cs : List Char) :
    dropEndWhile p cs = cs.rdropWhile p := by
  induction cs with
  | nil => rfl
  | cons c cs ih =>
    have hcons : (c :: cs).rdropWhile p = if (cs.rdropWhile p).isEmpty then [c].rdropWhile p
        else c :: cs.rdropWhile p := by
      simp only [List.rdropWhile, List.reverse_cons, List.dropWhile_append, List.isEmpty_reverse]
      split <;> simp
    rw [hcons, dropEndWhile, ih]
    cases cs.rdropWhile p with
    | nil => by_cases hc : p c <;> simp [hc, List.rdropWhile]
    | cons d ds => rfl

lemma trimChars_eq (cs : List Char) :
    trimChars cs = (cs.dropWhile isBlank).rdropWhile isBlank :=
  dropEndWhile_eq_rdropWhile isBlank _

lemma trimChars_trimChars (cs : List Char) : trimChars (trimChars cs) = trimChars cs := by
  have hhead : (trimChars cs).dropWhile isBlank = trimChars cs := by
    rw [List.dropWhile_eq_self_iff]
    intro hlength
    -- what is left begins as the text does without its leading blanks
    have hstart : trimChars cs <+: cs.dropWhile isBlank := by
      rw [trimChars_eq]
      exact List.rdropWhile_prefix isBlank _
    rw [hstart.getElem hlength]
    exact List.dropWhile_eq_self_iff.1 (List.dropWhile_idempotent _ _) _
  rw [trimChars_eq (trimChars cs), hhead, trimChars_eq cs]
  exact List.rdropWhile_idempotent _ _

lemma subset_of_trimChars (cs : List Char) : trimChars cs ⊆ cs := by
  rw [trimChars_eq]
  exact List.Subset.trans (List.rdropWhile_prefix isBlank _).subset
    (List.dropWhile_suffix isBlank).subset

/-- A text is trimmed if its ends are not blank. -/
lemma trimChars_eq_self_iff {cs : List Char} : trimChars cs = cs ↔
    (∀ c ∈ cs.head?, isBlank c = false) ∧ ∀ c ∈ cs.getLast?, isBlank c = false := by
  constructor
  · intro h
    have hdrop : cs.dropWhile isBlank = cs := by
      have hsuffix := List.dropWhile_suffix (l := cs) isBlank
      apply hsuffix.eq_of_length_le
      have hprefix := (List.rdropWhile_prefix isBlank (cs.dropWhile isBlank)).length_le
      rwa [← trimChars_eq, h] at hprefix
    have hrdrop : cs.rdropWhile isBlank = cs := by
      rwa [trimChars_eq, hdrop] at h
    constructor
    · intro c hc
      obtain ⟨r, rfl⟩ := List.head?_eq_some_iff.1 hc
      have hfirst := List.dropWhile_eq_self_iff.1 hdrop (Nat.succ_pos r.length)
      exact eq_false_of_ne_true hfirst
    · intro c hc
      obtain ⟨r, rfl⟩ := List.getLast?_eq_some_iff.1 hc
      simpa using List.rdropWhile_eq_self_iff.1 hrdrop (by simp)
  · rintro ⟨hhead, hlast⟩
    have hdrop : cs.dropWhile isBlank = cs := by
      cases cs with
      | nil => rfl
      | cons c r => rw [List.dropWhile_cons_of_neg (by simp [hhead c rfl])]
    have hrdrop : cs.rdropWhile isBlank = cs := by
      rw [List.rdropWhile_eq_self_iff]
      intro hne
      simp [hlast _ (List.getLast?_eq_some_getLast hne)]
    rw [trimChars_eq, hdrop, hrdrop]

@[simp] lemma trim_trim (s : String) : trim (trim s) = trim s := by
  simp [trim, trimChars_trimChars]

lemma blank_eq_false_iff {s : String} : blank s = false ↔ trim s ≠ "" := by
  simp [blank]

end Telemetry.Text
