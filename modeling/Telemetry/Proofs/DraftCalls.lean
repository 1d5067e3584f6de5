import Mathlib.Tactic.Common
import Telemetry.Record.Basic

/-!
# Records that drafts lead to

A record comes from a sequence of calls on a new draft. Whatever the calls are, each field holds
the token of an encodable value, and every token but that of a text is made of bare characters.
-/

namespace Telemetry

namespace Draft

/-- One call on a draft. -/
inductive Call where
  | tag (k v : String)
  | tags (ps : List (String × String))
  | field (k : String) (v : FieldValue)

def apply (d : Draft) : Call → Draft
  | .tag k v => d.tag k v
  | .tags ps => d.tagAll ps
  | .field k v => d.field k v

def applyAll (d : Draft) (calls : List Call) : Draft :=
  calls.foldl apply d

/-- Every field holds the token of an encodable value. -/
def Tokened (d : Draft) : Prop :=
  ∀ k t, d.fields.get? k = some t → ∃ v : FieldValue, v.encodable = true ∧ v.token = t

lemma tokened_new (name : String) (timestamp : Int64) : (new name timestamp).Tokened := by
  intro k t h
  simp [new] at h

lemma tokened_apply {d : Draft} (hd : d.Tokened) (call : Call) : (d.apply call).Tokened := by
  intro k t h
  cases call with
  | tag q v => exact hd k t h
  | tags ps => exact hd k t h
  | field q v =>
    rw [apply, get?_fields_field] at h
    split at h
    · rename_i hv
      exact ⟨v, hv.2, Option.some.inj h⟩
    · exact hd k t h

lemma tokened_applyAll {d : Draft} (hd : d.Tokened) (calls : List Call) :
    (d.applyAll calls).Tokened := by
  induction calls generalizing d with
  | nil => exact hd
  | cons call calls ih => exact ih (tokened_apply hd call)

/-- Building keeps everything and asks for a name and a field. -/
lemma build_eq_ok_iff {d : Draft} {r : Record} :
    d.build = .ok r ↔
      d.name ≠ "" ∧ d.fields.entries ≠ [] ∧ r = ⟨d.name, d.tags, d.fields, d.timestamp⟩ := by
  unfold build
  by_cases hn : d.name = ""
  · simp [hn]
  · by_cases hf : d.fields.entries = []
    · simp [hn, hf, Dict.isEmpty]
    · simp only [String.isEmpty_iff, hn, Dict.isEmpty, List.isEmpty_iff, hf, if_false,
        Except.ok.injEq, ne_eq, not_false_eq_true, true_and]
      exact eq_comm

end Draft

/-- Some calls on a new draft lead to the record. -/
def Record.Built (r : Record) : Prop :=
  ∃ name timestamp calls, ((Draft.new name timestamp).applyAll calls).build = .ok r

lemma Record.Built.fields_ne_nil {r : Record} (h : r.Built) : r.fields.entries ≠ [] := by
  obtain ⟨name, timestamp, calls, hb⟩ := h
  obtain ⟨_, hf, rfl⟩ := Draft.build_eq_ok_iff.1 hb
  exact hf

lemma Record.Built.token {r : Record} (h : r.Built) {e : String × String}
    (he : e ∈ r.fields.entries) : ∃ v : FieldValue, v.encodable = true ∧ v.token = e.2 := by
  obtain ⟨name, timestamp, calls, hb⟩ := h
  obtain ⟨_, _, rfl⟩ := Draft.build_eq_ok_iff.1 hb
  have ht := Draft.tokened_applyAll (Draft.tokened_new name timestamp) calls
  exact ht e.1 e.2 (Dict.mem_entries_iff.1 he)

namespace Number

lemma isDigit_of_mem_ofUnits {n : Nat} {unit : Int} {c : Char}
    (h : c ∈ (Decimal.ofUnits n unit).digits) : c.isDigit = true := by
  simp only [Decimal.ofUnits, List.mem_reverse] at h
  have hd : c ∈ (Nat.toDigits 10 n).reverse := (List.dropWhile_sublist _).subset h
  exact Nat.isDigit_of_mem_toDigits (by decide) (by decide) (List.mem_reverse.1 hd)

lemma isDigit_of_mem_shortest {b : Binary} {c : Char} (h : c ∈ b.shortest.digits) :
    c.isDigit = true := by
  unfold Binary.shortest at h
  dsimp only at h
  generalize hs : (List.range' 1 17).findSome? _ = attempt at h
  cases attempt with
  | none => exact isDigit_of_mem_ofUnits h
  | some d =>
    obtain ⟨count, _, hc⟩ := List.exists_of_findSome?_eq_some hs
    obtain ⟨n, _, rfl⟩ := Option.map_eq_some_iff.1 hc
    exact isDigit_of_mem_ofUnits h

lemma mem_positional {d : Decimal} (hd : ∀ c ∈ d.digits, c.isDigit = true) {c : Char}
    (h : c ∈ d.positional) : c.isDigit = true ∨ c = '.' := by
  have hz : ∀ n, c ∈ zeros n → c.isDigit = true := by
    intro n hn
    rw [(List.mem_replicate.1 hn).2]
    rfl
  unfold Decimal.positional at h
  dsimp only at h
  split at h
  · simp only [List.mem_cons, List.mem_append] at h
    rcases h with rfl | rfl | h | h
    · exact .inl rfl
    · exact .inr rfl
    · exact .inl (hz _ h)
    · exact .inl (hd c h)
  · split at h
    · rcases List.mem_append.1 h with h | h
      · exact .inl (hd c h)
      · exact .inl (hz _ h)
    · simp only [List.mem_append, List.mem_cons] at h
      rcases h with h | rfl | h
      · exact .inl (hd c (List.mem_of_mem_take h))
      · exact .inr rfl
      · exact .inl (hd c (List.mem_of_mem_drop h))

/-- A finite number is written with digits, a point and a minus sign only. -/
lemma mem_floatText {x : Float} (hx : isFinite x = true) {c : Char}
    (h : c ∈ (floatText x).toList) : c.isDigit = true ∨ c = '.' ∨ c = '-' := by
  unfold isFinite at hx
  rw [floatText, String.toList_ofList] at h
  cases hs : shape x with
  | nan => simp [hs] at hx
  | infinite negative => simp [hs] at hx
  | finite negative b =>
    rw [hs, Shape.chars] at h
    have hb : c ∈ b.chars → c.isDigit = true ∨ c = '.' := by
      intro hc
      unfold Binary.chars at hc
      split at hc
      · rw [List.mem_singleton.1 hc]
        exact .inl rfl
      · exact mem_positional (fun _ => isDigit_of_mem_shortest) hc
    rcases List.mem_append.1 h with h | h
    · cases negative with
      | true => exact .inr (.inr (List.mem_singleton.1 h))
      | false => simp at h
    · rcases hb h with h | h
      · exact .inl h
      · exact .inr (.inl h)

end Number

namespace Text

lemma mem_intDigits {i : Int} {c : Char} (h : c ∈ intDigits i) : c.isDigit = true ∨ c = '-' := by
  have hd : c ∈ natDigits i.natAbs → c.isDigit = true :=
    Nat.isDigit_of_mem_toDigits (by decide) (by decide)
  unfold intDigits at h
  split at h
  · rcases List.mem_cons.1 h with rfl | h
    · exact .inr rfl
    · exact .inl (hd h)
  · exact .inl (hd h)

end Text

namespace Line

/-- A character that means nothing but itself anywhere in a line. -/
def Bare (c : Char) : Prop :=
  c ∉ '\n' :: '\\' :: '"' :: separators

instance (c : Char) : Decidable (Bare c) :=
  inferInstanceAs (Decidable (c ∉ _))

lemma bare_of_isDigit {c : Char} (h : c.isDigit = true) : Bare c := by
  intro hm
  simp only [separators, List.mem_cons, List.not_mem_nil, or_false] at hm
  rcases hm with rfl | rfl | rfl | rfl | rfl | rfl <;> simp at h

/-- The token of a value that is no text needs no quotes. -/
lemma bare_of_mem_token {v : FieldValue} (hv : v.encodable = true)
    (ht : ∀ s, v ≠ .text s) {c : Char} (hc : c ∈ v.token.toList) : Bare c := by
  cases v with
  | integer v =>
    simp only [FieldValue.token, Text.intText, String.toList_append, String.toList_ofList,
      List.mem_append] at hc
    rcases hc with hc | hc
    · rcases Text.mem_intDigits hc with h | rfl
      · exact bare_of_isDigit h
      · decide
    · rw [List.mem_singleton.1 hc]
      decide
  | float v =>
    rcases Number.mem_floatText hv hc with h | rfl | rfl
    · exact bare_of_isDigit h
    · decide
    · decide
  | boolean v =>
    have hall : (FieldValue.boolean v).token.toList.all (decide <| Bare ·) = true := by
      cases v <;> rfl
    exact of_decide_eq_true (List.all_eq_true.1 hall c hc)
  | text s => exact absurd rfl (ht s)

end Line

end Telemetry
