import Mathlib.Logic.Function.Basic
import Mathlib.Tactic.Common
import Telemetry.Line.Escape

/-!
# Unescaping

Escaping loses nothing, with any set of characters. How to undo it depends on whether the set lists
the backslash. If not, a backslash that was put in is told from one of the text by the character
behind it, which is in the set. If so, each backslash of the text stands behind one that was put in.
-/

namespace Telemetry.Line

/-- Drops each character that stands directly before one of the set. -/
def dropBefore (set : List Char) : List Char → List Char
  | [] => []
  | c :: r => if r.head?.any (· ∈ set) then dropBefore set r else c :: dropBefore set r

/-- Drops each backslash and keeps the character behind it, which may be a backslash too. -/
def dropBackslashes : List Char → List Char
  | [] => []
  | [c] => if c = '\\' then [] else [c]
  | c :: d :: r =>
    if c = '\\' then d :: dropBackslashes r else c :: dropBackslashes (d :: r)

def unescapeChars (set cs : List Char) : List Char :=
  if '\\' ∈ set then dropBackslashes cs else dropBefore set cs

/-- The text that was escaped. -/
def unescape (set : List Char) (s : String) : String :=
  String.ofList (unescapeChars set s.toList)

variable {set : List Char}

lemma dropBefore_cons_cons_of_mem {d : Char} (hd : d ∈ set) (c : Char) (r : List Char) :
    dropBefore set (c :: d :: r) = dropBefore set (d :: r) := by
  have hhead : (d :: r).head?.any (· ∈ set) = true := by simpa using hd
  rw [dropBefore, if_pos hhead]

lemma dropBefore_cons_of_head {r : List Char} (hr : ∀ d ∈ r.head?, d ∉ set) (c : Char) :
    dropBefore set (c :: r) = c :: dropBefore set r := by
  have hhead : ¬r.head?.any (· ∈ set) = true := by simpa [Option.any_eq_true] using hr
  rw [dropBefore, if_neg hhead]

@[simp] lemma dropBackslashes_backslash (c : Char) (r : List Char) :
    dropBackslashes ('\\' :: c :: r) = c :: dropBackslashes r := by
  rw [dropBackslashes, if_pos rfl]

lemma dropBackslashes_cons {c : Char} (hc : c ≠ '\\') (r : List Char) :
    dropBackslashes (c :: r) = c :: dropBackslashes r := by
  cases r with
  | nil => exact if_neg hc
  | cons d r => rw [dropBackslashes, if_neg hc]

/-- A set without the backslash holds no first character of an escaped text. -/
lemma not_mem_of_mem_head?_escapeChars (hset : '\\' ∉ set) {s : List Char} :
    ∀ d ∈ (escapeChars set s).head?, d ∉ set := by
  intro d hd
  cases s with
  | nil => cases hd
  | cons c s =>
    by_cases hc : c ∈ set
    · rw [escapeChars, if_pos hc] at hd
      cases hd
      exact hset
    · rw [escapeChars, if_neg hc] at hd
      cases hd
      exact hc

/-- Each character of the set drops the backslash that was put before it. No character of the text
is dropped, as what is written behind it is never in the set. -/
lemma dropBefore_escapeChars (hset : '\\' ∉ set) (s : List Char) :
    dropBefore set (escapeChars set s) = s := by
  induction s with
  | nil => rfl
  | cons c s ih =>
    have hkept : dropBefore set (c :: escapeChars set s) = c :: s := by
      rw [dropBefore_cons_of_head (not_mem_of_mem_head?_escapeChars hset), ih]
    by_cases hc : c ∈ set
    · rw [escapeChars, if_pos hc, dropBefore_cons_cons_of_mem hc, hkept]
    · rw [escapeChars, if_neg hc, hkept]

lemma dropBackslashes_escapeChars (hset : '\\' ∈ set) (s : List Char) :
    dropBackslashes (escapeChars set s) = s := by
  induction s with
  | nil => rfl
  | cons c s ih =>
    by_cases hc : c ∈ set
    · rw [escapeChars, if_pos hc, dropBackslashes_backslash, ih]
    · have hbackslash : c ≠ '\\' := fun h => hc (h ▸ hset)
      rw [escapeChars, if_neg hc, dropBackslashes_cons hbackslash, ih]

lemma unescapeChars_escapeChars (set s : List Char) :
    unescapeChars set (escapeChars set s) = s := by
  unfold unescapeChars
  split
  · rename_i hset
    exact dropBackslashes_escapeChars hset s
  · rename_i hset
    exact dropBefore_escapeChars hset s

/-- Neither way would do with the other sets: two backslashes come back as one. -/
example :
    dropBackslashes (escapeChars [','] ['\\', '\\']) = ['\\'] ∧
      dropBefore [',', '\\'] (escapeChars [',', '\\'] ['\\', '\\']) = ['\\'] := by
  decide

lemma unescape_escape (set : List Char) (s : String) : unescape set (escape set s) = s := by
  rw [unescape, toList_escape, unescapeChars_escapeChars, String.ofList_toList]

lemma escape_append (set : List Char) (s t : String) :
    escape set (s ++ t) = escape set s ++ escape set t := by
  apply String.toList_inj.1
  rw [toList_escape, String.toList_append, escapeChars_append, String.toList_append,
    toList_escape, toList_escape]

/-- Escaping adds one character for each of the set. -/
lemma length_escapeChars (set s : List Char) :
    (escapeChars set s).length = s.length + s.countP (· ∈ set) := by
  induction s with
  | nil => rfl
  | cons c s ih =>
    by_cases hc : c ∈ set
    · rw [escapeChars, if_pos hc, List.countP_cons_of_pos (by simpa using hc)]
      simp only [List.length_cons, ih]
      omega
    · rw [escapeChars, if_neg hc, List.countP_cons_of_neg (by simpa using hc)]
      simp only [List.length_cons, ih]
      omega

lemma plain_iff {s : String} : plain set s = true ↔ ∀ c ∈ s.toList, c ∉ set := by
  simp [plain]

lemma escapeChars_eq_self_iff {s : List Char} : escapeChars set s = s ↔ ∀ c ∈ s, c ∉ set := by
  constructor
  · intro h
    have hlength := length_escapeChars set s
    rw [h, Nat.left_eq_add, List.countP_eq_zero] at hlength
    simpa using hlength
  · exact escapeChars_of_plain

/-- Whatever the set, `unescape` undoes escaping, so that different texts stay different. Joined
texts are escaped one by one, and a text stays as it is exactly if it has none of the set. -/
theorem escape_lossless (set : List Char) :
    Function.LeftInverse (unescape set) (escape set) ∧
    Function.Injective (escape set) ∧
    (∀ s t, escape set (s ++ t) = escape set s ++ escape set t) ∧
    ∀ s, escape set s = String.ofList (escapeChars set s.toList) ∧
      (plain set s = true ↔ ∀ c ∈ s.toList, c ∉ set) ∧
      (plain set s = true ↔ String.ofList (escapeChars set s.toList) = s) := by
  have hinverse : Function.LeftInverse (unescape set) (escape set) := unescape_escape set
  refine ⟨hinverse, hinverse.injective, escape_append set, fun s => ⟨?_, plain_iff, ?_⟩⟩
  · rw [← toList_escape, String.ofList_toList]
  · rw [plain_iff, ← escapeChars_eq_self_iff, ← String.toList_inj, String.toList_ofList]

/-- The escaped form of one text can be another text, which is escaped again. -/
theorem escape_lossless_tangled :
    escape [','] "," = "\\," ∧ escape [','] "\\," = "\\\\," ∧
    unescape [','] "\\\\," = "\\," ∧ escape [','] "\\," ≠ escape [','] "," ∧
    escape [',', '\\'] "\\," = "\\\\\\," ∧ unescape [',', '\\'] "\\\\\\," = "\\," := by
  obtain ⟨hunlisted, hinjective, _, hloop⟩ := escape_lossless [',']
  obtain ⟨hlisted, _, _, hlistedLoop⟩ := escape_lossless [',', '\\']
  have hcomma : escape [','] "," = "\\," := by
    rw [(hloop ",").1]
    decide +kernel
  have hboth : escape [','] "\\," = "\\\\," := by
    rw [(hloop "\\,").1]
    decide +kernel
  have hlistedBoth : escape [',', '\\'] "\\," = "\\\\\\," := by
    rw [(hlistedLoop "\\,").1]
    decide +kernel
  refine ⟨hcomma, hboth, ?_, ?_, hlistedBoth, ?_⟩
  · rw [← hboth]
    exact hunlisted "\\,"
  · exact hinjective.ne (by decide)
  · rw [← hlistedBoth]
    exact hlisted "\\,"

end Telemetry.Line
