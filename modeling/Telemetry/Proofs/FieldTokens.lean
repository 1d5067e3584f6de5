import Mathlib.Data.List.TakeWhile
import Telemetry.Proofs.LineRoundTrip

/-!
# The form of tokens

What a token looks like is settled by the kind of its value: digits and an `i`, digits that may have
a point among them, a word, or a text between quotes with a backslash before each quote inside.
-/

namespace Telemetry

namespace Text

/-- One digit or more. -/
def Digits (cs : List Char) : Prop :=
  cs ≠ [] ∧ ∀ c ∈ cs, c.isDigit = true

/-- Digits, or digits on both sides of a point. -/
def Positional (cs : List Char) : Prop :=
  Digits cs ∨ ∃ whole fraction, cs = whole ++ '.' :: fraction ∧ Digits whole ∧ Digits fraction

/-- With a minus sign or without. -/
def Signed (form : List Char → Prop) (cs : List Char) : Prop :=
  form cs ∨ ∃ r, cs = '-' :: r ∧ form r

/-- A backslash stands directly before each quote. -/
def QuotesEscaped (cs : List Char) : Prop :=
  ∀ before after, cs = before ++ '"' :: after → before.getLast? = some '\\'

lemma digits_natDigits (n : Nat) : Digits (natDigits n) :=
  ⟨Nat.toDigits_ne_nil, fun _ hc => Nat.isDigit_of_mem_toDigits (by decide) (by decide) hc⟩

lemma signed_intDigits (i : Int) : Signed Digits (intDigits i) := by
  unfold intDigits
  split
  · exact .inr ⟨_, rfl, digits_natDigits i.natAbs⟩
  · exact .inl (digits_natDigits i.natAbs)

end Text

/-- How a value may be written. -/
def FieldValue.WrittenAs (v : FieldValue) (cs : List Char) : Prop :=
  match v with
  | integer n => ∃ digits, cs = digits ++ ['i'] ∧ Text.Signed Text.Digits digits ∧
      Line.Reader.readInt? digits = some n.toInt
  | float _ => Text.Signed Text.Positional cs
  | boolean b => cs = if b then ['t', 'r', 'u', 'e'] else ['f', 'a', 'l', 's', 'e']
  | text _ => ∃ inner, cs = '"' :: (inner ++ ['"']) ∧ Text.QuotesEscaped inner

namespace Number

/-- A number above zero has a digit that is not zero. -/
lemma ofUnits_digits_ne_nil {n : Nat} (hn : n ≠ 0) (unit : Int) :
    (Decimal.ofUnits n unit).digits ≠ [] := by
  intro hnil
  apply hn
  simp only [Decimal.ofUnits, List.reverse_eq_nil_iff, List.dropWhile_eq_nil_iff, List.mem_reverse,
    beq_iff_eq] at hnil
  have hzeros : Nat.toDigits 10 n = List.replicate (Nat.toDigits 10 n).length '0' :=
    List.eq_replicate_iff.2 ⟨rfl, hnil⟩
  have hvalue := Nat.ofDigitChars_ten_toDigits (n := n)
  rw [hzeros, Nat.ofDigitChars_replicate_zero, Nat.mul_zero] at hvalue
  exact hvalue.symm

namespace Interval

lemma holds_of_nearest? {i : Interval} {n : Nat} (h : i.nearest? = some n) : i.holds n = true := by
  unfold nearest? at h
  dsimp only at h
  split at h
  · rename_i hbelow habove
    split at h
    · cases h
      exact hbelow
    · cases h
      exact habove
  · cases h
    assumption
  · cases h
    assumption
  · cases h

/-- Zero lies in no interval that begins above it. -/
lemma ne_zero_of_holds {i : Interval} (hlow : 0 < i.low) {n : Nat} (h : i.holds n = true) :
    n ≠ 0 := by
  rintro rfl
  unfold holds at h
  rw [Nat.zero_mul] at h
  dsimp only at h
  split at h <;> simp only [Bool.and_eq_true, decide_eq_true_eq] at h <;> omega

lemma low_inUnits {i : Interval} (hlow : 0 < i.low) (unit : Int) : 0 < (i.inUnits unit).low := by
  unfold inUnits
  dsimp only
  split
  · exact Nat.mul_pos hlow (Nat.pow_pos (by decide))
  · exact hlow

end Interval

lemma interval_pos {b : Binary} (hb : b.mantissa ≠ 0) :
    0 < b.interval.low ∧ 0 < b.interval.value := by
  have hlow : 0 < 4 * b.mantissa - (if b.closeBelow then 1 else 2) := by
    split <;> omega
  have hvalue : 0 < 4 * b.mantissa := by omega
  have hpower : 0 < Nat.pow 2 (b.exponent - 2).natAbs := Nat.pow_pos (by decide)
  unfold Binary.interval
  by_cases hexponent : b.exponent < 2
  · simp only [hexponent, if_true]
    exact ⟨Nat.mul_pos hlow Nat.one_pos, Nat.mul_pos hvalue Nat.one_pos⟩
  · simp only [hexponent, if_false]
    exact ⟨Nat.mul_pos hlow hpower, Nat.mul_pos hvalue hpower⟩

lemma digits_shortest {b : Binary} (hb : b.mantissa ≠ 0) : Text.Digits b.shortest.digits := by
  refine ⟨?_, fun _ => isDigit_of_mem_shortest⟩
  unfold Binary.shortest
  dsimp only
  generalize hs : (List.range' 1 17).findSome? _ = attempt
  cases attempt with
  | none => exact ofUnits_digits_ne_nil (Nat.ne_of_gt (interval_pos hb).2) 0
  | some d =>
    obtain ⟨count, _, hc⟩ := List.exists_of_findSome?_eq_some hs
    obtain ⟨n, hn, rfl⟩ := Option.map_eq_some_iff.1 hc
    have hlow := Interval.low_inUnits (interval_pos hb).1
    have hholds := Interval.holds_of_nearest? hn
    exact ofUnits_digits_ne_nil (Interval.ne_zero_of_holds (hlow _) hholds) _

/-- Where the point stands decides which side the zeros are put on. -/
lemma positional_chars {d : Decimal} (hd : Text.Digits d.digits) :
    Text.Positional d.positional := by
  have hzeros (n : Nat) : ∀ c ∈ zeros n, c.isDigit = true := by
    intro c hc
    rw [(List.mem_replicate.1 hc).2]
    rfl
  unfold Decimal.positional
  dsimp only
  split
  · refine .inr ⟨['0'], zeros d.point.natAbs ++ d.digits, rfl, ⟨by simp, by simp⟩, ?_, ?_⟩
    · exact List.append_ne_nil_of_right_ne_nil _ hd.1
    · intro c hc
      rcases List.mem_append.1 hc with hc | hc
      · exact hzeros _ c hc
      · exact hd.2 c hc
  · split
    · refine .inl ⟨List.append_ne_nil_of_left_ne_nil hd.1 _, ?_⟩
      intro c hc
      rcases List.mem_append.1 hc with hc | hc
      · exact hd.2 c hc
      · exact hzeros _ c hc
    · refine .inr ⟨_, _, rfl, ⟨?_, ?_⟩, ?_, ?_⟩
      · have hpos : 0 < d.point.toNat := by omega
        have hlength := List.length_pos_iff.2 hd.1
        rw [← List.length_pos_iff, List.length_take]
        omega
      · exact fun c hc => hd.2 c (List.mem_of_mem_take hc)
      · rw [← List.length_pos_iff, List.length_drop]
        omega
      · exact fun c hc => hd.2 c (List.mem_of_mem_drop hc)

lemma positional_floatText {x : Float} (hx : isFinite x = true) :
    Text.Signed Text.Positional (floatText x).toList := by
  unfold isFinite at hx
  rw [floatText, String.toList_ofList]
  cases hs : shape x with
  | nan => simp [hs] at hx
  | infinite negative => simp [hs] at hx
  | finite negative b =>
    have hb : Text.Positional b.chars := by
      unfold Binary.chars
      split
      · exact .inl ⟨by simp, by simp⟩
      · rename_i hmantissa
        exact positional_chars (digits_shortest hmantissa)
    cases negative with
    | true => exact .inr ⟨b.chars, rfl, hb⟩
    | false => exact .inl hb

end Number

namespace Line

lemma quotesEscaped_escapeChars (s : List Char) : Text.QuotesEscaped (escapeChars ['"'] s) := by
  intro before after h
  induction s generalizing before with
  | nil => simp [escapeChars] at h
  | cons c s ih =>
    by_cases hc : c = '"'
    · rw [escapeChars, if_pos (by simp [hc])] at h
      rcases before with _ | ⟨a, _ | ⟨b, before⟩⟩
      · simp at h
      · simp only [List.cons_append, List.nil_append, List.cons.injEq] at h
        rw [← h.1]
        rfl
      · simp only [List.cons_append, List.cons.injEq] at h
        rw [List.getLast?_cons, List.getLast?_cons, ih before h.2.2]
        rfl
    · rw [escapeChars, if_neg (by simp [hc])] at h
      rcases before with _ | ⟨a, before⟩
      · simp only [List.nil_append, List.cons.injEq] at h
        exact absurd h.1 hc
      · simp only [List.cons_append, List.cons.injEq] at h
        rw [List.getLast?_cons, ih before h.2]
        rfl

end Line

lemma FieldValue.writtenAs_token {v : FieldValue} (hv : v.encodable = true) :
    v.WrittenAs v.token.toList := by
  cases v with
  | integer n =>
    refine ⟨Text.intDigits n.toInt, ?_, Text.signed_intDigits n.toInt,
      Line.Reader.readInt?_intDigits n.toInt⟩
    simp [token, Text.intText]
  | float x => exact Number.positional_floatText hv
  | boolean b => cases b <;> rfl
  | text s => exact ⟨_, Line.toList_text_token s, Line.quotesEscaped_escapeChars s.toList⟩

end Telemetry
