import Mathlib.Algebra.Ring.Nat
import Telemetry.Proofs.LineRoundTrip
import Telemetry.Text.Cut

/-!
# Records and lines

Line feeds are not escaped, so each one in a name, a key, a tag value or a text begins a new line.
A batch has one line for each record exactly if its records hold no line feeds.
-/

namespace Telemetry

namespace Record

/-- The line feeds in keys and in what they are set to. -/
def entryFeeds (es : List (String × String)) : Nat :=
  (es.map fun e => e.1.toList.count '\n' + e.2.toList.count '\n').sum

/-- The line feeds in all parts of the record. -/
def feeds (r : Record) : Nat :=
  r.name.toList.count '\n' + entryFeeds r.tags.entries + entryFeeds r.fields.entries

/-- No part of the record holds a line feed. -/
structure OneLine (r : Record) : Prop where
  name : '\n' ∉ r.name.toList
  tags : ∀ e ∈ r.tags.entries, '\n' ∉ e.1.toList ∧ '\n' ∉ e.2.toList
  fieldKeys : ∀ e ∈ r.fields.entries, '\n' ∉ e.1.toList
  texts : ∀ e ∈ r.fields.entries, ∀ s, e.2 = (FieldValue.text s).token → '\n' ∉ s.toList

end Record

namespace Line

lemma count_escapeChars {set : List Char} {c : Char} (hc : c ≠ '\\') (s : List Char) :
    (escapeChars set s).count c = s.count c := by
  induction s with
  | nil => rfl
  | cons d s ih =>
    by_cases hd : d ∈ set
    · rw [escapeChars, if_pos hd, List.count_cons_of_ne hc.symm, List.count_cons, List.count_cons,
        ih]
    · rw [escapeChars, if_neg hd, List.count_cons, List.count_cons, ih]

/-- A token holds the line feeds of its text. -/
lemma newline_mem_text_token {s : String} :
    '\n' ∈ (FieldValue.text s).token.toList ↔ '\n' ∈ s.toList := by
  rw [toList_text_token, ← List.count_pos_iff, ← List.count_pos_iff,
    List.count_cons_of_ne (by decide), List.count_append, count_escapeChars (by decide)]
  rfl

lemma newline_mem_token_iff {v : FieldValue} (hv : v.encodable = true) :
    '\n' ∈ v.token.toList ↔ ∃ s, v.token = (FieldValue.text s).token ∧ '\n' ∈ s.toList := by
  constructor
  · intro hmem
    by_cases htext : ∃ s, v = .text s
    · obtain ⟨s, rfl⟩ := htext
      exact ⟨s, rfl, newline_mem_text_token.1 hmem⟩
    · have hbare := bare_of_mem_token hv (fun s hs => htext ⟨s, hs⟩) hmem
      exact absurd List.mem_cons_self hbare
  · rintro ⟨s, hs, hmem⟩
    rw [hs]
    exact newline_mem_text_token.2 hmem

lemma count_tagChars (es : List (String × String)) :
    (tagChars es).count '\n' = Record.entryFeeds es := by
  rw [tagChars, List.count_flatMap, Record.entryFeeds]
  congr 1
  apply List.map_congr_left
  intro e _
  simp only [Function.comp_apply]
  rw [List.count_cons_of_ne (by decide), List.count_append, List.count_cons_of_ne (by decide),
    count_escapeChars (by decide), count_escapeChars (by decide)]

lemma count_fieldChars (es : List (String × String)) :
    (fieldChars es).count '\n' = Record.entryFeeds es := by
  induction es with
  | nil => rfl
  | cons e es ih =>
    have hentry : (escapeChars separators e.1.toList ++ '=' :: e.2.toList).count '\n' =
        e.1.toList.count '\n' + e.2.toList.count '\n' := by
      rw [List.count_append, List.count_cons_of_ne (by decide), count_escapeChars (by decide)]
    cases es with
    | nil => simpa [fieldChars, Record.entryFeeds] using hentry
    | cons f es =>
      have hchars : fieldChars (e :: f :: es) =
          (escapeChars separators e.1.toList ++ '=' :: e.2.toList) ++
            ',' :: fieldChars (f :: es) := by
        simp [fieldChars]
      have hfeeds : Record.entryFeeds (e :: f :: es) =
          e.1.toList.count '\n' + e.2.toList.count '\n' + Record.entryFeeds (f :: es) := rfl
      rw [hchars, List.count_append, hentry, List.count_cons_of_ne (by decide), ih, hfeeds]

/-- Writing neither adds line feeds nor takes any away. -/
lemma count_write (precision : TimeUnit) (r : Record) :
    (write precision r).toList.count '\n' = r.feeds := by
  have htime : (Text.intDigits (precision.convertMillis r.timestamp).toInt).count '\n' = 0 := by
    rw [List.count_eq_zero]
    intro hmem
    rcases Text.mem_intDigits hmem with h | h
    · exact absurd h (by decide)
    · exact absurd h (by decide)
  have hspace : [' '].count '\n' = 0 := rfl
  rw [toList_write, List.count_append, List.count_append, List.count_append, List.count_append,
    List.count_append, count_escapeChars (by decide), count_tagChars, count_fieldChars, htime,
    hspace, Record.feeds]
  rfl

lemma entryFeeds_eq_zero_iff {es : List (String × String)} :
    Record.entryFeeds es = 0 ↔ ∀ e ∈ es, '\n' ∉ e.1.toList ∧ '\n' ∉ e.2.toList := by
  simp only [Record.entryFeeds, List.sum_eq_zero_iff_forall_eq_nat, List.forall_mem_map,
    Nat.add_eq_zero_iff, List.count_eq_zero]

lemma feeds_eq_zero_iff {r : Record} (hb : r.Built) : r.feeds = 0 ↔ r.OneLine := by
  have htoken (e : String × String) (he : e ∈ r.fields.entries) :
      '\n' ∈ e.2.toList ↔ ∃ s, e.2 = (FieldValue.text s).token ∧ '\n' ∈ s.toList := by
    obtain ⟨v, hv, ht⟩ := hb.token he
    rw [← ht]
    exact newline_mem_token_iff hv
  rw [Record.feeds, Nat.add_eq_zero_iff, Nat.add_eq_zero_iff, List.count_eq_zero,
    entryFeeds_eq_zero_iff, entryFeeds_eq_zero_iff]
  constructor
  · rintro ⟨⟨hname, htags⟩, hfields⟩
    refine ⟨hname, htags, fun e he => (hfields e he).1, ?_⟩
    intro e he s hs hmem
    exact (hfields e he).2 ((htoken e he).2 ⟨s, hs, hmem⟩)
  · intro h
    refine ⟨⟨h.name, h.tags⟩, fun e he => ⟨h.fieldKeys e he, ?_⟩⟩
    intro hmem
    obtain ⟨s, hs, hnewline⟩ := (htoken e he).1 hmem
    exact h.texts e he s hs hnewline

/-- The lines of a batch are the lines of its records. -/
lemma cut_writeAll (precision : TimeUnit) {rs : List Record} (hne : rs ≠ []) :
    Text.cut '\n' (writeAll precision rs) =
      rs.flatMap fun r => Text.cut '\n' (write precision r) := by
  induction rs with
  | nil => exact absurd rfl hne
  | cons r rs ih =>
    cases rs with
    | nil => simp [writeAll]
    | cons s rs =>
      have hchars : (writeAll precision (r :: s :: rs)).toList =
          (write precision r).toList ++ '\n' :: (writeAll precision (s :: rs)).toList := by
        simp [writeAll]
      rw [List.flatMap_cons, ← ih (List.cons_ne_nil s rs), Text.cut, hchars,
        Text.cutChars_append_cons, List.map_append]
      rfl

lemma length_cut_write (precision : TimeUnit) (r : Record) :
    (Text.cut '\n' (write precision r)).length = r.feeds + 1 := by
  rw [Text.cut, List.length_map, Text.length_cutChars, count_write]

lemma cut_write_of_oneLine (precision : TimeUnit) {r : Record} (hb : r.Built) (h : r.OneLine) :
    Text.cut '\n' (write precision r) = [write precision r] := by
  have hcount := count_write precision r
  rw [(feeds_eq_zero_iff hb).2 h, List.count_eq_zero] at hcount
  rw [Text.cut, Text.cutChars_of_not_mem hcount, List.map_singleton, String.ofList_toList]

/-- A batch has a line for each record and one more for each line feed in a record. -/
lemma length_cut_writeAll (precision : TimeUnit) {rs : List Record} (hne : rs ≠ []) :
    (Text.cut '\n' (writeAll precision rs)).length = rs.length + (rs.map Record.feeds).sum := by
  rw [cut_writeAll precision hne, List.length_flatMap]
  clear hne
  induction rs with
  | nil => rfl
  | cons r rs ih =>
    rw [List.map_cons, List.sum_cons, ih, length_cut_write, List.map_cons, List.sum_cons,
      List.length_cons]
    omega

/-- When the lines of a batch are its records: exactly if no part of a record holds a line feed. -/
theorem cut_writeAll_iff (rs : List Record) (h : ∀ r ∈ rs, r.Built) (precision : TimeUnit) :
    Text.cut '\n' (writeAll precision rs) =
      (if rs = [] then [""] else rs.flatMap fun r => Text.cut '\n' (write precision r)) ∧
    (∀ r ∈ rs, (Text.cut '\n' (write precision r)).length = r.feeds + 1) ∧
    (rs ≠ [] → (Text.cut '\n' (writeAll precision rs)).length =
      rs.length + (rs.map Record.feeds).sum) ∧
    (rs ≠ [] → (Text.cut '\n' (writeAll precision rs) = rs.map (write precision) ↔
      ∀ r ∈ rs, r.OneLine)) := by
  refine ⟨?_, fun r _ => length_cut_write precision r, length_cut_writeAll precision, ?_⟩
  · split
    · rename_i hnil
      rw [hnil]
      rfl
    · rename_i hne
      exact cut_writeAll precision hne
  · intro hne
    constructor
    · intro heq r hr
      have hlength := length_cut_writeAll precision hne
      rw [heq, List.length_map, Nat.left_eq_add] at hlength
      rw [← feeds_eq_zero_iff (h r hr)]
      exact List.sum_eq_zero_iff_forall_eq_nat.1 hlength _ (List.mem_map_of_mem hr)
    · intro hone
      rw [cut_writeAll precision hne]
      have hlines : (rs.flatMap fun r => Text.cut '\n' (write precision r)) =
          rs.flatMap fun r => [write precision r] := by
        apply List.flatMap_congr
        intro r hr
        exact cut_write_of_oneLine precision (h r hr) (hone r hr)
      rw [hlines, ← List.map_eq_flatMap]

/-- A record whose name breaks a line, and whose text holds a line of its own. -/
def broken : Record :=
  ⟨"cpu\nload", .empty, Dict.empty.insert "v" (FieldValue.text "\nmem count=1i 1\n").token, 1⟩

/-- One record is written as four lines, of which one looks like another record. -/
theorem cut_writeAll_iff_broken :
    (∀ r ∈ [broken], r.Built) ∧ [broken] ≠ [] ∧
    Text.cut '\n' (writeAll .milliseconds [broken]) =
      ["cpu", "load v=\"", "mem count=1i 1", "\" 1"] ∧
    ¬∀ r ∈ [broken], r.OneLine := by
  have hbuilt : ∀ r ∈ [broken], r.Built := by
    intro r hr
    rw [List.mem_singleton.1 hr]
    exact ⟨"cpu\nload", 1, [.field "v" (.text "\nmem count=1i 1\n")], rfl⟩
  have hne : [broken] ≠ [] := List.cons_ne_nil broken []
  have hlines : Text.cut '\n' (writeAll .milliseconds [broken]) =
      ["cpu", "load v=\"", "mem count=1i 1", "\" 1"] := by
    rw [(cut_writeAll_iff [broken] hbuilt .milliseconds).1]
    decide +kernel
  refine ⟨hbuilt, hne, hlines, ?_⟩
  intro hone
  have heq := ((cut_writeAll_iff [broken] hbuilt .milliseconds).2.2.2 hne).2 hone
  rw [hlines] at heq
  exact absurd (congrArg List.length heq) (by decide)

end Line

end Telemetry
