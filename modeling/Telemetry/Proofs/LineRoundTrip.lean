import Mathlib.Data.List.Forall2
import Telemetry.Proofs.DraftCalls
import Telemetry.Proofs.LineReader

/-!
# Lines read back

What is written for records that can be read is read back as those records. A name, a key or a tag
value must not hold a line feed, and no such text and no text in a field may end with a backslash,
which would take the character behind it along.
-/

namespace Telemetry

/-- Can stand as a name, a key or a tag value: no line feed and no backslash at the end. -/
def Line.Legible (s : String) : Prop :=
  '\n' ∉ s.toList ∧ s.toList.getLast? ≠ some '\\'

instance (s : String) : Decidable (Line.Legible s) := inferInstanceAs (Decidable (_ ∧ _))

/-- The texts in the fields may hold line feeds. -/
structure Record.Legible (r : Record) : Prop where
  name : Line.Legible r.name
  tags : ∀ e ∈ r.tags.entries, Line.Legible e.1 ∧ Line.Legible e.2
  fieldKeys : ∀ e ∈ r.fields.entries, Line.Legible e.1
  texts : ∀ e ∈ r.fields.entries, ∀ s, e.2 = (FieldValue.text s).token →
    s.toList.getLast? ≠ some '\\'

namespace Line

/-- What a line tells about a record in a precision. -/
def entry (precision : TimeUnit) (r : Record) : Entry :=
  ⟨r.name, r.tags.entries, r.fields.entries, (precision.convertMillis r.timestamp).toInt⟩

/-- The token of an encodable value that does not end with a backslash if it is a text. -/
def Token (t : String) : Prop :=
  ∃ v : FieldValue, v.encodable = true ∧ v.token = t ∧
    ∀ s, v = .text s → s.toList.getLast? ≠ some '\\'

lemma token_of_legible {r : Record} (hb : r.Built) (hl : r.Legible) {e : String × String}
    (he : e ∈ r.fields.entries) : Token e.2 := by
  obtain ⟨v, hv, ht⟩ := hb.token he
  refine ⟨v, hv, ht, fun s hs => ?_⟩
  exact hl.texts e he s (by rw [← ht, hs])

def tagChars (es : List (String × String)) : List Char :=
  es.flatMap fun e =>
    ',' :: (escapeChars separators e.1.toList ++ '=' :: escapeChars separators e.2.toList)

def fieldChars (es : List (String × String)) : List Char :=
  [','].intercalate (es.map fun e => escapeChars separators e.1.toList ++ '=' :: e.2.toList)

lemma toList_tagSet (tags : Dict String) : (tagSet tags).toList = tagChars tags.entries := by
  unfold tagSet tagChars
  rw [String.toList_join, List.flatMap_map]
  congr 1
  funext e
  simp [assignment, escapeKey]

lemma toList_fieldSet (fields : Dict String) :
    (fieldSet fields).toList = fieldChars fields.entries := by
  unfold fieldSet fieldChars
  rw [String.toList_intercalate, List.map_map]
  congr 2
  funext e
  simp [assignment, escapeKey]

lemma toList_write (precision : TimeUnit) (r : Record) :
    (write precision r).toList =
      escapeChars separators r.name.toList ++ (tagChars r.tags.entries ++ [' ']) ++
        (fieldChars r.fields.entries ++ [' ']) ++
        Text.intDigits (precision.convertMillis r.timestamp).toInt := by
  simp [write, toList_tagSet, toList_fieldSet, escapeKey, Text.intText]

lemma getLast?_escapeChars (set s : List Char) : (escapeChars set s).getLast? = s.getLast? := by
  induction s with
  | nil => rfl
  | cons c s ih =>
    by_cases hc : c ∈ set
    · rw [escapeChars, if_pos hc, List.getLast?_cons, List.getLast?_cons, List.getLast?_cons, ih]
      rfl
    · rw [escapeChars, if_neg hc, List.getLast?_cons, List.getLast?_cons, ih]

lemma toList_text_token (s : String) :
    (FieldValue.text s).token.toList = '"' :: (escapeChars ['"'] s.toList ++ ['"']) := by
  simp [FieldValue.token, FieldValue.quote]

/-- A token tells how its text ends. -/
lemma getLast?_of_token_eq {a b : String} (h : (FieldValue.text a).token = (FieldValue.text b).token) :
    a.toList.getLast? = b.toList.getLast? := by
  have hc := congrArg String.toList h
  rw [toList_text_token, toList_text_token] at hc
  have he : escapeChars ['"'] a.toList = escapeChars ['"'] b.toList := by simpa using hc
  rw [← getLast?_escapeChars ['"'] a.toList, he, getLast?_escapeChars]

namespace Reader

variable {r : Reader} {k : String}

/-- After a text that does not end with a backslash the next separator ends the word. -/
lemma unescaped_append {s : List Char} (hs : s.getLast? ≠ some '\\') (hr : r.Unescaped) :
    Unescaped { r with word := s.reverse ++ r.word } := by
  unfold Unescaped
  rw [List.head?_append, List.head?_reverse]
  cases h : s.getLast? with
  | none => exact hr
  | some c => exact fun hc => hs (h.trans hc)

lemma run_bare (hp : r.part = .fieldValue k ∨ r.part = .time) {cs : List Char}
    (hcs : ∀ c ∈ cs, Bare c) : r.run cs = some { r with word := cs.reverse ++ r.word } := by
  induction cs generalizing r with
  | nil => rfl
  | cons c cs ih =>
    have hc := hcs c List.mem_cons_self
    simp only [Bare, List.mem_cons, not_or] at hc
    obtain ⟨hn, _, hq, hs⟩ := hc
    have hstep : r.step c = some (r.push c) := by
      rw [step_of_not_quoted (by rcases hp with hp | hp <;> simp [hp]), if_neg hn, if_neg hs]
      unfold letter
      rcases hp with hp | hp <;> simp [hp, hq]
    rw [run_cons, hstep, Option.bind_some,
      ih (r := r.push c) hp fun d hd => hcs d (List.mem_cons_of_mem c hd)]
    simp [push]

/-- Between quotes everything is kept. The quotes of the text stand behind backslashes, so that none
of them is taken for the closing one. -/
lemma run_quoted (hp : r.part = .quoted k) (s : List Char) :
    r.run (escapeChars ['"'] s) =
      some { r with word := (escapeChars ['"'] s).reverse ++ r.word } := by
  induction s generalizing r with
  | nil => rfl
  | cons c s ih =>
    by_cases hc : c ∈ ['"']
    · rw [escapeChars, if_pos hc, run_cons, step_quoted hp fun h => absurd h (by decide),
        Option.bind_some, run_cons, step_quoted (r := r.push '\\') hp fun _ h => h rfl,
        Option.bind_some, ih (r := (r.push '\\').push c) hp]
      simp [push]
    · have hq : c ≠ '"' := fun h => hc (by simp [h])
      rw [escapeChars, if_neg hc, run_cons, step_quoted hp fun h => absurd h hq, Option.bind_some,
        ih (r := r.push c) hp]
      simp [push]

/-- A word that is written with escapes ends at the separator behind it. -/
lemma run_word (hp : r.part.Escaped) (hw : r.word = []) {s : String} (hs : Legible s) {c : Char}
    (hc : c ∈ separators) (cs : List Char) :
    r.run (escapeChars separators s.toList ++ c :: cs) =
      (split { r with word := s.toList.reverse } c).bind fun r => r.run cs := by
  have hr : r.Unescaped := by simp [Unescaped, hw]
  rw [run_append, run_escapeChars hp hs.1, Option.bind_some, run_cons,
    step_separator (r := { r with word := s.toList.reverse ++ r.word }) (not_quoted_of_escaped hp)
      (unescaped_append hs.2 hr) hc, hw, List.append_nil]

/-- A field or the time may follow a value. -/
def Follows (c : Char) (part : Part) : Prop :=
  c = ',' ∧ part = .fieldKey ∨ c = ' ' ∧ part = .time

lemma Follows.mem_separators {c : Char} {part : Part} (h : Follows c part) : c ∈ separators := by
  rcases h with ⟨rfl, _⟩ | ⟨rfl, _⟩ <;> decide

lemma run_bare_value (hp : r.part = .fieldValue k) (hw : r.word = []) {t : String}
    (ht : ∀ d ∈ t.toList, Bare d) {c : Char} {part : Part} (hc : Follows c part) :
    r.run (t.toList ++ [c]) =
      some { r with part, word := [], fields := r.fields ++ [(k, t)] } := by
  have hlast : Unescaped { r with word := t.toList.reverse ++ r.word } := by
    refine unescaped_append (fun h => ?_) (by simp [Unescaped, hw])
    exact absurd (ht _ (List.mem_of_getLast? h)) (by decide)
  rw [run_append, run_bare (.inl hp) ht, Option.bind_some, run_cons,
    step_separator (by simp [hp]) hlast hc.mem_separators]
  rcases hc with ⟨rfl, rfl⟩ | ⟨rfl, rfl⟩ <;> simp [split, Part.next, book, text, hp, hw]

lemma run_text_value (hp : r.part = .fieldValue k) (hw : r.word = []) {s : String}
    (hs : s.toList.getLast? ≠ some '\\') {c : Char} {part : Part} (hc : Follows c part) :
    r.run ((FieldValue.text s).token.toList ++ [c]) =
      some { r with part, word := [], fields := r.fields ++ [(k, (FieldValue.text s).token)] } := by
  let opened : Reader := { r with part := .quoted k, word := ['"'] }
  have hopen : r.step '"' = some opened := by
    rw [step_of_not_quoted (by simp [hp]), if_neg (by decide), if_neg (by decide), letter, hp]
    simp [hw, push, opened]
  have hlast : Unescaped { opened with word := (escapeChars ['"'] s.toList).reverse ++ opened.word } :=
    unescaped_append (by rwa [getLast?_escapeChars]) (by simp [Unescaped, opened])
  have hclose := step_closing rfl hlast
  rw [run_append, toList_text_token, run_cons, hopen, Option.bind_some, run_append, run_quoted rfl,
    Option.bind_some, run_cons, hclose, Option.bind_some, run_nil, Option.bind_some, run_cons,
    step_separator (by simp) (by simp [Unescaped, push]) hc.mem_separators]
  rcases hc with ⟨rfl, rfl⟩ | ⟨rfl, rfl⟩ <;>
    simp [split, Part.next, book, text, String.ext_iff, toList_text_token, push, opened]

/-- A value is read up to the separator behind it. -/
lemma run_value (hp : r.part = .fieldValue k) (hw : r.word = []) {t : String} (ht : Token t)
    {c : Char} {part : Part} (hc : Follows c part) :
    r.run (t.toList ++ [c]) =
      some { r with part, word := [], fields := r.fields ++ [(k, t)] } := by
  obtain ⟨v, hv, rfl, hend⟩ := ht
  by_cases htext : ∃ s, v = .text s
  · obtain ⟨s, rfl⟩ := htext
    exact run_text_value hp hw (hend s rfl) hc
  · exact run_bare_value hp hw (fun d => bare_of_mem_token hv fun s hs => htext ⟨s, hs⟩) hc

lemma run_field (hp : r.part = .fieldKey) (hw : r.word = []) {e : String × String}
    (hk : Legible e.1) (ht : Token e.2) {c : Char} {part : Part} (hc : Follows c part) :
    r.run (escapeChars separators e.1.toList ++ '=' :: (e.2.toList ++ [c])) =
      some { r with part, word := [], fields := r.fields ++ [e] } := by
  have hsplit : split { r with word := e.1.toList.reverse } '=' =
      some { r with part := .fieldValue e.1, word := [] } := by
    simp [split, Part.next, book, text, hp]
  rw [run_word (by rw [hp]; trivial) hw hk (by decide), hsplit, Option.bind_some,
    run_value (k := e.1) rfl rfl ht hc]

lemma run_fieldChars (hp : r.part = .fieldKey) (hw : r.word = []) {es : List (String × String)}
    (hne : es ≠ []) (hes : ∀ e ∈ es, Legible e.1 ∧ Token e.2) :
    r.run (fieldChars es ++ [' ']) =
      some { r with part := .time, word := [], fields := r.fields ++ es } := by
  induction es generalizing r with
  | nil => exact absurd rfl hne
  | cons e es ih =>
    obtain ⟨hk, ht⟩ := hes e List.mem_cons_self
    cases es with
    | nil => simpa [fieldChars] using run_field hp hw hk ht (.inr ⟨rfl, rfl⟩)
    | cons f es =>
      have hfirst := run_field hp hw hk ht (.inl ⟨rfl, rfl⟩)
      have hrest := ih (r := { r with part := .fieldKey, word := [], fields := r.fields ++ [e] })
        rfl rfl (by simp) fun d hd => hes d (List.mem_cons_of_mem e hd)
      have hchars : fieldChars (e :: f :: es) ++ [' '] =
          (escapeChars separators e.1.toList ++ '=' :: (e.2.toList ++ [','])) ++
            (fieldChars (f :: es) ++ [' ']) := by
        simp [fieldChars]
      rw [hchars, run_append, hfirst, Option.bind_some, hrest]
      simp

/-- Where a tag or the fields may follow. -/
def AtTags (r : Reader) : Prop :=
  (r.part = .name ∨ ∃ k, r.part = .tagValue k) ∧ r.Unescaped

lemma AtTags.split_comma (h : r.AtTags) : r.step ',' = some { r.book with part := .tagKey } := by
  obtain ⟨hp | ⟨k, hp⟩, hr⟩ := h <;>
    rw [step_separator (by simp [hp]) hr (by decide)] <;> simp [split, hp, Part.next]

lemma AtTags.split_space (h : r.AtTags) : r.step ' ' = some { r.book with part := .fieldKey } := by
  obtain ⟨hp | ⟨k, hp⟩, hr⟩ := h <;>
    rw [step_separator (by simp [hp]) hr (by decide)] <;> simp [split, hp, Part.next]

lemma run_tag (hp : r.part = .tagKey) (hw : r.word = []) {e : String × String} (hk : Legible e.1)
    (hv : Legible e.2) :
    r.run (escapeChars separators e.1.toList ++ '=' :: escapeChars separators e.2.toList) =
      some { r with part := .tagValue e.1, word := e.2.toList.reverse } := by
  have hsplit : split { r with word := e.1.toList.reverse } '=' =
      some { r with part := .tagValue e.1, word := [] } := by
    simp [split, Part.next, book, text, hp]
  rw [run_word (by rw [hp]; trivial) hw hk (by decide), hsplit, Option.bind_some,
    run_escapeChars (r := { r with part := .tagValue e.1, word := [] }) trivial hv.1]
  simp

lemma book_word (r : Reader) : r.book.word = [] := by
  unfold book
  split <;> rfl

lemma run_tagChars (h : r.AtTags) {es : List (String × String)}
    (hes : ∀ e ∈ es, Legible e.1 ∧ Legible e.2) :
    r.run (tagChars es ++ [' ']) =
      some { r.book with part := .fieldKey, tags := r.book.tags ++ es } := by
  induction es generalizing r with
  | nil => simp [tagChars, h.split_space]
  | cons e es ih =>
    obtain ⟨hk, hv⟩ := hes e List.mem_cons_self
    let next : Reader := { r.book with part := .tagValue e.1, word := e.2.toList.reverse }
    have hnext : next.AtTags := ⟨.inr ⟨e.1, rfl⟩, by simpa [Unescaped, next] using hv.2⟩
    have htag := run_tag (r := { r.book with part := .tagKey }) rfl r.book_word hk hv
    have hrest := ih hnext fun d hd => hes d (List.mem_cons_of_mem e hd)
    have hbook : next.book =
        { r.book with part := .tagValue e.1, tags := r.book.tags ++ [e] } := by
      rw [book, text]
      simp [next, book_word]
    have hchars : tagChars (e :: es) ++ [' '] =
        ',' :: ((escapeChars separators e.1.toList ++ '=' :: escapeChars separators e.2.toList) ++
          (tagChars es ++ [' '])) := by
      simp [tagChars]
    rw [hchars, run_cons, h.split_comma, Option.bind_some, run_append, htag, Option.bind_some]
    change next.run _ = _
    rw [hrest, hbook]
    simp

lemma digitsValue?_natDigits (n : Nat) : Text.digitsValue? (Text.natDigits n) = some n := by
  have hall : (Text.natDigits n).all Char.isDigit = true :=
    List.all_eq_true.2 fun c hc => Nat.isDigit_of_mem_toDigits (by decide) (by decide) hc
  have hne : (Text.natDigits n).isEmpty = false := List.isEmpty_eq_false_iff.2 Nat.toDigits_ne_nil
  rw [Text.digitsValue?, hall, hne]
  exact congrArg some Nat.ofDigitChars_ten_toDigits

lemma readInt?_intDigits (i : Int) : readInt? (Text.intDigits i) = some i := by
  unfold Text.intDigits
  split
  · rw [readInt?, digitsValue?_natDigits, Option.map_some, Option.some_inj]
    omega
  · unfold readInt?
    split
    · rename_i ds h
      have hc : '-' ∈ Nat.toDigits 10 i.natAbs := by
        rw [← Text.natDigits, h]
        exact List.mem_cons_self
      exact absurd (Nat.isDigit_of_mem_toDigits (by decide) (by decide) hc) (by decide)
    · rw [digitsValue?_natDigits, Option.map_some, Option.some_inj]
      exact Int.natAbs_of_nonneg (by omega)

/-- A line leaves the reader at its time, with everything else read. -/
lemma run_write {r : Record} (hb : r.Built) (hl : r.Legible) (precision : TimeUnit)
    (entries : List Entry) :
    ((start entries).run (write precision r).toList).bind finish =
      some (start (entries ++ [entry precision r])) := by
  let named : Reader := { start entries with word := r.name.toList.reverse }
  have hname : (start entries).run (escapeChars separators r.name.toList) = some named := by
    rw [run_escapeChars (r := start entries) trivial hl.name.1]
    simp [named, start]
  have hat : named.AtTags := ⟨.inl rfl, by simpa [Unescaped, named] using hl.name.2⟩
  have htags := run_tagChars hat hl.tags
  have hfields := run_fieldChars
    (r := { named.book with part := .fieldKey, tags := named.book.tags ++ r.tags.entries }) rfl rfl
    hb.fields_ne_nil fun e he => ⟨hl.fieldKeys e he, token_of_legible hb hl he⟩
  have htime : ∀ c ∈ Text.intDigits (precision.convertMillis r.timestamp).toInt, Bare c := by
    intro c hc
    rcases Text.mem_intDigits hc with h | rfl
    · exact bare_of_isDigit h
    · decide
  rw [toList_write, run_append, run_append, run_append, hname, Option.bind_some, htags,
    Option.bind_some, hfields, Option.bind_some, run_bare (k := "") (.inr rfl) htime,
    Option.bind_some, finish]
  simp [readInt?_intDigits, entry, named, book, text, start]

/-- From the beginning of a line on, the reader adds the entries of the records to those it has. -/
lemma run_writeAll {rs : List Record} (hne : rs ≠ []) (h : ∀ r ∈ rs, r.Built ∧ r.Legible)
    (precision : TimeUnit) (entries : List Entry) :
    ((start entries).run (writeAll precision rs).toList).bind finish =
      some (start (entries ++ rs.map (entry precision))) := by
  induction rs generalizing entries with
  | nil => exact absurd rfl hne
  | cons r rs ih =>
    obtain ⟨hb, hl⟩ := h r List.mem_cons_self
    have hline := run_write hb hl precision entries
    cases rs with
    | nil => simpa [writeAll] using hline
    | cons s rs =>
      have hrest := ih (by simp) (fun t ht => h t (List.mem_cons_of_mem r ht))
        (entries ++ [entry precision r])
      have hchars : (writeAll precision (r :: s :: rs)).toList =
          (write precision r).toList ++ '\n' :: (writeAll precision (s :: rs)).toList := by
        simp [writeAll]
      obtain ⟨reader, hrun, hfinish⟩ := Option.bind_eq_some_iff.1 hline
      have htime : reader.part = .time := by
        unfold finish at hfinish
        split at hfinish
        · assumption
        · simp at hfinish
      rw [hchars, run_append, hrun, Option.bind_some, run_cons,
        step_of_not_quoted (by simp [htime]), if_pos rfl, hfinish, Option.bind_some, hrest]
      simp

end Reader

lemma read_of_legible {rs : List Record} (h : ∀ r ∈ rs, r.Built ∧ r.Legible)
    (precision : TimeUnit) :
    Reader.read (writeAll precision rs) = some (rs.map (entry precision)) := by
  by_cases hne : rs = []
  · rw [hne]
    rfl
  · obtain ⟨r, rs', rfl⟩ := List.exists_cons_of_ne_nil hne
    have hrun := Reader.run_writeAll hne h precision []
    have hchars : (writeAll precision (r :: rs')).toList ≠ [] := by
      intro hc
      rw [hc] at hrun
      simp [Reader.start, Reader.finish] at hrun
    rw [Reader.read, if_neg hchars, hrun, List.nil_append]
    rfl

lemma eq_of_entry_eq {a b : Record} {p q : TimeUnit} (h : entry p a = entry q b) :
    a.name = b.name ∧ a.tags = b.tags ∧ a.fields = b.fields ∧
      p.convertMillis a.timestamp = q.convertMillis b.timestamp := by
  have hdict : ∀ c d : Dict String, c.entries = d.entries → c = d := by
    rintro ⟨_, _⟩ ⟨_, _⟩ rfl
    rfl
  simp only [entry, Entry.mk.injEq] at h
  obtain ⟨hn, ht, hf, htime⟩ := h
  exact ⟨hn, hdict _ _ ht, hdict _ _ hf, Int64.toInt_inj.1 htime⟩

/-- Records that can be read are read back from what is written for them. So two lists of such
records that are written alike have the same length and agree record by record. -/
theorem read_writeAll (rs : List Record) (h : ∀ r ∈ rs, r.Built ∧ r.Legible)
    (precision : TimeUnit) :
    Reader.read (writeAll precision rs) = some (rs.map (entry precision)) ∧
    ∀ (rs' : List Record) (precision' : TimeUnit), (∀ r ∈ rs', r.Built ∧ r.Legible) →
      writeAll precision' rs' = writeAll precision rs →
      List.Forall₂ (fun a b => a.name = b.name ∧ a.tags = b.tags ∧ a.fields = b.fields ∧
        precision'.convertMillis a.timestamp = precision.convertMillis b.timestamp) rs' rs := by
  refine ⟨read_of_legible h precision, fun rs' precision' h' heq => ?_⟩
  have hread := read_of_legible h' precision'
  rw [heq, read_of_legible h precision, Option.some_inj] at hread
  have hall : List.Forall₂ (· = ·) (rs'.map (entry precision')) (rs.map (entry precision)) := by
    rw [List.forall₂_eq_eq_eq, hread]
  rw [List.forall₂_map_left_iff, List.forall₂_map_right_iff] at hall
  exact hall.imp fun _ _ => eq_of_entry_eq

/-- A record with backslashes, separators, quotes and line feeds in its parts. -/
def tangled : Record :=
  ⟨"a\\,b c", Dict.empty.insert "" "x=\\y",
    Dict.empty.insert "k\\=" (FieldValue.text "\\\",\n ").token, -1⟩

theorem read_writeAll_tangled :
    (∀ r ∈ [tangled], r.Built ∧ r.Legible) ∧
    Reader.read (writeAll .seconds [tangled]) =
      some [⟨"a\\,b c", [("", "x=\\y")], [("k\\=", "\"\\\\\",\n \"")], 0⟩] := by
  have h : ∀ r ∈ [tangled], r.Built ∧ r.Legible := by
    intro r hr
    rw [List.mem_singleton.1 hr]
    refine ⟨⟨"a\\,b c", -1, [.tag "" "x=\\y", .field "k\\=" (.text "\\\",\n ")], rfl⟩, ?_⟩
    refine ⟨by decide, by decide, by decide, fun e he s hs => ?_⟩
    rw [List.mem_singleton.1 he] at hs
    rw [← getLast?_of_token_eq hs]
    decide
  refine ⟨h, ?_⟩
  rw [(read_writeAll [tangled] h .seconds).1]
  rfl

end Line

end Telemetry
