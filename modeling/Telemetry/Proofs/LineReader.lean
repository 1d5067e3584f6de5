import Mathlib.Tactic.Common
import Telemetry.Line.Writer

/-!
# A reader of lines

The reader walks a payload from left to right. A separator directly behind a backslash is literal
and the backslash is dropped; any other separator ends the word under way. A value that begins with
a double quote runs to the next double quote that no backslash stands directly before, and a line
feed outside such a value ends the record.
-/

namespace Telemetry.Line

/-- What a line says about a record. -/
structure Entry where
  name : String
  tags : List (String × String)
  fields : List (String × String)
  time : Int
  deriving DecidableEq, Repr

/-- The part of a line that a reader is in, with the key of a value. -/
inductive Part where
  | name
  | tagKey
  | tagValue (key : String)
  | fieldKey
  | fieldValue (key : String)
  /-- Between the quotes of a value. -/
  | quoted (key : String)
  /-- Behind the closing quote of a value. -/
  | closed (key : String)
  | time
  deriving DecidableEq, Repr

namespace Part

/-- The part behind a separator that ends a word. -/
def next (word : String) : Part → Char → Option Part
  | name, ',' => some tagKey
  | name, ' ' => some fieldKey
  | tagKey, '=' => some (tagValue word)
  | tagValue _, ',' => some tagKey
  | tagValue _, ' ' => some fieldKey
  | fieldKey, '=' => some (fieldValue word)
  | fieldValue _, ',' => some fieldKey
  | fieldValue _, ' ' => some time
  | closed _, ',' => some fieldKey
  | closed _, ' ' => some time
  | _, _ => none

/-- Names, keys and tag values, which are written with escapes. -/
def Escaped : Part → Prop
  | name | tagKey | tagValue _ | fieldKey => True
  | _ => False

end Part

structure Reader where
  part : Part
  /-- The word under way, its last character first. -/
  word : List Char
  name : String
  tags : List (String × String)
  fields : List (String × String)
  /-- The records that have ended. -/
  entries : List Entry

namespace Reader

/-- At the beginning of a line. -/
def start (entries : List Entry) : Reader := ⟨.name, [], "", [], [], entries⟩

def text (r : Reader) : String := String.ofList r.word.reverse

def push (r : Reader) (c : Char) : Reader := { r with word := c :: r.word }

/-- Puts the word where it belongs. -/
def book (r : Reader) : Reader :=
  match r.part with
  | .name => { r with word := [], name := r.text }
  | .tagValue key => { r with word := [], tags := r.tags ++ [(key, r.text)] }
  | .fieldValue key => { r with word := [], fields := r.fields ++ [(key, r.text)] }
  | .closed key => { r with word := [], fields := r.fields ++ [(key, r.text)] }
  | _ => { r with word := [] }

/-- Ends the word at a separator. -/
def split (r : Reader) (c : Char) : Option Reader :=
  (r.part.next r.text c).map fun part => { r.book with part }

def readInt? : List Char → Option Int
  | '-' :: ds => (Text.digitsValue? ds).map fun n : Nat => -(n : Int)
  | ds => (Text.digitsValue? ds).map Int.ofNat

/-- Ends the record, which must have come to its time. -/
def finish (r : Reader) : Option Reader :=
  match r.part with
  | .time =>
    (readInt? r.word.reverse).map fun time => start (r.entries ++ [⟨r.name, r.tags, r.fields, time⟩])
  | _ => none

/-- No backslash stands directly before the next character. -/
def Unescaped (r : Reader) : Prop := r.word.head? ≠ some '\\'

instance (r : Reader) : Decidable r.Unescaped := inferInstanceAs (Decidable (_ ≠ _))

/-- Reads a separator, which is literal behind a backslash. -/
def separator (r : Reader) (c : Char) : Option Reader :=
  if r.Unescaped then r.split c else some { r with word := c :: r.word.tail }

/-- Reads a character that neither separates nor ends a record. -/
def letter (r : Reader) (c : Char) : Option Reader :=
  match r.part with
  | .fieldValue key =>
    some (if r.word = [] ∧ c = '"' then { r.push c with part := .quoted key } else r.push c)
  | .closed _ => none
  | _ => some (r.push c)

def step (r : Reader) (c : Char) : Option Reader :=
  match r.part with
  | .quoted key =>
    some (if c = '"' ∧ r.Unescaped then { r.push c with part := .closed key } else r.push c)
  | _ =>
    if c = '\n' then r.finish
    else if c ∈ separators then r.separator c
    else r.letter c

def run (r : Reader) (cs : List Char) : Option Reader :=
  cs.foldlM step r

/-- All records of a payload. The empty payload has none. -/
def read (payload : String) : Option (List Entry) :=
  if payload.toList = [] then some []
  else ((run (start []) payload.toList).bind finish).map (·.entries)

@[simp] lemma run_nil (r : Reader) : r.run [] = some r := rfl

@[simp] lemma run_cons (r : Reader) (c : Char) (cs : List Char) :
    r.run (c :: cs) = (r.step c).bind fun r => r.run cs :=
  List.foldlM_cons

lemma run_append (r : Reader) (xs ys : List Char) :
    r.run (xs ++ ys) = (r.run xs).bind fun r => r.run ys :=
  List.foldlM_append

/-- Outside quotes the part decides only about letters. -/
lemma step_of_not_quoted {r : Reader} (h : ∀ key, r.part ≠ .quoted key) (c : Char) :
    r.step c =
      if c = '\n' then r.finish else if c ∈ separators then r.separator c else r.letter c := by
  unfold step
  split
  · rename_i key hp
    exact absurd hp (h key)
  · rfl

lemma not_quoted_of_escaped {r : Reader} (h : r.part.Escaped) (key : String) :
    r.part ≠ .quoted key := by
  intro hp
  rw [hp] at h
  exact h

lemma newline_not_separator {c : Char} (h : c ∈ separators) : c ≠ '\n' := by
  rintro rfl
  revert h
  decide

/-- A separator behind anything but a backslash ends the word. -/
lemma step_separator {r : Reader} (hp : ∀ key, r.part ≠ .quoted key) (hr : r.Unescaped) {c : Char}
    (hc : c ∈ separators) : r.step c = r.split c := by
  rw [step_of_not_quoted hp, if_neg (newline_not_separator hc), if_pos hc, separator, if_pos hr]

lemma step_letter {r : Reader} (hp : r.part.Escaped) {c : Char} (hn : c ≠ '\n')
    (hc : c ∉ separators) : r.step c = some (r.push c) := by
  rw [step_of_not_quoted (not_quoted_of_escaped hp), if_neg hn, if_neg hc, letter]
  unfold Part.Escaped at hp
  split at hp <;> simp_all

lemma step_literal {r : Reader} (hp : r.part.Escaped) {c : Char} (hc : c ∈ separators) :
    (r.push '\\').step c = some (r.push c) := by
  have hw : ¬(r.push '\\').Unescaped := fun h => h rfl
  rw [step_of_not_quoted (not_quoted_of_escaped (r := r.push '\\') hp),
    if_neg (newline_not_separator hc), if_pos hc, separator, if_neg hw]
  rfl

/-- A quote behind a backslash does not close a value. -/
lemma step_quoted {r : Reader} {key : String} (hp : r.part = .quoted key) {c : Char}
    (hc : c = '"' → ¬r.Unescaped) : r.step c = some (r.push c) := by
  unfold step
  rw [hp]
  exact congrArg some (if_neg fun h => hc h.1 h.2)

lemma step_closing {r : Reader} {key : String} (hp : r.part = .quoted key) (hr : r.Unescaped) :
    r.step '"' = some { r.push '"' with part := .closed key } := by
  unfold step
  rw [hp]
  exact congrArg some (if_pos ⟨rfl, hr⟩)

/-- Reading an escaped word adds the word itself. The backslash before a separator stays only until
the separator has been read, so the word so far is always the part of the text that was escaped. -/
lemma run_escapeChars {r : Reader} (hp : r.part.Escaped) {s : List Char} (hs : '\n' ∉ s) :
    r.run (escapeChars separators s) = some { r with word := s.reverse ++ r.word } := by
  induction s generalizing r with
  | nil => rfl
  | cons c s ih =>
    have hn : c ≠ '\n' := fun h => hs (by simp [h])
    have ih := ih (r := r.push c) hp fun h => hs (List.mem_cons_of_mem c h)
    by_cases hc : c ∈ separators
    · have hb : r.step '\\' = some (r.push '\\') := step_letter hp (by decide) (by decide)
      rw [escapeChars, if_pos hc, run_cons, hb, Option.bind_some, run_cons, step_literal hp hc,
        Option.bind_some, ih]
      simp [push]
    · rw [escapeChars, if_neg hc, run_cons, step_letter hp hn hc, Option.bind_some, ih]
      simp [push]

end Reader

end Telemetry.Line
