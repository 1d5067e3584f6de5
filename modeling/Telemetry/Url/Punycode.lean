import Telemetry.Text.Cut

/-!
# Punycode

A label with characters beyond ASCII is written in ASCII alone: first its ASCII characters, then
the others in ascending order, each as the distance from the one before. A distance is a numeral of
variable length in radix 36, whose digit thresholds adapt to the sizes met so far.
-/

namespace Telemetry.Url.Punycode

/-- Digits are the letters and then the ten figures. -/
def digit (d : Nat) : Char :=
  if d < 26 then Char.ofNat ('a'.toNat + d) else Char.ofNat ('0'.toNat + d - 26)

/-- The value of a digit in small letters. -/
def digitValue? (c : Char) : Option Nat :=
  if 'a' ≤ c ∧ c ≤ 'z' then some (c.toNat - 'a'.toNat)
  else if '0' ≤ c ∧ c ≤ '9' then some (c.toNat - '0'.toNat + 26)
  else none

/-- The least value that a digit at position `k` needs for another digit to follow. -/
def threshold (bias k : Nat) : Nat :=
  if k ≤ bias then 1 else if bias + 26 ≤ k then 26 else k - bias

theorem one_le_threshold (bias k : Nat) : 1 ≤ threshold bias k := by
  unfold threshold
  split
  · omega
  · split <;> omega

/-! ## Writing -/

/-- The digits of a distance, from position `k` on. -/
def digits (bias k q : Nat) : List Char :=
  let t := threshold bias k
  if q < t then [digit q]
  else digit (t + (q - t) % (36 - t)) :: digits bias (k + 36) ((q - t) / (36 - t))
termination_by q
decreasing_by
  have := one_le_threshold bias k
  have := Nat.div_le_self (q - threshold bias k) (36 - threshold bias k)
  omega

/-- Divides a distance until it is small, counting 36 for every division. -/
def shrink (delta k : Nat) : Nat × Nat :=
  if 455 < delta then shrink (delta / 35) (k + 36) else (delta, k)
termination_by delta
decreasing_by exact Nat.div_lt_self (by omega) (by omega)

/-- The bias after a distance was written, `count` characters being written by then. -/
def adapt (delta count : Nat) (first : Bool) : Nat :=
  let halved := if first then delta / 700 else delta / 2
  let (d, k) := shrink (halved + halved / count) 0
  k + 36 * d / (d + 38)

/-- What was written, the distance since, the bias, and how many characters were written. -/
structure State where
  out : List Char
  delta : Nat
  bias : Nat
  count : Nat

/-- Passes a character of the label while the characters `m` are written. -/
def pass (basic m : Nat) (s : State) (c : Char) : State :=
  if c.toNat < m then { s with delta := s.delta + 1 }
  else if c.toNat = m then
    { out := s.out ++ digits s.bias 36 s.delta
      delta := 0
      bias := adapt s.delta (s.count + 1) (s.count = basic)
      count := s.count + 1 }
  else s

/-- Writes the characters with the codes of an ascending list, all above `n`. -/
def writeCodes (label : List Char) (basic : Nat) : List Nat → Nat → State → State
  | [], _, s => s
  | m :: ms, n, s =>
    let s := { s with delta := s.delta + (m - n) * (s.count + 1) }
    let s := label.foldl (pass basic m) s
    writeCodes label basic ms (m + 1) { s with delta := s.delta + 1 }

def insertCode (n : Nat) : List Nat → List Nat
  | [] => [n]
  | m :: ms => if n < m then n :: m :: ms else if n = m then m :: ms else m :: insertCode n ms

/-- The codes beyond ASCII, ascending, each once. -/
def codes (label : List Char) : List Nat :=
  ((label.map Char.toNat).filter (0x80 ≤ ·)).foldr insertCode []

def encode (label : List Char) : List Char :=
  let basic := label.filter (·.toNat < 0x80)
  let lead := if basic.isEmpty then [] else basic ++ ['-']
  lead ++ (writeCodes label basic.length (codes label) 0x80 ⟨[], 0, 72, basic.length⟩).out

/-! ## Reading -/

/-- Reads a distance, from position `k` on, and adds it to `i`; a digit there counts `weight`. Also
gives back what follows. Numbers have 32 bits. -/
def readDistance? (bias : Nat) : Nat → Nat → Nat → List Char → Option (Nat × List Char)
  | _, _, _, [] => none
  | k, weight, i, c :: r => do
    let d ← digitValue? c
    let t := threshold bias k
    if UInt32.size ≤ i + d * weight then none
    else if d < t then some (i + d * weight, r)
    else if UInt32.size ≤ weight * (36 - t) then none
    else readDistance? bias (k + 36) (weight * (36 - t)) (i + d * weight) r

theorem length_of_readDistance? {bias : Nat} (cs : List Char) :
    ∀ {k weight i j : Nat} {r : List Char},
      readDistance? bias k weight i cs = some (j, r) → r.length < cs.length := by
  induction cs with
  | nil => intro k weight i j r h; simp [readDistance?] at h
  | cons c cs ih =>
    intro k weight i j r h
    rw [readDistance?] at h
    cases hd : digitValue? c with
    | none => simp [hd] at h
    | some d =>
      simp only [hd, Option.bind_eq_bind, Option.bind_some] at h
      split at h
      · simp at h
      · split at h
        · simp only [Option.some.injEq, Prod.mk.injEq] at h
          simp [← h.2]
        · split at h
          · simp at h
          · exact Nat.lt_succ_of_lt (ih h)

/-- Inserts the characters that distances lead to: `n` is the code of the last one, `i` the place
after it, and the places of a character are gone through before its successor's. -/
def insertAll (n i bias : Nat) (label : List Char) (cs : List Char) : Option (List Char) :=
  match cs with
  | [] => some label
  | c :: r =>
    match _h : readDistance? bias 36 1 i (c :: r) with
    | none => none
    | some (j, rest) =>
      let count := label.length + 1
      let code := n + j / count
      if code.isValidChar then
        insertAll code (j % count + 1) (adapt (j - i) count (i = 0))
          (label.insertIdx (j % count) (Char.ofNat code)) rest
      else none
termination_by cs.length
decreasing_by exact length_of_readDistance? _ _h

/-- Reads a label in small letters that is written in ASCII. -/
def decode? (cs : List Char) : Option (List Char) :=
  match Text.cutLastChars '-' cs with
  | some (c :: basic, r) => insertAll 0x80 0 72 (c :: basic) r
  | _ => insertAll 0x80 0 72 [] cs

end Telemetry.Url.Punycode
