import Telemetry.Pattern.Basic
import Telemetry.Pattern.ByteRange

/-!
# Sizes of automata

A pattern is searched for by an automaton that reads bytes, one from each end of the text. Both are
measured in bytes, and a pattern whose automata are too large is refused. A counted repetition takes
as much room as its copies.
-/

namespace Telemetry.Pattern

/-- Automata run towards the end of a text or towards its beginning. -/
inductive Way where
  | forward
  | backward
  deriving DecidableEq, Repr

/-- What a state takes. -/
def stateSize : Nat := 32

/-- What a state takes for each state that may follow. -/
def branchSize : Nat := 4

/-- What a state takes for each range of bytes. -/
def edgeSize : Nat := 8

/-! ## Sets -/

/-- What may follow after each first range of bytes. -/
def afterFirst : List (List (UInt8 × UInt8)) → List ((UInt8 × UInt8) × List (List (UInt8 × UInt8)))
  | [] => []
  | [] :: rest => afterFirst rest
  | (b :: bs) :: rest =>
    match afterFirst rest with
    | (c, tails) :: more => if b = c then (c, bs :: tails) :: more else (b, [bs]) :: (c, tails) :: more
    | [] => [(b, [bs])]

/-- The sequences that are left at the states of an automaton, `depth` bytes deep. -/
def remainders : Nat → List (List (UInt8 × UInt8)) → List (List (List (UInt8 × UInt8)))
  | 0, _ => []
  | depth + 1, s =>
    s :: (afterFirst s).flatMap fun (_, tails) => remainders depth (tails.filter (!·.isEmpty))

/-- Forward, states with the same remainder are one. -/
def forwardSize (sequences : List (List (UInt8 × UInt8))) : Nat :=
  let states := ((remainders 4 sequences).filter (!·.isEmpty)).eraseDups
  states.foldl (fun n s => n + stateSize + edgeSize * (afterFirst s).length) stateSize

/-- Backward, sequences that begin alike share the states of their beginnings. -/
def backwardSize (sequences : List (List (UInt8 × UInt8))) : Nat :=
  let states := (sequences.flatMap fun s => (List.range s.length).map fun i => s.take (i + 1)).eraseDups
  stateSize * (2 + states.length) + branchSize * sequences.length

/-- A set takes one state for each byte of its only character, or a state with its ranges, if they
are in ASCII, or an automaton of its own. -/
def CharSet.size (way : Way) (s : CharSet) : Nat :=
  match s.ranges with
  | [] => stateSize
  | [(a, b)] =>
    if a = b then stateSize * (Char.ofNat a).utf8Size
    else if b < 0x80 then 2 * stateSize + edgeSize
    else if way = .forward then forwardSize s.sequences else backwardSize s.sequences
  | rs =>
    if rs.all (·.2 < 0x80) then 2 * stateSize + edgeSize * rs.length
    else if way = .forward then forwardSize s.sequences else backwardSize s.sequences

namespace Regex

/-! ## Patterns -/

/-- Matches at least one character. -/
def isWide : Regex → Bool
  | empty | place _ => false
  | one s => !s.ranges.isEmpty
  | cat a b => a.isWide || b.isWide
  | alt a b => a.isWide && b.isWide
  | times a least _ => a.isWide && least != 0
  | group a => a.isWide

/-- The pattern is left out where others stand beside it. -/
def isVoid : Regex → Bool
  | empty => true
  | cat a b => a.isVoid && b.isVoid
  | times a least most =>
    let (least, most) := a.bounds least most
    most == some 0 || (least == 1 && most == some 1 && a.isVoid)
  | one _ | alt _ _ | group _ | place _ => false

/-- What a repetition takes of a pattern of size `n`. -/
def timesSize (isWide : Bool) (n least : Nat) (most : Option Nat) : Nat :=
  let branch := stateSize + 2 * branchSize
  match most with
  | none =>
    if least = 0 then
      if isWide then n + branch else n + 2 * branch + stateSize
    else least * n + branch
  | some most =>
    if most = 0 then stateSize
    else if least = most then least * n
    else if least = 0 ∧ most = 1 then n + branch + stateSize
    else (if least = 0 then stateSize else least * n) + stateSize + (most - least) * (n + branch)

/-- What the automaton of a pattern takes. -/
structure Extent where
  /-- The set of the characters that the pattern stands for, if each match is one of them. -/
  choice : Option CharSet
  /-- What it takes alone, if it is no set. -/
  other : Nat
  /-- What it takes as one of several alternatives. -/
  beside : Nat

namespace Extent

def ofSize (n : Nat) : Extent := ⟨none, n, n + branchSize⟩

def ofSet (way : Way) (s : CharSet) : Extent :=
  let n := s.size way
  ⟨some s, n, n + branchSize⟩

/-- Alternatives that are sets make one set together. -/
def alt (a b : Extent) : Extent :=
  let choice := a.choice.bind fun s => b.choice.map s.union
  let n := a.beside + b.beside
  ⟨choice, 2 * stateSize + n, n⟩

/-- What it takes alone. -/
def size (way : Way) (e : Extent) : Nat :=
  match e.choice with
  | some s => s.size way
  | none => e.other

end Extent

def extent (way : Way) : Regex → Extent
  | empty | place _ => .ofSize stateSize
  | one s => .ofSet way s
  | cat a b =>
    .ofSize <|
      if a.isVoid then (b.extent way).size way else if b.isVoid then (a.extent way).size way
      else (a.extent way).size way + (b.extent way).size way
  | alt a b => (a.extent way).alt (b.extent way)
  | times a least most =>
    let (least, most) := a.bounds least most
    .ofSize (timesSize a.isWide ((a.extent way).size way) least most)
  | group a =>
    let n := (a.extent way).size way
    .ofSize (if way = .forward then n + 2 * stateSize else n)

def size (way : Way) (r : Regex) : Nat :=
  (r.extent way).size way

/-- Begins at the start of the text. -/
def startsText : Regex → Bool
  | place .textStart => true
  | cat a b => a.startsText || (a.isNarrow && b.startsText)
  | alt a b => a.startsText && b.startsText
  | times a least _ => least != 0 && a.startsText
  | group a => a.startsText
  | empty | one _ | place _ => false

/-- Ends at the end of the text. -/
def endsText : Regex → Bool
  | place .textEnd => true
  | cat a b => b.endsText || (b.isNarrow && a.endsText)
  | alt a b => a.endsText && b.endsText
  | times a least _ => least != 0 && a.endsText
  | group a => a.endsText
  | empty | one _ | place _ => false

/-- What comes before the pattern: any bytes, unless it is bound to the end it is searched from. -/
def leadSize (bound : Bool) : Nat :=
  if bound then stateSize else 3 * stateSize + 2 * branchSize + edgeSize

/-- What an automaton takes as a whole. Forward it knows where the match begins and ends. -/
def wholeSize (r : Regex) : Way → Nat
  | .forward => leadSize r.startsText + r.size .forward + 3 * stateSize
  | .backward => leadSize r.endsText + r.size .backward + stateSize

/-- The most that an automaton may take. -/
def sizeLimit : Nat := 10 * 1024 * 1024

/-- The automata of the pattern are not too large. -/
def fits (r : Regex) : Bool :=
  r.wholeSize .forward ≤ sizeLimit && r.wholeSize .backward ≤ sizeLimit

end Regex

end Telemetry.Pattern
