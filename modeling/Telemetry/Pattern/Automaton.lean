import Telemetry.Pattern.Basic

/-!
# Automata of patterns

A pattern is searched for by an automaton, whose states are numbered. All places of the text are
tried at once: the states that a text leads to are followed from character to character, and at
each place the search starts anew. A state is followed once per place, so a search takes time in
proportion to the states and the characters.
-/

namespace Telemetry.Pattern

/-- What a state does, and the states that it leads to. -/
inductive Move where
  | read (s : CharSet) (next : Nat)
  | check (p : Place) (next : Nat)
  | fork (a b : Nat)
  | accept
  deriving Repr

/-- States by number, and the first one. -/
structure Automaton where
  moves : Array Move
  start : Nat

namespace Automaton

/-- Adds a state in front of others and starts with it. -/
def push (m : Automaton) (move : Move) : Automaton :=
  let i := m.moves.size
  ⟨m.moves.push move, i⟩

/-- Puts what stands in front of a state into a loop through that state. -/
def loop (m : Automaton) (before : Automaton → Automaton) : Automaton :=
  let exit := m.start
  let m := m.push (.fork exit exit)
  let gate := m.start
  let m := before m
  ⟨m.moves.setIfInBounds gate (.fork m.start exit), gate⟩

end Automaton

/-- Puts a pattern in front of an automaton. The copies of a repetition stand one behind another,
and those that may be left out lead to its end. -/
def Regex.before (r : Regex) (m : Automaton) : Automaton :=
  match r with
  | empty => m
  | one s => m.push (.read s m.start)
  | cat a b => a.before (b.before m)
  | alt a b =>
    let exit := m.start
    let ⟨moves, first⟩ := a.before m
    let m := b.before ⟨moves, exit⟩
    m.push (.fork first m.start)
  | times a least most =>
    let (least, most) := a.bounds least most
    let m := match most with
      | none => m.loop a.before
      | some most =>
        let exit := m.start
        Nat.repeat (fun m => let m := a.before m; m.push (.fork m.start exit)) (most - least) m
    Nat.repeat a.before least m
  | group a => a.before m
  | place p => m.push (.check p m.start)

namespace Automaton

/-- The automaton that accepts what the pattern matches. -/
def ofRegex (r : Regex) : Automaton :=
  r.before ⟨#[.accept], 0⟩

/-- What is known at a place of the text. -/
structure Front where
  /-- The number of the last place that each state was followed at. -/
  seen : Array Nat
  /-- The sets that can be read there, and the states after them. -/
  reads : List (CharSet × Nat)
  accepted : Bool

/-- Follows the waiting states without reading, those once that were not followed at this place. -/
def follow (m : Automaton) (now : Nat) (holds : Place → Bool) (fuel : Nat) (f : Front)
    (waiting : List Nat) : Front :=
  match fuel, waiting with
  | 0, _ | _, [] => f
  | fuel + 1, i :: waiting =>
    let ⟨seen, reads, accepted⟩ := f
    if seen[i]? = some now then m.follow now holds fuel ⟨seen, reads, accepted⟩ waiting
    else
      let seen := seen.setIfInBounds i now
      match m.moves[i]? with
      | some (.read s next) => m.follow now holds fuel ⟨seen, (s, next) :: reads, accepted⟩ waiting
      | some (.check p next) =>
        m.follow now holds fuel ⟨seen, reads, accepted⟩ (if holds p then next :: waiting else waiting)
      | some (.fork a b) => m.follow now holds fuel ⟨seen, reads, accepted⟩ (a :: b :: waiting)
      | some .accept => m.follow now holds fuel ⟨seen, reads, true⟩ waiting
      | none => m.follow now holds fuel ⟨seen, reads, accepted⟩ waiting

/-- Searches the rest of a text from the place `now` on, where `waiting` was reached so far. Each
state adds at most two to those that wait. -/
def search (m : Automaton) (now : Nat) (seen : Array Nat) (before : Option Char)
    (waiting : List Nat) (cs : List Char) : Bool :=
  let waiting := m.start :: waiting
  let fuel := 2 * m.moves.size + waiting.length
  let f := m.follow now (Place.holds before cs.head?) fuel ⟨seen, [], false⟩ waiting
  f.accepted ||
    match cs with
    | [] => false
    | c :: rest =>
      m.search (now + 1) f.seen (some c)
        (f.reads.filterMap fun (s, next) => if s.contains c then some next else none) rest
termination_by cs

end Automaton

/-- The pattern matches somewhere in the text. Places are counted from one on. -/
def Regex.occursIn (r : Regex) (s : String) : Bool :=
  let m := Automaton.ofRegex r
  m.search 1 (Array.replicate m.moves.size 0) none [] s.toList

end Telemetry.Pattern
