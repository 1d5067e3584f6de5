import Telemetry.Pattern.Word

/-!
# Patterns

A pattern is a regular expression with conditions on the place in the text. Counted repetitions are
kept as they are written.
-/

namespace Telemetry.Pattern

/-- A condition on the characters around a place. -/
inductive Place where
  | textStart
  | textEnd
  | lineStart
  | lineEnd
  /-- A word begins or ends. -/
  | wordEdge
  | noWordEdge
  | wordStart
  | wordEnd
  /-- No word goes on from before. -/
  | notInWord
  /-- No word goes on. -/
  | notBeforeWord
  deriving DecidableEq, Repr

namespace Place

/-- Whether the condition holds between two characters, where `none` stands for an end. -/
def holds (before after : Option Char) : Place → Bool
  | textStart => before.isNone
  | textEnd => after.isNone
  | lineStart => before.isNone || before == some '\n'
  | lineEnd => after.isNone || after == some '\n'
  | wordEdge => before.any isWordChar != after.any isWordChar
  | noWordEdge => before.any isWordChar == after.any isWordChar
  | wordStart => !before.any isWordChar && after.any isWordChar
  | wordEnd => before.any isWordChar && !after.any isWordChar
  | notInWord => !before.any isWordChar
  | notBeforeWord => !after.any isWordChar

/-- The condition is about words. -/
def isWordly : Place → Bool
  | textStart | textEnd | lineStart | lineEnd => false
  | _ => true

end Place

inductive Regex where
  | empty
  | one (s : CharSet)
  | cat (a b : Regex)
  | alt (a b : Regex)
  /-- At least `least` times, and at most `most` times if that is given. -/
  | times (a : Regex) (least : Nat) (most : Option Nat)
  /-- A part whose place in the text could be asked for. -/
  | group (a : Regex)
  | place (p : Place)
  deriving DecidableEq, Repr

namespace Regex

/-- Matches no character. -/
def isNarrow : Regex → Bool
  | empty | place _ => true
  | one _ => false
  | cat a b | alt a b => a.isNarrow && b.isNarrow
  | times a _ most => a.isNarrow || most == some 0
  | group a => a.isNarrow

/-- Some condition in the pattern is about words. -/
def asksForWords : Regex → Bool
  | empty | one _ => false
  | cat a b | alt a b => a.asksForWords || b.asksForWords
  | times a _ _ | group a => a.asksForWords
  | place p => p.isWordly

/-- Bounds of a repetition; nothing has to be repeated that matches no character. -/
def bounds (a : Regex) (least : Nat) (most : Option Nat) : Nat × Option Nat :=
  if a.isNarrow then (min least 1, some (min (most.getD 1) 1)) else (least, most)

end Regex

end Telemetry.Pattern
