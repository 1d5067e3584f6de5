import Telemetry.Text.LetterCase

/-!
# Small letters

Lowercasing follows the full Unicode mapping: each character has its small letter, capital I with a
dot has two characters, and capital sigma becomes the final form at the end of a word.
-/

namespace Telemetry.Text

/-- A cased character comes first, after characters that do not matter for case. -/
def meetsCased (cs : List Char) : Bool :=
  match cs.dropWhile (inRanges caseIgnorableRanges) with
  | [] => false
  | c :: _ => inRanges casedRanges c

/-- The small form of a character that stands between `before`, nearest first, and `after`. -/
def lowerChar (before : List Char) (c : Char) (after : List Char) : List Char :=
  if c = 'Σ' then
    if meetsCased before && !meetsCased after then ['ς'] else ['σ']
  else if c = 'İ' then ['i', '\u0307']
  else [applyRuns lowerRuns c]

def lowerChars (before : List Char) : List Char → List Char
  | [] => []
  | c :: r => lowerChar before c r ++ lowerChars (c :: before) r

def lowercase (s : String) : String :=
  String.ofList (lowerChars [] s.toList)

end Telemetry.Text
