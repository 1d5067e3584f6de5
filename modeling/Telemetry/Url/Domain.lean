import Telemetry.Text.Composition
import Telemetry.Text.Direction
import Telemetry.Text.Joining
import Telemetry.Url.DomainTable
import Telemetry.Url.Punycode

/-!
# Domains

A domain is written in many ways. Each of its characters has an image, and the images are composed;
a label in Punycode stands for what it spells. What comes of this may not begin a label with a mark,
join letters where nothing is to be joined, or mix directions of writing. Then each label is written
in ASCII.
-/

namespace Telemetry.Url.Domain

open Text

/-- The composed images of characters, if they are all allowed. -/
def image? (cs : List Char) : Option (List Char) :=
  (cs.mapM domainImage?).map (compose ·.flatten)

def isAscii (cs : List Char) : Bool :=
  cs.all (·.toNat < 0x80)

/-! ## Labels in Punycode -/

/-- How a label in Punycode begins. -/
def codedStart : List Char := "xn--".toList

/-- The most characters that a label may have in Punycode. -/
def longestCoded : Nat := 2000

/-- What the rest of a label in Punycode spells. It holds a character beyond ASCII, and its
characters are their own images. -/
def decoded? (cs : List Char) : Option (List Char) := do
  if cs.isEmpty || cs.getLast? = some '-' || !isAscii cs || longestCoded < cs.length then none
  else
    let label ← Punycode.decode? cs
    if image? label = some label then some label else none

/-- The label that a label in small letters stands for. -/
def meaning? (label : List Char) : Option (List Char) :=
  if codedStart.isPrefixOf label then decoded? (label.drop codedStart.length) else some label

/-- The label in ASCII. -/
def asciiLabel (label : List Char) : List Char :=
  if isAscii label then label else codedStart ++ Punycode.encode label

/-! ## Joiners -/

def nonJoiner : Char := '\u200c'

def joiner : Char := '\u200d'

/-- The class of the signs that take the vowel from a letter. -/
def viramaClass : Nat := 9

/-- A joiner may follow a virama. What keeps letters apart may also stand between two letters that
would be joined. The characters before come nearest first. -/
def joinerFits (before : List Char) (c : Char) (after : List Char) : Bool :=
  match before with
  | [] => false
  | p :: _ =>
    combiningClass p = viramaClass ||
      (c = nonJoiner && ((before.dropWhile isPassedOver).head?.any joinsAfter) &&
        ((after.dropWhile isPassedOver).head?.any joinsBefore))

def joinersFit (before : List Char) : List Char → Bool
  | [] => true
  | c :: r =>
    (if c = joiner || c = nonJoiner then joinerFits before c r else true) &&
      joinersFit (c :: before) r

/-- The most characters of a label beyond ASCII. -/
def longestLabel : Nat := 1000

/-- A label that may stand in a domain of any direction. -/
def isLabel (label : List Char) : Bool :=
  !label.head?.any isMark && joinersFit [] label &&
    (isAscii label || label.length ≤ longestLabel)

/-! ## Directions -/

def runsFromRight (d : Direction) : Bool :=
  d = .right || d = .arabic

/-- Something is written from right to left. -/
def hasRight (cs : List Char) : Bool :=
  cs.any fun c => runsFromRight (direction c) || direction c = .arabicNumber

/-- The directions without the marks at the end. -/
def withoutMarks (ds : List Direction) : List Direction :=
  (ds.reverse.dropWhile (· = .mark)).reverse

/-- From left to right there are only letters and European digits; a letter or digit is last. -/
def fitsLeft (ds : List Direction) : Bool :=
  ds.all (fun d => [.left, .europeanNumber, .neutral, .mark].contains d) &&
    (withoutMarks ds).getLast?.all fun d => d = .left || d = .europeanNumber

/-- From right to left there are digits of one kind at most; a letter or digit is last. -/
def fitsRight (ds : List Direction) : Bool :=
  !ds.contains .left && !(ds.contains .europeanNumber && ds.contains .arabicNumber) &&
    (withoutMarks ds).getLast?.all fun d =>
      runsFromRight d || d = .europeanNumber || d = .arabicNumber

/-- A label of a domain where something is written from right to left. Its first letter tells its
direction. -/
def fitsDirection (label : List Char) : Bool :=
  let ds := label.map direction
  match ds with
  | [] => true
  | d :: _ => if d = .left then fitsLeft ds else runsFromRight d && fitsRight ds

/-! ## Whole domains -/

/-- Characters that no domain may hold, whatever it stands for. -/
def forbidden (c : Char) : Bool :=
  c.toNat ≤ 0x20 || c.toNat = 0x7F ||
    ['%', '#', '/', ':', '<', '>', '?', '@', '[', '\\', ']', '^', '|'].contains c

/-- The labels that a domain stands for. -/
def labels? (cs : List Char) : Option (List (List Char)) := do
  let name ← image? cs
  if name.any forbidden then none
  else
    let labels ← (cutChars '.' name).mapM meaning?
    if labels.all isLabel && (!labels.any hasRight || labels.all fitsDirection) then some labels
    else none

/-- The name of a domain in ASCII. -/
def ascii? (cs : List Char) : Option (List Char) :=
  (labels? cs).map fun labels => joinChars '.' (labels.map asciiLabel)

end Telemetry.Url.Domain
