import Telemetry.Pattern.Size
import Telemetry.Text.Alphanumeric
import Telemetry.Text.Decimal
import Telemetry.Text.Radix

/-!
# Reading patterns

The grammar has literals, the dot, classes in brackets, escapes of characters, classes and places,
groups, alternatives and repetitions. A group may set flags for the rest of the group that it stands
in, or for itself. How deep parts stand in one another is counted as the height of a part, and is
limited.
-/

namespace Telemetry.Pattern

structure Flags where
  anyCase : Bool
  /-- The dot matches a line feed too. -/
  dotAll : Bool
  /-- Places are ends of lines. -/
  lines : Bool
  deriving DecidableEq, Repr

def Flags.plain : Flags := ⟨false, false, false⟩

/-! ## Escapes -/

/-- What an escape stands for. -/
inductive Escape where
  | char (c : Char)
  | set (s : CharSet)
  | place (p : Place)

namespace Escape

/-- What a letter stands for behind a backslash. Other letters and digits have no meaning. -/
def ofLetter? : Char → Option Escape
  | 'd' => some (set .digit)
  | 'D' => some (set CharSet.digit.complement)
  | 's' => some (set .blank)
  | 'S' => some (set CharSet.blank.complement)
  | 'w' => some (set .word)
  | 'W' => some (set CharSet.word.complement)
  | 'A' => some (place .textStart)
  | 'z' => some (place .textEnd)
  | 'b' => some (place .wordEdge)
  | 'B' => some (place .noWordEdge)
  | '<' => some (place .wordStart)
  | '>' => some (place .wordEnd)
  | 'a' => some (char '\x07')
  | 'f' => some (char '\x0c')
  | 't' => some (char '\t')
  | 'n' => some (char '\n')
  | 'r' => some (char '\r')
  | 'v' => some (char '\x0b')
  | c => if c.toNat < 128 ∧ ¬ c.isAlphanum then some (char c) else none

/-- The conditions on words that have names. -/
def ofName? (name : List Char) : Option Escape :=
  match String.ofList name with
  | "start" => some (place .wordStart)
  | "end" => some (place .wordEnd)
  | "start-half" => some (place .notInWord)
  | "end-half" => some (place .notBeforeWord)
  | _ => none

def inName (c : Char) : Bool := c.isAlpha || c = '-'

/-- Reads a code of some digits, or of any number of them in braces. -/
def readCode (digits : Nat) : List Char → Option (Escape × List Char)
  | '\x7b' :: r =>
    let code := r.takeWhile (· ≠ '\x7d')
    match r.drop code.length with
    | _ :: rest => (Text.codeChar? code).map fun c => (char c, rest)
    | [] => none
  | cs =>
    if digits ≤ cs.length then
      (Text.codeChar? (cs.take digits)).map fun c => (char c, cs.drop digits)
    else none

/-- Reads an escape after its backslash. -/
def read : List Char → Option (Escape × List Char)
  | 'x' :: r => readCode 2 r
  | 'u' :: r => readCode 4 r
  | 'U' :: r => readCode 8 r
  | 'b' :: '\x7b' :: c :: r =>
    if inName c then
      let name := (c :: r).takeWhile inName
      match (c :: r).drop name.length with
      | '\x7d' :: rest => (ofName? name).map (·, rest)
      | _ => none
    else some (place .wordEdge, '\x7b' :: c :: r)
  | ['b', '\x7b'] => none
  | c :: r => (ofLetter? c).map (·, r)
  | [] => none

end Escape

/-! ## Classes in brackets -/

/-- The named classes of ASCII characters. -/
def namedClass? (name : List Char) : Option (List (Nat × Nat)) :=
  match String.ofList name with
  | "alnum" => some [(48, 57), (65, 90), (97, 122)]
  | "alpha" => some [(65, 90), (97, 122)]
  | "ascii" => some [(0, 127)]
  | "blank" => some [(9, 9), (32, 32)]
  | "cntrl" => some [(0, 31), (127, 127)]
  | "digit" => some [(48, 57)]
  | "graph" => some [(33, 126)]
  | "lower" => some [(97, 122)]
  | "print" => some [(32, 126)]
  | "punct" => some [(33, 47), (58, 64), (91, 96), (123, 126)]
  | "space" => some [(9, 13), (32, 32)]
  | "upper" => some [(65, 90)]
  | "word" => some [(48, 57), (65, 90), (95, 95), (97, 122)]
  | "xdigit" => some [(48, 57), (65, 70), (97, 102)]
  | _ => none

/-- Reads a named class after its opening bracket. It is closed under letter case and negated on its
own. -/
def readNamedClass (anyCase : Bool) (cs : List Char) : Option (CharSet × List Char) :=
  match cs with
  | ':' :: r =>
    let (negated, r) := match r with
      | '^' :: r => (true, r)
      | r => (false, r)
    let name := r.takeWhile fun c => c ≠ ':'
    match r.drop name.length with
    | ':' :: ']' :: rest => (namedClass? name).map fun rs =>
        let s : CharSet := if anyCase then .anyCase ⟨rs⟩ else ⟨rs⟩
        (if negated then s.complement else s, rest)
    | _ => none
  | _ => none

/-- Reads one character or escape inside brackets, where places have no meaning. -/
def readClassItem : List Char → Option (Escape × List Char)
  | [] => none
  | '\\' :: r =>
    match Escape.read r with
    | some (.place _, _) => none
    | item => item
  | c :: r => some (.char c, r)

/-- The characters of an item that stands for itself. -/
def itemSet : Escape → CharSet
  | .char c => .single c
  | .set s => s
  | .place _ => .none

/-- Reads a character, a range or a class escape inside brackets. -/
def readClassRange (cs : List Char) : Option (CharSet × List Char) := do
  let (first, r) ← readClassItem cs
  match r with
  | [] => none
  | '-' :: q :: r' =>
    if q = ']' ∨ q = '-' then some (itemSet first, r)
    else
      match first, ← readClassItem (q :: r') with
      | .char a, (.char b, rest) =>
        if a ≤ b then some (⟨[(a.toNat, b.toNat)]⟩, rest) else none
      | _, _ => none
  | ['-'] => none
  | r => some (itemSet first, r)

/-- The operation that joins what was read of a class to what follows. -/
inductive SetOperator where
  | inter | minus | symmDiff

def SetOperator.apply : SetOperator → CharSet → CharSet → CharSet
  | inter => .inter
  | minus => .minus
  | symmDiff => .symmDiff

/-- A class whose closing bracket is still to come. -/
structure OpenClass where
  negated : Bool
  /-- The left side of a pending operation, and its height. -/
  left : Option (SetOperator × CharSet × Nat)
  /-- The right side, or all if no operation is pending. -/
  items : CharSet
  count : Nat
  /-- The greatest height of an item. -/
  height : Nat

namespace OpenClass

def add (o : OpenClass) (s : CharSet) (height : Nat) : OpenClass :=
  { o with items := o.items.union s, count := o.count + 1, height := max o.height height }

/-- Several items stand in a union. -/
def itemsHeight (o : OpenClass) : Nat :=
  if 2 ≤ o.count then o.height + 1 else o.height

/-- The set so far and its height. With letters of any case both sides of an operation are closed
before it. -/
def whole (o : OpenClass) (flags : Flags) : CharSet × Nat :=
  let close (s : CharSet) : CharSet := if flags.anyCase then s.anyCase else s
  match o.left with
  | some (operator, s, height) =>
    (operator.apply (close s) (close o.items), max height o.itemsHeight + 1)
  | none => (o.items, o.itemsHeight)

def operate (o : OpenClass) (flags : Flags) (operator : SetOperator) : OpenClass :=
  { o with left := some (operator, o.whole flags), items := .none, count := 0, height := 0 }

/-- Letter case is closed before the class is negated. -/
def close (o : OpenClass) (flags : Flags) : CharSet × Nat :=
  let (s, height) := o.whole flags
  let s := if flags.anyCase then s.anyCase else s
  (if o.negated then s.complement else s, height + 1)

/-- Reads what may follow an opening bracket: a negation, hyphens and a closing bracket. -/
def start (cs : List Char) : OpenClass × List Char :=
  let (negated, cs) := match cs with
    | '^' :: r => (true, r)
    | r => (false, r)
  let hyphens := cs.takeWhile (· = '-')
  let cs := cs.drop hyphens.length
  let o : OpenClass := ⟨negated, none, .none, 0, 0⟩
  match hyphens, cs with
  | [], ']' :: r => (o.add (.single ']') 0, r)
  | hyphens, r => (hyphens.foldl (fun o c => o.add (.single c) 0) o, r)

end OpenClass

/-- Reads a class up to the bracket that closes it. The outer classes are those still open. -/
def readClass (flags : Flags) (fuel : Nat) (o : OpenClass) (outer : List OpenClass)
    (cs : List Char) : Option ((CharSet × Nat) × List Char) :=
  match fuel with
  | 0 => none
  | fuel + 1 =>
    match cs with
    | [] => none
    | '[' :: r =>
      match readNamedClass flags.anyCase r with
      | some (s, r) => readClass flags fuel (o.add s 0) outer r
      | none =>
        let (inner, r) := OpenClass.start r
        readClass flags fuel inner (o :: outer) r
    | ']' :: r =>
      let (s, height) := o.close flags
      match outer with
      | [] => some ((s, height), r)
      | p :: outer => readClass flags fuel (p.add s height) outer r
    | '&' :: '&' :: r => readClass flags fuel (o.operate flags .inter) outer r
    | '-' :: '-' :: r => readClass flags fuel (o.operate flags .minus) outer r
    | '~' :: '~' :: r => readClass flags fuel (o.operate flags .symmDiff) outer r
    | c :: r =>
      match readClassRange (c :: r) with
      | some (s, r) => readClass flags fuel (o.add s 0) outer r
      | none => none

/-! ## Repetitions and groups -/

/-- Reads a count, which blank characters may surround. -/
def readCount (cs : List Char) : Option (Nat × List Char) :=
  let cs := cs.dropWhile Text.isBlank
  let digits := cs.takeWhile Char.isDigit
  (Text.digitsValue? digits).bind fun n =>
    if n < UInt32.size then some (n, (cs.drop digits.length).dropWhile Text.isBlank) else none

/-- Reads the bounds of a repetition after the opening brace. -/
def readBounds (cs : List Char) : Option ((Nat × Option Nat) × List Char) := do
  let (least, r) ← readCount cs
  match r with
  | '\x7d' :: r => some ((least, some least), r)
  | ',' :: '\x7d' :: r => some ((least, none), r)
  | ',' :: r =>
    let (most, r) ← readCount r
    match r with
    | '\x7d' :: r => if least ≤ most then some ((least, some most), r) else none
    | _ => none
  | _ => none

/-- Reads flags up to the colon or bracket that ends them. No mark comes twice, and at least one flag
follows a minus. -/
def readFlags (f : Flags) (seen : List Char) : List Char → Option (Flags × Bool × List Char)
  | [] => none
  | c :: r =>
    let on := !seen.contains '-'
    if c = ')' ∨ c = ':' then
      if seen.head? = some '-' then none else some (f, c = ':', r)
    else if seen.contains c then none
    else
      match c with
      | 'i' => readFlags { f with anyCase := on } (c :: seen) r
      | 's' => readFlags { f with dotAll := on } (c :: seen) r
      | 'm' => readFlags { f with lines := on } (c :: seen) r
      | 'u' => if on then readFlags f (c :: seen) r else none
      | 'U' | '-' => readFlags f (c :: seen) r
      | _ => none

/-- A character of the name of a group, the first one if `first`. -/
def inGroupName (first : Bool) (c : Char) : Bool :=
  c = '_' || if first then Text.isAlphabetic c
    else Text.isAlphanumeric c || ['.', '[', ']'].contains c

/-- Reads the name of a group up to the mark that ends it. -/
def readGroupName (cs : List Char) : Option (List Char × List Char) :=
  let name := cs.takeWhile (· ≠ '>')
  match name, cs.drop name.length with
  | c :: r, _ :: rest =>
    if inGroupName true c && r.all (inGroupName false) then some (name, rest) else none
  | _, _ => none

/-- A part of a pattern. -/
structure Part where
  regex : Regex
  height : Nat

/-- A group whose closing bracket is still to come. -/
structure OpenGroup where
  /-- The flags outside the group. -/
  outside : Flags
  /-- The place of the group could be asked for. -/
  capturing : Bool
  /-- The alternatives that are complete, last one first. -/
  alternatives : List Part
  /-- The parts of the current alternative, last one first; `none` is a change of flags. -/
  parts : List (Option Part)

namespace OpenGroup

def new (outside : Flags) (capturing : Bool) : OpenGroup := ⟨outside, capturing, [], []⟩

/-- One above the greatest height. -/
def above (heights : List Nat) : Nat :=
  heights.foldl max 0 + 1

/-- The current alternative. It is higher than its parts if it has several. -/
def sequence (g : OpenGroup) : Part :=
  match g.parts with
  | [] | [none] => ⟨.empty, 0⟩
  | [some p] => p
  | parts =>
    let known := parts.filterMap id
    let regex := match known.map (·.regex) with
      | [] => Regex.empty
      | r :: rs => rs.foldl (fun r p => .cat p r) r
    ⟨regex, above (known.map (·.height))⟩

def whole (g : OpenGroup) : Part :=
  let last := g.sequence
  match g.alternatives with
  | [] => last
  | ps => ⟨ps.foldl (fun r p => .alt p.regex r) last.regex, above (last.height :: ps.map (·.height))⟩

/-- The group as a part of the one around it. -/
def close (g : OpenGroup) : Part :=
  let p := g.whole
  ⟨if g.capturing then .group p.regex else p.regex, p.height + 1⟩

def add (g : OpenGroup) (p : Part) : OpenGroup :=
  { g with parts := some p :: g.parts }

def nextAlternative (g : OpenGroup) : OpenGroup :=
  { g with alternatives := g.sequence :: g.alternatives, parts := [] }

/-- Repeats the last part, which must be there. -/
def repeatLast (g : OpenGroup) (least : Nat) (most : Option Nat) : Option OpenGroup :=
  match g.parts with
  | some p :: rest =>
    some { g with parts := some ⟨.times p.regex least most, p.height + 1⟩ :: rest }
  | _ => none

end OpenGroup

/-- What has been read of a pattern. -/
structure Reading where
  flags : Flags
  group : OpenGroup
  /-- The groups around it, which are still open. -/
  outer : List OpenGroup
  names : List (List Char)

namespace Reading

def start : Reading := ⟨.plain, .new .plain false, [], []⟩

def add (s : Reading) (r : Regex) (height : Nat) : Reading :=
  { s with group := s.group.add ⟨r, height⟩ }

/-- Begins a group. -/
def enter (s : Reading) (inside : Flags) (capturing : Bool) : Reading :=
  { s with flags := inside, group := .new s.flags capturing, outer := s.group :: s.outer }

/-- Begins a group with a name, which no other group has. -/
def enterNamed (s : Reading) (cs : List Char) : Option (Reading × List Char) :=
  (readGroupName cs).bind fun (name, r) =>
    if s.names.contains name then none
    else some ({ s with names := name :: s.names }.enter s.flags true, r)

/-- Reads what follows the opening bracket of a group. -/
def readOpening (s : Reading) (cs : List Char) : Option (Reading × List Char) :=
  match cs with
  | '?' :: 'P' :: '<' :: r => s.enterNamed r
  | '?' :: '<' :: r => s.enterNamed r
  | '?' :: ')' :: _ => none
  | '?' :: r =>
    (readFlags s.flags [] r).map fun (f, own, r) =>
      if own then (s.enter f false, r)
      else ({ s with flags := f, group := { s.group with parts := none :: s.group.parts } }, r)
  | r => some (s.enter s.flags true, r)

/-- Ends a group. -/
def leave (s : Reading) : Option Reading :=
  match s.outer with
  | [] => none
  | p :: outer => some { s with flags := s.group.outside, group := p.add s.group.close, outer }

/-- Drops the mark of a reluctant repetition, which matches the same texts. -/
def dropReluctant : List Char → List Char
  | '?' :: r => r
  | r => r

/-- Repeats the last part. -/
def repeatLast (s : Reading) (least : Nat) (most : Option Nat) (cs : List Char) :
    Option (Reading × List Char) :=
  (s.group.repeatLast least most).map fun group => ({ s with group }, dropReluctant cs)

def literal (s : Reading) (c : Char) : Reading :=
  s.add (.one (if s.flags.anyCase then .anyCase (.single c) else .single c)) 0

def dot (s : Reading) : Reading :=
  s.add (.one (if s.flags.dotAll then .all else (CharSet.single '\n').complement)) 0

def place (s : Reading) (p : Place) : Reading :=
  s.add (.place p) 0

/-- Reads one part, or the beginning or the end of a group. -/
def step (s : Reading) : List Char → Option (Reading × List Char)
  | [] => none
  | '|' :: r => some ({ s with group := s.group.nextAlternative }, r)
  | '(' :: r => s.readOpening r
  | ')' :: r => s.leave.map (·, r)
  | '*' :: r => s.repeatLast 0 none r
  | '+' :: r => s.repeatLast 1 none r
  | '?' :: r => s.repeatLast 0 (some 1) r
  | '\x7b' :: r => (readBounds r).bind fun ((least, most), r) => s.repeatLast least most r
  | '[' :: r =>
    let (o, r) := OpenClass.start r
    (readClass s.flags (r.length + 1) o [] r).map fun ((set, height), r) =>
      (s.add (.one set) height, r)
  | '.' :: r => some (s.dot, r)
  | '^' :: r => some (s.place (if s.flags.lines then .lineStart else .textStart), r)
  | '$' :: r => some (s.place (if s.flags.lines then .lineEnd else .textEnd), r)
  | '\\' :: r =>
    (Escape.read r).map fun (escape, r) =>
      match escape with
      | .char c => (s.literal c, r)
      | .set set => (s.add (.one set) 0, r)
      | .place p => (s.place p, r)
  | c :: r => some (s.literal c, r)

/-- Reads a pattern to its end. Each step takes a character at least. -/
def run (fuel : Nat) (s : Reading) (cs : List Char) : Option Part :=
  match fuel, cs with
  | _, [] => if s.outer.isEmpty then some s.group.whole else none
  | 0, _ => none
  | fuel + 1, cs => (s.step cs).bind fun (s, r) => s.run fuel r

end Reading

/-- The most that parts may stand in one another. -/
def greatestHeight : Nat := 250

/-- The pattern that a text spells, if it is well formed. -/
def parse? (s : String) : Option Regex :=
  (Reading.start.run s.length s.toList).bind fun p =>
    if p.height ≤ greatestHeight then some p.regex else none

/-- Why a pattern is refused. -/
inductive Fault where
  | malformed
  /-- Well formed, but too large to be searched for. -/
  | tooLarge
  deriving DecidableEq, Repr

def Fault.message : Fault → String
  | malformed => "regex parse error"
  | tooLarge => s!"Compiled regex exceeds size limit of {Regex.sizeLimit} bytes."

/-- The pattern that a text spells, if it can be searched for. -/
def compile (s : String) : Except Fault Regex :=
  match parse? s with
  | none => .error .malformed
  | some r => if r.fits then .ok r else .error .tooLarge

end Telemetry.Pattern
