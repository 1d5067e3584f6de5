import Telemetry.Log.Level
import Telemetry.Pattern.Parser
import Telemetry.Text.Alphanumeric
import Telemetry.Text.Cut
import Telemetry.Text.Blank

/-!
# Log directives

A directive sets a limit: for everything, or for a target, for a span in brackets and for fields of
it in braces. Without a limit it shows everything that it concerns. A field may have to match a
pattern, which cannot ask where words begin or end.
-/

namespace Telemetry

structure LogDirective where
  limit : LogLimit
  target : Option String
  span : Option String
  /-- The names of fields, with the values that are asked for. -/
  fields : List (String × Option String)
  deriving DecidableEq, Repr

namespace LogDirective

/-- Everything is shown. -/
def everything : LogDirective := ⟨⟨some .trace⟩, none, none, []⟩

/-- A limit that may be missing. -/
def limitOf? (cs : List Char) : Option LogLimit :=
  if cs.isEmpty then some ⟨some .trace⟩ else LogLimit.read? (String.ofList cs)

/-! ## Fields -/

/-- Digits, of which there must be some, with one point among them or around them. -/
def isMantissa (cs : List Char) : Bool :=
  match Text.cutFirstChars '.' cs with
  | some (a, b) => !(a.isEmpty && b.isEmpty) && (a ++ b).all Char.isDigit
  | none => !cs.isEmpty && cs.all Char.isDigit

def withoutSign : List Char → List Char
  | '+' :: r | '-' :: r => r
  | cs => cs

/-- A number with an optional sign, in digits or a word for one that is not finite. -/
def isNumber (cs : List Char) : Bool :=
  let cs := withoutSign (cs.map Char.toLower)
  ["inf", "infinity", "nan"].contains (String.ofList cs) ||
    match Text.cutFirstChars 'e' cs with
    | some (m, e) => isMantissa m && !(withoutSign e).isEmpty && (withoutSign e).all Char.isDigit
    | none => isMantissa cs

/-- A field, with a number or a pattern after an equals sign. What follows a second one does not
count. -/
def fieldOf? (cs : List Char) : Option (String × Option String) :=
  match Text.cutChars '=' cs with
  | [] => none
  | [name] => if name.isEmpty then none else some (String.ofList name, none)
  | name :: cs :: _ =>
    let value := String.ofList cs
    if isNumber cs || (Pattern.parse? value).any (!·.asksForWords) then
      some (String.ofList name, some value)
    else none

/-! ## Reading -/

/-- How far a directive has been read, and where the current part begins, counted in bytes. -/
inductive Stage where
  | start
  /-- In a word that is a target or a limit. -/
  | word (place : Nat)
  /-- In the brackets of a span. -/
  | span (place : Nat)
  /-- In the braces of a span. -/
  | field (place : Nat)
  /-- After the braces. -/
  | fields
  /-- After the brackets. -/
  | target
  | limit (place : Nat)
  | complete
  deriving DecidableEq, Repr

/-- A character that a target may begin with. -/
def targetStart (c : Char) : Bool :=
  Text.isAlphanumeric c || ['-', ':', '_'].contains c

/-- The characters that open and close the fields of a span. -/
def fieldMarks : Char × Char := ('\x7b', '\x7d')

/-- A word alone is a limit if it can be one, and else a target. -/
def ofWord (d : LogDirective) (word : List Char) : LogDirective :=
  match LogLimit.read? (String.ofList word) with
  | some limit => { d with limit, target := none }
  | none => { d with limit := ⟨some .trace⟩, target := some (String.ofList word) }

/-- Reads the character at a place of the directive, whose parts are taken from `text`. -/
def step (text : List Char) (d : LogDirective) (place : Nat) (c : Char) :
    Stage → Option (LogDirective × Stage)
  | .start =>
    if c = '[' then some (d, .span (place + 1))
    else if targetStart c then some (d, .word place)
    else none
  | .word p =>
    if c = '=' ∨ c = '[' then
      (Text.sliceBytes? p place text).map fun name =>
        ({ d with target := some (String.ofList name) },
          if c = '=' then .limit (place + 1) else .span (place + 1))
    else if c = ',' then (Text.dropBytes? p text).map fun word => (d.ofWord word, .complete)
    else some (d, .word p)
  | .span p =>
    if c = ']' then
      (Text.sliceBytes? p place text).map fun name =>
        ({ d with span := some (String.ofList name) }, .target)
    else if c = fieldMarks.1 then
      (Text.sliceBytes? p place text).map fun name =>
        ({ d with span := if name.isEmpty then none else some (String.ofList name) },
          .field (place + 1))
    else some (d, .span p)
  | .field p =>
    if c = fieldMarks.2 ∨ c = ',' then
      ((Text.sliceBytes? p place text).bind fieldOf?).map fun f =>
        ({ d with fields := d.fields ++ [f] },
          if c = ',' then .field (place + 1) else .fields)
    else some (d, .field p)
  | .fields => if c = ']' then some (d, .target) else none
  | .target => if c = '=' then some (d, .limit (place + 1)) else none
  | .limit p =>
    if c = ',' then
      ((Text.sliceBytes? p place text).bind limitOf?).map fun limit => ({ d with limit }, .complete)
    else some (d, .limit p)
  | .complete => none

/-- What was read when no character is left. -/
def finish (text : List Char) (d : LogDirective) : Stage → Option LogDirective
  | .word p => (Text.dropBytes? p text).map d.ofWord
  | .limit p => ((Text.dropBytes? p text).bind limitOf?).map fun limit => { d with limit }
  | .target | .complete => some d
  | .start | .span _ | .field _ | .fields => none

/-- Reads characters from a place on. -/
def readFrom (text : List Char) (d : LogDirective) (stage : Stage) (place : Nat) :
    List Char → Option LogDirective
  | [] => d.finish text stage
  | c :: r => do
    let (d, stage) ← d.step text place c stage
    d.readFrom text stage (place + c.utf8Size) r

/-- Reads a directive. Blank characters around it are not read, but places are counted from the
first character that is, and parts are taken from the text as it is; so a directive with a blank in
front loses characters, and a limit with a blank behind is none. -/
def parse? (s : String) : Option LogDirective :=
  everything.readFrom s.toList .start 0 (Text.trimChars s.toList)

/-- The directive asks for values of fields. -/
def asksForValues (d : LogDirective) : Bool :=
  d.fields.any (·.2.isSome)

end LogDirective

end Telemetry
