import Telemetry.Options.Name

/-!
# Command lines

Options begin with two dashes. A value stands in the same word after an equals sign, or is the next
word, which then may not begin with a dash unless it is nothing else. Every option may be given
once, but tags any number of times. A value that is the next word is only looked at when the next
option, the question for help or the end comes, so a word that is unknown is the first error.
-/

namespace Telemetry

/-- What a word of the command line is. -/
inductive ArgumentWord where
  /-- A name with a value behind an equals sign, if there is one. -/
  | long (name : String) (value : Option String)
  /-- One dash and a letter. -/
  | short (letter : Char)
  /-- After it, no word is an option. -/
  | stop
  | plain
  deriving DecidableEq, Repr

def ArgumentWord.of (s : String) : ArgumentWord :=
  match s.toList with
  | ['-', '-'] => .stop
  | '-' :: '-' :: r =>
    match Text.cutFirstChars '=' r with
    | some (name, value) => .long (String.ofList name) (some (String.ofList value))
    | none => .long (String.ofList r) none
  | '-' :: c :: _ => .short c
  | _ => .plain

/-- The options given so far, and the one that waits to be given its value, with the value if it
has come. -/
structure ArgumentScan where
  given : Given
  pending : Option (OptionName × Option String)

namespace ArgumentScan

def start : ArgumentScan := ⟨.nothing, none⟩

/-- Gives an option its value, which it may not have yet unless it takes several. -/
def give (s : ArgumentScan) (o : OptionName) (value : String) :
    Except ArgumentError ArgumentScan := do
  if o ≠ .tags && s.given.has o then throw .conflict
  let given ← s.given.put o value
  pure { s with given }

/-- Gives the waiting option its value. -/
def settle (s : ArgumentScan) : Except ArgumentError ArgumentScan :=
  match s.pending with
  | none => .ok s
  | some (_, none) => .error .invalidValue
  | some (o, some value) => give ⟨s.given, none⟩ o value

/-- Answers a question for help or the version. -/
def asked (s : ArgumentScan) (answer : ArgumentError) : Except ArgumentError ArgumentScan := do
  let _ ← s.settle
  throw answer

/-- A name with dashes in front, and its value if it is in the same word. -/
def long (s : ArgumentScan) (name : String) (value : Option String) :
    Except ArgumentError ArgumentScan :=
  let question := if name = "help" then some ArgumentError.help
    else if name = "version" then some .version
    else none
  match question, OptionName.ofArgument? name, value with
  | some _, _, some _ => .error .tooManyValues
  | some answer, _, none => s.asked answer
  | none, none, _ => .error .unknown
  | none, some o, some value =>
    if o.isFlag then .error .tooManyValues
    else do (← s.settle).give o value
  | none, some o, none => do
    let s ← s.settle
    if o.isFlag then s.give o "true" else pure { s with pending := some (o, none) }

/-- A word that is no option is the value of the one that waits for it. -/
def plain (s : ArgumentScan) (word : String) : Except ArgumentError ArgumentScan :=
  match s.pending with
  | some (o, none) => .ok { s with pending := some (o, some word) }
  | _ => .error .unknown

/-- Reads the words that are left. -/
def run (s : ArgumentScan) : List String → Except ArgumentError ArgumentScan
  | [] => s.settle
  | word :: rest =>
    match ArgumentWord.of word with
    | .stop => if rest.isEmpty then s.settle else .error .unknown
    | .long name value => do run (← s.long name value) rest
    | .short letter =>
      if letter = 'h' then s.asked .help
      else if letter = 'V' then s.asked .version
      else .error .unknown
    | .plain => do run (← s.plain word) rest

end ArgumentScan

namespace Given

/-- What a command line gives, without the name of the program. -/
def ofArguments (words : List String) : Except ArgumentError Given := do
  pure (← ArgumentScan.start.run words).given

/-- Adds what the environment gives, for options that are not given yet. -/
def addEnvironment (environment : String → Option String) (g : Given) :
    Except ArgumentError Given :=
  g.addTexts fun o => environment o.environment

/-- Adds the defaults of the command line, for options that are not given. -/
def addDefaults (g : Given) : Except ArgumentError Given :=
  g.addTexts OptionName.defaultText?

end Given

end Telemetry
