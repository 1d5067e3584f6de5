import Telemetry.Options.Name

/-!
# Engines

What the options need to have read for them: the command line with the environment, files, URLs and
patterns. How that is done is left open here. An engine says what it has read, or why it cannot.
-/

namespace Telemetry

/-- Where an argument parser has the value of an option from. -/
inductive ValueSource where
  | commandLine
  | environment
  | default
  deriving DecidableEq, Repr

/-- The options that an argument parser has read, and where it has each of them from. -/
structure Matches where
  options : Options
  source : OptionName → Option ValueSource

/-- The option was asked for, and does not have its default. -/
def Matches.explicit (m : Matches) (o : OptionName) : Bool :=
  m.source o = some .commandLine || m.source o = some .environment

structure Engines where
  /-- Reads the words of a command line with the variables of an environment. -/
  arguments : List String → (String → Option String) → Except ArgumentError Matches
  /-- Reads the text of a file of options. -/
  file : String → Except String Given
  /-- The scheme of a URL. -/
  scheme : String → Except String String
  /-- The texts in which a pattern occurs. -/
  pattern : String → Except String (String → Bool)

end Telemetry
