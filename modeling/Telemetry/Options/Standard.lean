import Telemetry.Options.Arguments
import Telemetry.Options.Engines
import Telemetry.Options.File
import Telemetry.Pattern.Automaton
import Telemetry.Pattern.Parser

/-!
# The engines of the program

The command line is read first, then the environment, and the defaults are added at last.
-/

namespace Telemetry

/-- What the command line gives, what the environment adds to it, and what the defaults add. -/
def Matches.ofSteps (commanded given all : Given) : Matches where
  options := all.complete
  source o :=
    if commanded.has o then some .commandLine
    else if given.has o then some .environment
    else if all.has o then some .default
    else none

namespace Engines

def readArguments (words : List String) (environment : String → Option String) :
    Except ArgumentError Matches := do
  let commanded ← Given.ofArguments words
  let given ← commanded.addEnvironment environment
  let all ← given.addDefaults
  pure (.ofSteps commanded given all)

def readFile (content : String) : Except String Given :=
  match Given.ofFile? content with
  | some g => .ok g
  | none => .error "not a file of options"

def readScheme (url : String) : Except String String :=
  ((Url.parse url).mapError Url.Error.message).map Url.scheme

def compile (source : String) : Except String (String → Bool) :=
  ((Pattern.compile source).mapError Pattern.Fault.message).map Pattern.Regex.occursIn

def standard : Engines := ⟨readArguments, readFile, readScheme, compile⟩

end Engines

end Telemetry
