import Telemetry.Log.Directive

/-!
# Log filters

A filter is a list of directives. Which directives are used is told by a variable of the environment
if it holds a list that can be read, and by the program otherwise.
-/

namespace Telemetry

/-- The directives between commas, of which empty ones do not count. -/
def LogDirective.parseList? (s : String) : Option (List LogDirective) :=
  ((Text.cut ',' s).filter (· ≠ "")).mapM LogDirective.parse?

/-- The most that any of the directives may show. Values of fields are only known late, so a filter
that asks for one may show everything. -/
def LogDirective.reach (ds : List LogDirective) : LogLimit :=
  if ds.any asksForValues then ⟨some .trace⟩
  else ds.foldl (fun l d => l.max d.limit) ⟨none⟩

/-- The directives that a program adds to its own level, in order. -/
structure LogFilter where
  directives : List String
  deriving DecidableEq, Repr

/-- Why a directive is refused. -/
inductive LogFault where
  /-- It has no target with a level. -/
  | form
  /-- Its parts cannot be read. -/
  | malformed
  deriving DecidableEq, Repr

/-- What can go wrong with logs. -/
inductive LogError where
  | invalidDirective (directive reason : String)
  | initFailed (reason : String)
  deriving DecidableEq, Repr

def LogError.message : LogError → String
  | invalidDirective directive reason => s!"Invalid log directive '{directive}': {reason}"
  | initFailed reason => "Failed to initialize logging: " ++ reason

def LogFault.reason : LogFault → String
  | form => "expected target=level"
  | malformed => "invalid filter directive"

namespace LogFilter

def empty : LogFilter := ⟨[]⟩

/-- Targets that are only interesting when something breaks. -/
def quietTargets : List String := ["hyper", "hyper_util", "reqwest", "h2", "rustls"]

/-- Why a trimmed directive cannot be added. -/
def fault (directive : String) : Option LogFault :=
  if !directive.toList.contains '=' then some .form
  else if (LogDirective.parse? directive).isNone then some .malformed
  else none

/-- Adds a directive, trimmed, if it has no fault. -/
def add (f : LogFilter) (directive : String) : Except (String × LogFault) LogFilter :=
  let directive := Text.trim directive
  match fault directive with
  | some why => .error (directive, why)
  | none => .ok ⟨f.directives ++ [directive]⟩

def addDefaults (f : LogFilter) : LogFilter :=
  ⟨f.directives ++ quietTargets.map (· ++ "=warn")⟩

/-- The filter in writing, the level of the program first. -/
def text (f : LogFilter) (level : LogLevel) : String :=
  Text.join ',' (level.name :: f.directives)

/-- The directives in use, given what the variable of the environment holds. -/
def build (f : LogFilter) (level : LogLevel) (given : Option String) :
    Except LogError (List LogDirective) :=
  match given.bind LogDirective.parseList? with
  | some ds => .ok ds
  | none =>
    match LogDirective.parseList? (f.text level) with
    | some ds => .ok ds
    | none =>
      .error (.initFailed s!"Failed to create filter '{f.text level}': {LogFault.malformed.reason}")

end LogFilter

end Telemetry
