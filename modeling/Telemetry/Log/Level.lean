import Telemetry.Text.Decimal

/-!
# Log levels

Five levels, each of which shows more than the one before. A limit is a level or shows nothing.
-/

namespace Telemetry

inductive LogLevel where
  | error
  | warn
  | info
  | debug
  | trace
  deriving DecidableEq, Repr, Inhabited

namespace LogLevel

/-- From the level that shows least. -/
def all : List LogLevel := [error, warn, info, debug, trace]

def name : LogLevel → String
  | error => "error"
  | warn => "warn"
  | info => "info"
  | debug => "debug"
  | trace => "trace"

def ofName? (s : String) : Option LogLevel :=
  all.find? fun l => l.name = s

end LogLevel

/-- The most that is shown: up to a level, or nothing. -/
structure LogLimit where
  level : Option LogLevel
  deriving DecidableEq, Repr

namespace LogLimit

/-- From the limit that shows least. -/
def all : List LogLimit := ⟨none⟩ :: LogLevel.all.map fun l => ⟨some l⟩

def name (l : LogLimit) : String :=
  match l.level with
  | some level => level.name
  | none => "off"

def rank (l : LogLimit) : Nat :=
  all.idxOf l

/-- The limit that shows more. -/
def max (a b : LogLimit) : LogLimit :=
  if a.rank < b.rank then b else a

/-- Reads a limit: its place, or its name in letters of any case. -/
def read? (s : String) : Option LogLimit :=
  match Text.readNat? 5 s with
  | some n => all[n]?
  | none => all.find? fun l => l.name.toList = s.toList.map Char.toLower

end LogLimit

end Telemetry
