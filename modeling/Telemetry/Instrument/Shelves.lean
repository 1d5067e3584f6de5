import Telemetry.Dict
import Telemetry.Instrument.Basic
import Telemetry.Instrument.Filter
import Telemetry.Text.Blank

/-!
# The maps of a registry

A registry keeps a map by name for each kind of instruments. Nothing but the check in front of the two
calls that create keeps a name out of two maps: lookups and removals go through the maps in a fixed
order and stop at the first that has the name.
-/

namespace Telemetry

/-- What is registered, with the serial number of its registration. An instrument registered again
under a name is told apart from the one that was removed. -/
structure Held (α : Type) where
  serial : Nat
  instrument : α

def Held.map {α β : Type} (f : α → β) (h : Held α) : Held β :=
  ⟨h.serial, f h.instrument⟩

abbrev Registration := Held Instrument

inductive RegistryError where
  | invalidName
  | kindMismatch (name : String) (existing requested : InstrumentKind)
  deriving DecidableEq, Repr

def RegistryError.message : RegistryError → String
  | invalidName => "metric name must not be empty"
  | kindMismatch name existing requested =>
    "metric '" ++ name ++ "' is already registered as a " ++ existing.name ++ ", not a " ++
      requested.name

structure Shelves where
  counters : Dict (Held Counter)
  gauges : Dict (Held Gauge)
  histograms : Dict (Held Histogram)
  meters : Dict (Held Meter)
  timers : Dict (Held Timer)
  /-- Serial numbers given out so far. -/
  issued : Nat

namespace Shelves

def empty : Shelves := ⟨.empty, .empty, .empty, .empty, .empty, 0⟩

/-- The map of a kind, with its instruments as ones of any kind. -/
def shelf (s : Shelves) : InstrumentKind → Dict Registration
  | .counter => s.counters.map (.map .counter)
  | .gauge => s.gauges.map (.map .gauge)
  | .histogram => s.histograms.map (.map .histogram)
  | .meter => s.meters.map (.map .meter)
  | .timer => s.timers.map (.map .timer)

/-- The order in which the maps are searched for a name. -/
def searchOrder : List InstrumentKind :=
  [.counter, .gauge, .histogram, .meter, .timer]

/-- The kind of the first map that has the name. -/
def kindOf (s : Shelves) (name : String) : Option InstrumentKind :=
  searchOrder.find? fun kind => (s.shelf kind).contains name

def get? (s : Shelves) (name : String) : Option Instrument :=
  (s.kindOf name).bind fun kind => ((s.shelf kind).get? name).map (·.instrument)

/-- No other kind holds the name. -/
def ensureFree (s : Shelves) (name : String) (requested : InstrumentKind) :
    Except RegistryError Unit :=
  match s.kindOf name with
  | some existing =>
    if existing = requested then .ok () else .error (.kindMismatch name existing requested)
  | none => .ok ()

/-- The check in front of a call that is to create an instrument of the requested kind. -/
def allow (s : Shelves) (name : String) (requested : InstrumentKind) : Except RegistryError Unit :=
  if Text.blank name then .error .invalidName else s.ensureFree name requested

/-- Puts something into the map of its kind. -/
def put (s : Shelves) (name : String) (reg : Registration) : Shelves :=
  match reg.instrument with
  | .counter c => { s with counters := s.counters.insert name ⟨reg.serial, c⟩ }
  | .gauge g => { s with gauges := s.gauges.insert name ⟨reg.serial, g⟩ }
  | .histogram h => { s with histograms := s.histograms.insert name ⟨reg.serial, h⟩ }
  | .meter m => { s with meters := s.meters.insert name ⟨reg.serial, m⟩ }
  | .timer t => { s with timers := s.timers.insert name ⟨reg.serial, t⟩ }

/-- Puts an instrument into the map of its kind under a new serial number. -/
def place (s : Shelves) (name : String) (i : Instrument) : Shelves :=
  { s.put name ⟨s.issued, i⟩ with issued := s.issued + 1 }

/-- Takes a name out of the map of one kind. -/
def drop (s : Shelves) (name : String) : InstrumentKind → Shelves
  | .counter => { s with counters := s.counters.erase name }
  | .gauge => { s with gauges := s.gauges.erase name }
  | .histogram => { s with histograms := s.histograms.erase name }
  | .meter => { s with meters := s.meters.erase name }
  | .timer => { s with timers := s.timers.erase name }

/-- What the map of one kind has under a name, with the rest. -/
def take? (s : Shelves) (name : String) (kind : InstrumentKind) : Option (Instrument × Shelves) :=
  ((s.shelf kind).get? name).map fun reg => (reg.instrument, s.drop name kind)

/-- Takes a name out of the first map that has it. -/
def remove (s : Shelves) (name : String) : Option Instrument × Shelves :=
  match searchOrder.findSome? (s.take? name) with
  | some (i, rest) => (some i, rest)
  | none => (none, s)

/-- Registers an instrument, in place of one of its kind that has the name. -/
def register (s : Shelves) (name : String) (i : Instrument) :
    Except RegistryError Registration × Shelves :=
  match s.allow name i.kind with
  | .error e => (.error e, s)
  | .ok _ => (.ok ⟨s.issued, i⟩, s.place name i)

/-- Leaves what was made of an instrument by using it, if it is still registered. -/
def putBack (s : Shelves) (name : String) (serial : Nat) (i : Instrument) : Shelves :=
  match (s.shelf i.kind).get? name with
  | some reg => if reg.serial = serial then s.put name ⟨serial, i⟩ else s
  | none => s

def size (s : Shelves) : Nat :=
  s.counters.size + s.gauges.size + s.histograms.size + s.meters.size + s.timers.size

/-- The accepted instruments of one kind by ascending name. -/
def group (s : Shelves) (filter : MetricFilter) (kind : InstrumentKind) :
    List (String × Registration) :=
  (s.shelf kind).entries.filter fun e => filter.accepts e.1

/-- All maps as one. Where two have a name, the one that is searched first has it here too. -/
def entries (s : Shelves) : Dict Registration :=
  searchOrder.foldr (fun kind others => others.merge (s.shelf kind)) .empty

end Shelves

/-- One kind of instruments with the map that it is kept in. -/
structure Family (α : Type) where
  kind : InstrumentKind
  wrap : α → Instrument
  shelf : Shelves → Dict (Held α)
  kind_wrap : ∀ a, (wrap a).kind = kind := by intro a; rfl
  shelf_kind : ∀ s : Shelves, s.shelf kind = (shelf s).map (.map wrap) := by intro s; rfl

namespace Family

def counters : Family Counter where
  kind := .counter
  wrap := .counter
  shelf := Shelves.counters

def gauges : Family Gauge where
  kind := .gauge
  wrap := .gauge
  shelf := Shelves.gauges

def histograms : Family Histogram where
  kind := .histogram
  wrap := .histogram
  shelf := Shelves.histograms

def meters : Family Meter where
  kind := .meter
  wrap := .meter
  shelf := Shelves.meters

def timers : Family Timer where
  kind := .timer
  wrap := .timer
  shelf := Shelves.timers

end Family

namespace Shelves

/-- What a family has under a name, which is `made` if there was nothing. -/
def obtain {α : Type} (F : Family α) (s : Shelves) (name : String) (made : α) :
    Except RegistryError (Held α) × Shelves :=
  match s.allow name F.kind with
  | .error e => (.error e, s)
  | .ok _ =>
    match (F.shelf s).get? name with
    | some held => (.ok held, s)
    | none => (.ok ⟨s.issued, made⟩, s.place name (F.wrap made))

section Maps

variable {s : Shelves} {kind : InstrumentKind} {name : String} {reg : Registration}

theorem kind_of_shelf (h : (s.shelf kind).get? name = some reg) : reg.instrument.kind = kind := by
  cases kind <;>
  · rw [shelf, Dict.get?_map] at h
    obtain ⟨held, _, rfl⟩ := Option.map_eq_some_iff.1 h
    rfl

theorem shelf_put (s : Shelves) (name : String) (reg : Registration) (kind : InstrumentKind) :
    (s.put name reg).shelf kind =
      if reg.instrument.kind = kind then (s.shelf kind).insert name reg else s.shelf kind := by
  obtain ⟨serial, i⟩ := reg
  cases i <;> cases kind <;> first | rfl | exact Dict.map_insert _ _ _ _

@[simp] theorem issued_put (s : Shelves) (name : String) (reg : Registration) :
    (s.put name reg).issued = s.issued := by
  obtain ⟨serial, i⟩ := reg
  cases i <;> rfl

@[simp] theorem shelf_place (s : Shelves) (name : String) (i : Instrument) (kind : InstrumentKind) :
    (s.place name i).shelf kind = (s.put name ⟨s.issued, i⟩).shelf kind := by
  cases kind <;> rfl

theorem shelf_drop (s : Shelves) (name : String) (kind other : InstrumentKind) :
    (s.drop name kind).shelf other =
      if kind = other then (s.shelf other).erase name else s.shelf other := by
  cases kind <;> cases other <;> first | rfl | exact Dict.map_erase _ _ _

@[simp] theorem issued_drop (s : Shelves) (name : String) (kind : InstrumentKind) :
    (s.drop name kind).issued = s.issued := by
  cases kind <;> rfl

theorem shelf_empty (kind : InstrumentKind) : empty.shelf kind = .empty := by
  cases kind <;> rfl

end Maps

end Shelves

end Telemetry
