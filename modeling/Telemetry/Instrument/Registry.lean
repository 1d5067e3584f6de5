import Telemetry.Instrument.Shelves

/-!
# Registries

A registry holds instruments by name, with the clock that they read. Each call that changes its maps
leaves every name in at most one of them.
-/

namespace Telemetry

namespace Shelves

/-- No name is in two maps. -/
def Apart (s : Shelves) : Prop :=
  ∀ name kind other, (s.shelf kind).contains name = true →
    (s.shelf other).contains name = true → kind = other

variable {s : Shelves} {name : String}

theorem mem_searchOrder (kind : InstrumentKind) : kind ∈ searchOrder := by
  cases kind <;> decide

/-- While the maps are apart a search in any order finds the map that has the name. -/
theorem Apart.find?_eq_some_iff (h : s.Apart) {order : List InstrumentKind}
    (horder : ∀ kind, kind ∈ order) {kind : InstrumentKind} :
    order.find? (fun kind => (s.shelf kind).contains name) = some kind ↔
      (s.shelf kind).contains name = true := by
  constructor
  · intro hfind
    exact List.find?_some (p := fun kind => (s.shelf kind).contains name) hfind
  · intro hcontains
    have hsome : (order.find? fun kind => (s.shelf kind).contains name).isSome = true :=
      List.find?_isSome.2 ⟨kind, horder kind, hcontains⟩
    obtain ⟨other, hother⟩ := Option.isSome_iff_exists.1 hsome
    have hheld : (s.shelf other).contains name = true :=
      List.find?_some (p := fun kind => (s.shelf kind).contains name) hother
    rw [hother, h name other kind hheld hcontains]

theorem Apart.kindOf_eq_some_iff (h : s.Apart) {kind : InstrumentKind} :
    s.kindOf name = some kind ↔ (s.shelf kind).contains name = true :=
  h.find?_eq_some_iff mem_searchOrder

theorem contains_put (s : Shelves) (name : String) (reg : Registration) (kind : InstrumentKind)
    (q : String) : ((s.put name reg).shelf kind).contains q = true ↔
      reg.instrument.kind = kind ∧ name = q ∨ (s.shelf kind).contains q = true := by
  rw [shelf_put]
  by_cases hkind : reg.instrument.kind = kind
  · rw [if_pos hkind, Dict.contains, Dict.get?_insert]
    by_cases hname : name = q <;> simp [hkind, hname, Dict.contains]
  · simp [hkind]

/-- A name may be put where nothing else holds it. -/
theorem Apart.put (h : s.Apart) {reg : Registration}
    (hfree : ∀ kind, (s.shelf kind).contains name = true → reg.instrument.kind = kind) :
    (s.put name reg).Apart := by
  intro q kind other hkind hother
  rw [contains_put] at hkind hother
  rcases hkind with ⟨rfl, rfl⟩ | hkind
  · rcases hother with ⟨rfl, -⟩ | hother
    · rfl
    · exact hfree other hother
  · rcases hother with ⟨rfl, rfl⟩ | hother
    · exact (hfree kind hkind).symm
    · exact h q kind other hkind hother

theorem Apart.drop (h : s.Apart) (name : String) (kind : InstrumentKind) :
    (s.drop name kind).Apart := by
  have hmem {other : InstrumentKind} {q : String}
      (hcontains : ((s.drop name kind).shelf other).contains q = true) :
      (s.shelf other).contains q = true := by
    rw [shelf_drop] at hcontains
    split at hcontains
    · rw [Dict.contains, Dict.get?_erase] at hcontains
      split at hcontains
      · cases hcontains
      · exact hcontains
    · exact hcontains
  intro q other another hother hanother
  exact h q other another (hmem hother) (hmem hanother)

theorem apart_empty : empty.Apart := by
  intro name kind other h
  rw [shelf_empty] at h
  cases h

/-- The check lets a name pass that nothing else holds. -/
theorem Apart.kind_of_allow (h : s.Apart) {requested : InstrumentKind}
    (hallow : s.allow name requested = .ok ()) {kind : InstrumentKind}
    (hcontains : (s.shelf kind).contains name = true) : requested = kind := by
  have hkind : s.kindOf name = some kind := h.kindOf_eq_some_iff.2 hcontains
  rw [allow, ensureFree, hkind] at hallow
  dsimp only at hallow
  split at hallow
  · cases hallow
  · split at hallow
    · rename_i heq
      exact heq.symm
    · cases hallow

theorem Apart.place (h : s.Apart) {i : Instrument} (hallow : s.allow name i.kind = .ok ()) :
    (s.place name i).Apart := by
  intro q kind other hkind hother
  rw [shelf_place] at hkind hother
  exact h.put (fun _ => h.kind_of_allow hallow) q kind other hkind hother

theorem Apart.register (h : s.Apart) (name : String) (i : Instrument) :
    (s.register name i).2.Apart := by
  unfold Shelves.register
  split
  · exact h
  · rename_i hallow
    exact h.place hallow

theorem Apart.obtain {α : Type} (F : Family α) (h : s.Apart) (name : String) (made : α) :
    (s.obtain F name made).2.Apart := by
  unfold Shelves.obtain
  split
  · exact h
  · rename_i hallow
    split
    · exact h
    · rw [← F.kind_wrap made] at hallow
      exact h.place hallow

theorem Apart.remove (h : s.Apart) (name : String) : (s.remove name).2.Apart := by
  unfold Shelves.remove
  split
  · rename_i hfind
    obtain ⟨kind, _, htake⟩ := List.exists_of_findSome?_eq_some hfind
    obtain ⟨reg, _, hrest⟩ := Option.map_eq_some_iff.1 htake
    cases hrest
    exact h.drop name kind
  · exact h

theorem Apart.putBack (h : s.Apart) (name : String) (serial : Nat) (i : Instrument) :
    (s.putBack name serial i).Apart := by
  unfold Shelves.putBack
  split
  · rename_i reg hget
    split
    · refine h.put fun kind hkind => h name i.kind kind ?_ hkind
      rw [Dict.contains, hget]
      rfl
    · exact h
  · exact h

end Shelves

structure Registry where
  clock : Clock
  shelves : Shelves
  apart : shelves.Apart

namespace Registry

def new (clock : Clock) : Registry := ⟨clock, .empty, Shelves.apart_empty⟩

/-- All maps of the registry as one. -/
def entries (r : Registry) : Dict Registration := r.shelves.entries

def get? (r : Registry) (name : String) : Option Instrument := r.shelves.get? name

/-- Registers an instrument, unless its name cannot be used. -/
def place (r : Registry) (name : String) (i : Instrument) : Registry :=
  ⟨r.clock, (r.shelves.register name i).2, r.apart.register name i⟩

/-- The instrument under a name, which is `made` if the name is free. -/
def obtain {α : Type} (F : Family α) (r : Registry) (name : String) (made : α) :
    Except RegistryError (Held α × Registry) :=
  (r.shelves.obtain F name made).1.map fun held =>
    (held, ⟨r.clock, (r.shelves.obtain F name made).2, r.apart.obtain F name made⟩)

/-- Registers a gauge, in place of a gauge that holds the name. -/
def registerGauge (r : Registry) (name : String) (g : Gauge) : Except RegistryError Registry :=
  (r.shelves.register name (.gauge g)).1.map fun _ => r.place name (.gauge g)

/-- Puts back an instrument that was used, unless it is no longer registered. -/
def putBack (r : Registry) (name : String) (serial : Nat) (i : Instrument) : Registry :=
  ⟨r.clock, r.shelves.putBack name serial i, r.apart.putBack name serial i⟩

/-- Uses the instrument under a name, made if the name is free. -/
def use {α : Type} (F : Family α) (r : Registry) (name : String) (made : α) (f : α → α) :
    Except RegistryError (α × Registry) :=
  (r.obtain F name made).map fun (held, r) =>
    (f held.instrument, r.putBack name held.serial (F.wrap (f held.instrument)))

def remove (r : Registry) (name : String) : Option Instrument × Registry :=
  ((r.shelves.remove name).1, ⟨r.clock, (r.shelves.remove name).2, r.apart.remove name⟩)

def size (r : Registry) : Nat := r.shelves.size

def group (r : Registry) (filter : MetricFilter) (kind : InstrumentKind) :
    List (String × Registration) :=
  r.shelves.group filter kind

/-- The order in which a report goes through the kinds. -/
def reportOrder : List InstrumentKind :=
  [.gauge, .counter, .histogram, .meter, .timer]

/-- The accepted instruments in the order of a report. -/
def selection (r : Registry) (filter : MetricFilter) : List (String × Registration) :=
  reportOrder.flatMap (r.group filter)

def advance (r : Registry) (d : Duration) : Registry :=
  { r with clock := r.clock.advance d }

end Registry

end Telemetry
