import Telemetry.Proofs.RegistryView
import Telemetry.Transform

/-!
# Calls of a registry

A call that is to create something is refused if the name is blank or is held by another kind.
Otherwise it answers with what holds the name, or places something new. No call puts a name into a
second map.
-/

namespace Telemetry

/-- An instrument that is made when it is first asked for. -/
inductive OnDemand where
  | counter | histogram | meter | timer
  deriving DecidableEq

namespace OnDemand

def kind : OnDemand → InstrumentKind
  | counter => .counter
  | histogram => .histogram
  | meter => .meter
  | timer => .timer

def make (now : UInt64) : OnDemand → Instrument
  | counter => .counter .new
  | histogram => .histogram (.new Histogram.defaultRoom)
  | meter => .meter (.new now)
  | timer => .timer (.new now)

lemma kind_make (d : OnDemand) (now : UInt64) : (d.make now).kind = d.kind := by
  cases d <;> rfl

lemma kind_ne_gauge (d : OnDemand) : d.kind ≠ .gauge := by
  cases d <;> decide

lemma count?_make (d : OnDemand) (now : UInt64) : (d.make now).count? = some 0 := by
  cases d <;> rfl

end OnDemand

namespace Shelves

/-- What a family answers, as an instrument of any kind. -/
def wrapped {α : Type} (F : Family α) (answer : Except RegistryError (Held α) × Shelves) :
    Except RegistryError Registration × Shelves :=
  (answer.1.map (.map F.wrap), answer.2)

/-- The instrument under a name, made at this tick of the clock if the name is free. -/
def fetch (s : Shelves) (now : UInt64) (name : String) :
    OnDemand → Except RegistryError Registration × Shelves
  | .counter => wrapped .counters (s.obtain .counters name .new)
  | .histogram => wrapped .histograms (s.obtain .histograms name (.new Histogram.defaultRoom))
  | .meter => wrapped .meters (s.obtain .meters name (.new now))
  | .timer => wrapped .timers (s.obtain .timers name (.new now))

/-- Why a name cannot be used for an instrument of the requested kind, given the kind that holds
it. -/
def refusal (name : String) (requested : InstrumentKind) (holder : Option InstrumentKind) :
    Option RegistryError :=
  if Text.blank name then some .invalidName
  else holder.bind fun kind =>
    if kind = requested then none else some (.kindMismatch name kind requested)

lemma refusal_eq_some_iff {name : String} {requested : InstrumentKind}
    {holder : Option InstrumentKind} {e : RegistryError} :
    refusal name requested holder = some e ↔
      Text.blank name = true ∧ e = .invalidName ∨
      Text.blank name = false ∧ ∃ kind, holder = some kind ∧ kind ≠ requested ∧
        e = .kindMismatch name kind requested := by
  unfold refusal
  cases Text.blank name with
  | true => simp [eq_comm]
  | false =>
    cases holder with
    | none => simp
    | some kind => by_cases h : kind = requested <;> simp [h, eq_comm]

lemma blank_of_refusal {name : String} {requested : InstrumentKind}
    {holder : Option InstrumentKind} (h : refusal name requested holder = none) :
    Text.blank name = false := by
  rw [← Bool.not_eq_true]
  intro hblank
  rw [refusal, if_pos hblank] at h
  cases h

lemma kind_of_refusal {name : String} {requested kind : InstrumentKind}
    (h : refusal name requested (some kind) = none) : kind = requested := by
  by_contra hne
  rw [refusal, if_neg (by simp [blank_of_refusal h]), Option.bind_some, if_neg hne] at h
  cases h

section Creations

variable {s : Shelves}

lemma allow_eq (s : Shelves) (name : String) (requested : InstrumentKind) :
    s.allow name requested = match refusal name requested (s.kindOf name) with
      | some e => .error e
      | none => .ok () := by
  unfold allow ensureFree refusal
  cases Text.blank name with
  | true => rfl
  | false =>
    cases s.kindOf name with
    | none => rfl
    | some kind => by_cases h : kind = requested <;> simp [h]

/-- The three ways in which a family answers. -/
lemma Apart.obtain_cases {α : Type} (F : Family α) (h : s.Apart) (name : String) (made : α) :
    (∃ e, refusal name F.kind (s.kindOf name) = some e ∧
      wrapped F (s.obtain F name made) = (.error e, s)) ∨
    refusal name F.kind (s.kindOf name) = none ∧
      ((∃ reg, s.entries.get? name = some reg ∧ wrapped F (s.obtain F name made) = (.ok reg, s)) ∨
      s.entries.get? name = none ∧ wrapped F (s.obtain F name made) =
        (.ok ⟨s.issued, F.wrap made⟩, s.place name (F.wrap made))) := by
  have hshelf : (s.shelf F.kind).get? name = ((F.shelf s).get? name).map (.map F.wrap) := by
    rw [F.shelf_kind, Dict.get?_map]
  rw [Shelves.obtain, allow_eq]
  cases hrefusal : refusal name F.kind (s.kindOf name) with
  | some e => exact .inl ⟨e, rfl, rfl⟩
  | none =>
    refine .inr ⟨rfl, ?_⟩
    cases hget : (F.shelf s).get? name with
    | some held =>
      rw [hget, Option.map_some] at hshelf
      refine .inl ⟨held.map F.wrap, ?_, rfl⟩
      have hkind : (held.map F.wrap).instrument.kind = F.kind := F.kind_wrap held.instrument
      rw [h.get?_entries_iff, hkind]
      exact hshelf
    | none =>
      refine .inr ⟨?_, rfl⟩
      -- whatever had the name would be in the map of the family
      rw [Option.eq_none_iff_forall_ne_some]
      intro reg hreg
      rw [h.kindOf_eq, hreg, Option.map_some] at hrefusal
      rw [h.get?_entries_iff, kind_of_refusal hrefusal, hshelf, hget] at hreg
      cases hreg

lemma Apart.fetch_cases (h : s.Apart) (now : UInt64) (name : String) (d : OnDemand) :
    (∃ e, refusal name d.kind (s.kindOf name) = some e ∧ s.fetch now name d = (.error e, s)) ∨
    refusal name d.kind (s.kindOf name) = none ∧
      ((∃ reg, s.entries.get? name = some reg ∧ s.fetch now name d = (.ok reg, s)) ∨
      s.entries.get? name = none ∧
        s.fetch now name d = (.ok ⟨s.issued, d.make now⟩, s.place name (d.make now))) := by
  cases d with
  | counter => exact h.obtain_cases .counters name _
  | histogram => exact h.obtain_cases .histograms name _
  | meter => exact h.obtain_cases .meters name _
  | timer => exact h.obtain_cases .timers name _

/-- What is registered is always put in place, and what was there before is dropped. -/
lemma register_cases (s : Shelves) (name : String) (i : Instrument) :
    (∃ e, refusal name i.kind (s.kindOf name) = some e ∧ s.register name i = (.error e, s)) ∨
    refusal name i.kind (s.kindOf name) = none ∧
      s.register name i = (.ok ⟨s.issued, i⟩, s.place name i) := by
  rw [register, allow_eq]
  cases refusal name i.kind (s.kindOf name) with
  | some e => exact .inl ⟨e, rfl, rfl⟩
  | none => exact .inr ⟨rfl, rfl⟩

end Creations

/-- A use of an instrument, which does not change its kind. -/
structure Use where
  apply : Instrument → Instrument
  kind_apply : ∀ i, (apply i).kind = i.kind

inductive Call where
  /-- Asks for an instrument while the clock reads `now`. -/
  | fetch (d : OnDemand) (now : UInt64) (name : String)
  | gauge (name : String) (g : Gauge)
  | remove (name : String)
  | get (name : String)
  | size
  | snapshot (filter : MetricFilter)
  /-- Uses an instrument that was handed out under this serial number. -/
  | use (name : String) (serial : Nat) (u : Use)

inductive Answer where
  | held (reg : Registration)
  | refused (e : RegistryError)
  | found (i : Option Instrument)
  | size (n : Nat)
  | listed (groups : InstrumentKind → List (String × Registration))
  | done

def Answer.ofCreation : Except RegistryError Registration → Answer
  | .ok reg => held reg
  | .error e => refused e

/-- The name and the kind of what the call is to create. -/
def Call.creates : Call → Option (String × InstrumentKind)
  | fetch d _ name => some (name, d.kind)
  | gauge name _ => some (name, .gauge)
  | _ => none

def call (s : Shelves) : Call → Answer × Shelves
  | .fetch d now name => (.ofCreation (s.fetch now name d).1, (s.fetch now name d).2)
  | .gauge name g =>
    (.ofCreation (s.register name (.gauge g)).1, (s.register name (.gauge g)).2)
  | .remove name => (.found (s.remove name).1, (s.remove name).2)
  | .get name => (.found (s.get? name), s)
  | .size => (.size s.size, s)
  | .snapshot filter => (.listed (s.group filter), s)
  | .use name serial u =>
    match s.get? name with
    | none => (.done, s)
    | some i => (.done, s.putBack name serial (u.apply i))

def run (s : Shelves) (calls : List Call) : Shelves :=
  calls.foldl (fun s c => (s.call c).2) s

def answers (s : Shelves) : List Call → List Answer
  | [] => []
  | c :: calls => (s.call c).1 :: (s.call c).2.answers calls

variable {s : Shelves}

/-- What a call that creates does. -/
lemma Apart.call_cases (h : s.Apart) {c : Call} {name : String} {kind : InstrumentKind}
    (hc : c.creates = some (name, kind)) :
    (∃ e, refusal name kind (s.kindOf name) = some e ∧ s.call c = (.refused e, s)) ∨
    refusal name kind (s.kindOf name) = none ∧
      ((∃ d now reg, c = .fetch d now name ∧ s.entries.get? name = some reg ∧
        s.call c = (.held reg, s)) ∨
      (∀ d now, c = .fetch d now name → s.entries.get? name = none) ∧
        ∃ i : Instrument, i.kind = kind ∧ (kind ≠ .gauge → i.count? = some 0) ∧
          s.call c = (.held ⟨s.issued, i⟩, s.place name i)) := by
  cases c with
  | fetch d now n =>
    cases hc
    rcases h.fetch_cases now name d with
      ⟨e, hrefusal, hfetch⟩ | ⟨hrefusal, ⟨reg, hget, hfetch⟩ | ⟨hget, hfetch⟩⟩
    · refine .inl ⟨e, hrefusal, ?_⟩
      rw [call, hfetch]
      rfl
    · refine .inr ⟨hrefusal, .inl ⟨d, now, reg, rfl, hget, ?_⟩⟩
      rw [call, hfetch]
      rfl
    · refine .inr ⟨hrefusal, .inr ⟨fun _ _ _ => hget, d.make now, d.kind_make _,
        fun _ => d.count?_make _, ?_⟩⟩
      rw [call, hfetch]
      rfl
  | gauge n g =>
    cases hc
    rcases s.register_cases name (.gauge g) with ⟨e, hrefusal, hgauge⟩ | ⟨hrefusal, hgauge⟩
    · refine .inl ⟨e, hrefusal, ?_⟩
      rw [call, hgauge]
      rfl
    · refine .inr ⟨hrefusal, .inr ⟨nofun, .gauge g, rfl, fun hne => absurd rfl hne, ?_⟩⟩
      rw [call, hgauge]
      rfl
  | _ => cases hc

lemma Apart.fetch (h : s.Apart) (now : UInt64) (name : String) (d : OnDemand) :
    (s.fetch now name d).2.Apart := by
  rcases h.fetch_cases now name d with
    ⟨e, _, hfetch⟩ | ⟨hrefusal, ⟨reg, _, hfetch⟩ | ⟨_, hfetch⟩⟩
  · rw [hfetch]
    exact h
  · rw [hfetch]
    exact h
  · rw [hfetch]
    refine h.place ?_
    rw [d.kind_make, allow_eq, hrefusal]

/-- No call puts a name into a second map. -/
theorem Apart.call (h : s.Apart) (c : Call) : (s.call c).2.Apart := by
  cases c with
  | fetch d now name =>
    rw [Shelves.call]
    exact h.fetch now name d
  | gauge name g =>
    rw [Shelves.call]
    exact h.register name (.gauge g)
  | remove name =>
    rw [Shelves.call]
    exact h.remove name
  | use name serial u =>
    unfold Shelves.call
    dsimp only
    split
    · exact h
    · exact h.putBack name serial _
  | _ => exact h

theorem Apart.run (h : s.Apart) (calls : List Call) : (s.run calls).Apart := by
  induction calls generalizing s with
  | nil => exact h
  | cons c calls ih => exact ih (h.call c)

/-- Without the check a name gets into two maps. -/
example : ¬((empty.place "a" (.counter .new)).place "a" (.timer (.new 0))).Apart :=
  fun h => absurd (h "a" .counter .timer rfl rfl) (by decide)

end Shelves

end Telemetry
