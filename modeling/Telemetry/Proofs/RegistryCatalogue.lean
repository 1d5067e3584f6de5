import Telemetry.Proofs.RegistryCalls

/-!
# A registry as one map

A catalogue has one map from names to instruments, in which a name cannot be twice. The maps of a
registry give every call the answer that a catalogue gives it.
-/

namespace Telemetry

structure Catalogue where
  entries : Dict Registration
  /-- Serial numbers given out so far. -/
  issued : Nat

namespace Catalogue

open Shelves (Call Answer refusal)

def empty : Catalogue := ⟨.empty, 0⟩

def kindOf (c : Catalogue) (name : String) : Option InstrumentKind :=
  (c.entries.get? name).map (·.instrument.kind)

def place (c : Catalogue) (name : String) (i : Instrument) : Catalogue :=
  ⟨c.entries.insert name ⟨c.issued, i⟩, c.issued + 1⟩

/-- Answers with what is kept under the name, or places something new. -/
def create (c : Catalogue) (name : String) (made : Instrument) (kept : Option Registration) :
    Answer × Catalogue :=
  match refusal name made.kind (c.kindOf name) with
  | some e => (.refused e, c)
  | none =>
    match kept with
    | some reg => (.held reg, c)
    | none => (.held ⟨c.issued, made⟩, c.place name made)

/-- A use reaches what it was handed out for. -/
def use (c : Catalogue) (name : String) (serial : Nat) (u : Shelves.Use) : Catalogue :=
  match c.entries.get? name with
  | some reg =>
    if reg.serial = serial then
      { c with entries := c.entries.insert name ⟨serial, u.apply reg.instrument⟩ }
    else c
  | none => c

def call (c : Catalogue) : Call → Answer × Catalogue
  | .fetch d now name => c.create name (d.make now) (c.entries.get? name)
  | .gauge name g => c.create name (.gauge g) none
  | .remove name =>
    (.found ((c.entries.get? name).map (·.instrument)), ⟨c.entries.erase name, c.issued⟩)
  | .get name => (.found ((c.entries.get? name).map (·.instrument)), c)
  | .size => (.size c.entries.size, c)
  | .snapshot filter =>
    (.listed fun kind => c.entries.entries.filter fun e =>
      e.2.instrument.kind = kind && filter.accepts e.1, c)
  | .use name serial u => (.done, c.use name serial u)

def run (c : Catalogue) (calls : List Call) : Catalogue :=
  calls.foldl (fun c call => (c.call call).2) c

def answers (c : Catalogue) : List Call → List Answer
  | [] => []
  | call :: calls => (c.call call).1 :: (c.call call).2.answers calls

variable {c : Catalogue} {name : String} {made : Instrument}

lemma create_of_refused {e : RegistryError}
    (h : refusal name made.kind (c.kindOf name) = some e) (kept : Option Registration) :
    c.create name made kept = (.refused e, c) := by
  unfold create
  rw [h]

lemma create_of_kept (h : refusal name made.kind (c.kindOf name) = none) (reg : Registration) :
    c.create name made (some reg) = (.held reg, c) := by
  unfold create
  rw [h]

lemma create_of_free (h : refusal name made.kind (c.kindOf name) = none) :
    c.create name made none = (.held ⟨c.issued, made⟩, c.place name made) := by
  unfold create
  rw [h]

end Catalogue

namespace Shelves

variable {s : Shelves}

def catalogue (s : Shelves) : Catalogue := ⟨s.entries, s.issued⟩

namespace Apart

lemma kindOf_catalogue (h : s.Apart) (name : String) :
    s.catalogue.kindOf name = s.kindOf name :=
  (h.kindOf_eq name).symm

lemma entries_place (h : s.Apart) {name : String} {i : Instrument}
    (hrefusal : refusal name i.kind (s.kindOf name) = none) :
    (s.place name i).entries = s.entries.insert name ⟨s.issued, i⟩ := by
  have hput : (s.place name i).entries = (s.put name ⟨s.issued, i⟩).entries := rfl
  rw [hput, h.entries_put]
  intro kind hcontains
  rw [h.kindOf_eq_some_iff.2 hcontains] at hrefusal
  exact (kind_of_refusal hrefusal).symm

lemma catalogue_place (h : s.Apart) {name : String} {i : Instrument}
    (hrefusal : refusal name i.kind (s.kindOf name) = none) :
    (s.place name i).catalogue = s.catalogue.place name i := by
  rw [catalogue, h.entries_place hrefusal]
  rfl

lemma catalogue_remove (h : s.Apart) (name : String) :
    (s.remove name).2.catalogue = ⟨s.entries.erase name, s.issued⟩ := by
  have hissued : (s.remove name).2.issued = s.issued := by
    rcases h.remove_cases name with ⟨reg, _, hremove⟩ | ⟨_, hremove⟩
    · rw [hremove, issued_drop]
    · rw [hremove]
  rw [catalogue, h.entries_remove, hissued]

lemma catalogue_use (h : s.Apart) (name : String) (serial : Nat) (u : Use) :
    s.catalogue.call (.use name serial u) =
      ((s.call (.use name serial u)).1, (s.call (.use name serial u)).2.catalogue) := by
  rw [Catalogue.call, Catalogue.use, Shelves.call, h.get?_eq]
  cases hget : s.entries.get? name with
  | none => simp only [catalogue, hget, Option.map_none]
  | some reg =>
    simp only [catalogue, hget, Option.map_some]
    by_cases hserial : reg.serial = serial
    · subst hserial
      have hissued : (s.putBack name reg.serial (u.apply reg.instrument)).issued = s.issued := by
        unfold Shelves.putBack
        split
        · split
          · exact issued_put _ _ _
          · rfl
        · rfl
      rw [if_pos rfl, h.entries_putBack hget (u.kind_apply _), hissued]
    · rw [if_neg hserial, h.putBack_of_ne hget hserial]

/-- One call of the maps is one call of their catalogue. -/
theorem call_catalogue (h : s.Apart) (c : Call) :
    s.catalogue.call c = ((s.call c).1, (s.call c).2.catalogue) := by
  cases c with
  | fetch d now name =>
    have hsame : refusal name (d.make now).kind (s.catalogue.kindOf name) =
        refusal name d.kind (s.kindOf name) := by
      rw [d.kind_make, h.kindOf_catalogue]
    rw [Catalogue.call, Shelves.call]
    rcases h.fetch_cases now name d with
      ⟨e, hrefusal, hfetch⟩ | ⟨hrefusal, ⟨reg, hget, hfetch⟩ | ⟨hget, hfetch⟩⟩
    · rw [hfetch, Catalogue.create_of_refused (hsame.trans hrefusal)]
      rfl
    · have hkept : s.catalogue.entries.get? name = some reg := hget
      rw [hkept, hfetch, Catalogue.create_of_kept (hsame.trans hrefusal)]
      rfl
    · have hfree : s.catalogue.entries.get? name = none := hget
      rw [hfree, hfetch, Catalogue.create_of_free (hsame.trans hrefusal), h.catalogue_place]
      · rfl
      · rw [d.kind_make]
        exact hrefusal
  | gauge name g =>
    have hsame : refusal name (Instrument.gauge g).kind (s.catalogue.kindOf name) =
        refusal name (Instrument.gauge g).kind (s.kindOf name) := by
      rw [h.kindOf_catalogue]
    rw [Catalogue.call, Shelves.call]
    rcases s.register_cases name (.gauge g) with ⟨e, hrefusal, hregister⟩ | ⟨hrefusal, hregister⟩
    · rw [hregister, Catalogue.create_of_refused (hsame.trans hrefusal)]
      rfl
    · rw [hregister, Catalogue.create_of_free (hsame.trans hrefusal), h.catalogue_place hrefusal]
      rfl
  | remove name =>
    rw [Catalogue.call, Shelves.call, h.fst_remove, h.get?_eq, h.catalogue_remove]
    rfl
  | get name =>
    rw [Catalogue.call, Shelves.call, h.get?_eq]
    rfl
  | size =>
    rw [Catalogue.call, Shelves.call, h.size_eq]
    rfl
  | snapshot filter =>
    rw [Catalogue.call, Shelves.call, funext (h.group_eq filter)]
    rfl
  | use name serial u => exact h.catalogue_use name serial u

theorem run_catalogue (h : s.Apart) (calls : List Call) :
    s.catalogue.answers calls = s.answers calls ∧
      s.catalogue.run calls = (s.run calls).catalogue := by
  induction calls generalizing s with
  | nil => exact ⟨rfl, rfl⟩
  | cons c calls ih =>
    obtain ⟨hanswers, hrun⟩ := ih (h.call c)
    rw [Catalogue.answers, Catalogue.run, List.foldl_cons, h.call_catalogue c]
    exact ⟨congrArg _ hanswers, hrun⟩

end Apart

/-- A new registry answers any calls as a single map does. -/
theorem answers_eq (calls : List Call) : empty.answers calls = Catalogue.empty.answers calls :=
  (apart_empty.run_catalogue calls).1.symm

end Shelves

end Telemetry
