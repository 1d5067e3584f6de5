import Telemetry.Proofs.ByteOrder
import Telemetry.Proofs.RegistryRuns

/-!
# The five maps of a registry

After any calls no name is in two of the maps, and they change as if each kind were kept by itself: a
creation touches the map of its kind, a removal takes the name out of all maps, and a snapshot lists
each map by ascending name.
-/

namespace Telemetry.Shelves

variable {s : Shelves} {name : String} {kind : InstrumentKind}

section Maps

lemma Apart.shelf_create (h : s.Apart) {c : Call} (hc : c.creates = some (name, kind))
    {other : InstrumentKind} (hother : other ≠ kind) :
    (s.call c).2.shelf other = s.shelf other := by
  rcases h.call_cases hc with ⟨e, _, hcall⟩ | ⟨_, ⟨_, _, _, _, _, hcall⟩ | ⟨_, i, rfl, _, hcall⟩⟩
  · rw [hcall]
  · rw [hcall]
  · rw [hcall, shelf_place, shelf_put, if_neg hother.symm]

lemma mem_group_iff {filter : MetricFilter} :
    name ∈ (s.group filter kind).map (·.1) ↔
      (s.shelf kind).contains name = true ∧ filter.accepts name = true := by
  rw [List.mem_map, Dict.contains, Option.isSome_iff_exists]
  constructor
  · rintro ⟨e, he, rfl⟩
    obtain ⟨hmem, haccepted⟩ := List.mem_filter.1 he
    exact ⟨⟨e.2, Dict.mem_entries_iff.1 hmem⟩, haccepted⟩
  · rintro ⟨⟨reg, hget⟩, haccepts⟩
    exact ⟨(name, reg), List.mem_filter.2 ⟨Dict.mem_entries_iff.2 hget, haccepts⟩, rfl⟩

lemma pairwise_group (s : Shelves) (filter : MetricFilter) (kind : InstrumentKind) :
    ((s.group filter kind).map fun e => Text.bytes e.1).Pairwise (· < ·) := by
  rw [List.pairwise_map]
  exact ((s.shelf kind).ascending.filter _).imp fun h => Text.bytes_lt h

/-- A snapshot of everything is as long as the registry is large. -/
lemma sum_group (s : Shelves) :
    (Registry.reportOrder.map fun kind => (s.group .all kind).length).sum = s.size := by
  have hall (kind : InstrumentKind) : (s.group .all kind).length = (s.shelf kind).size :=
    congrArg List.length (List.filter_eq_self.2 fun _ _ => rfl)
  simp only [hall, size_eq_sum, Registry.reportOrder, searchOrder, List.map_cons, List.map_nil,
    List.sum_cons, List.sum_nil]
  omega

end Maps

/-- What creates something under the name has answered with the instrument, which stays there. -/
def Stays (s : Shelves) (name : String) (reg : Registration) : Prop :=
  (s.shelf reg.instrument.kind).get? name = some reg ∧
    s.call (.get name) = (.found (some reg.instrument), s) ∧
    (s.call (.remove name)).1 = .found (some reg.instrument) ∧
    ∀ (d : OnDemand) (now : UInt64), d.kind = reg.instrument.kind →
      s.call (.fetch d now name) = (.held reg, s)

/-- What a call makes has a serial number of its own and has counted nothing. -/
def Fresh (s : Shelves) (name : String) (d : OnDemand) (now : UInt64) : Prop :=
  ∃ i, s.call (.fetch d now name) = (.held ⟨s.issued, i⟩, s.place name i) ∧ i.kind = d.kind ∧
    i.count? = some 0

/-- The maps after these calls. -/
structure Sound (calls : List Call) (s : Shelves) : Prop where
  shelved : ∀ name kind, (s.shelf kind).contains name = true ↔ holder name calls = some kind
  apart : ∀ name kind other, (s.shelf kind).contains name = true →
    (s.shelf other).contains name = true → kind = other
  searched : ∀ name, s.kindOf name = holder name calls ∧
    ∀ order : List InstrumentKind, (∀ kind, kind ∈ order) →
      order.find? (fun kind => (s.shelf kind).contains name) = holder name calls
  named : ∀ name kind, (s.shelf kind).contains name = true → Text.blank name = false
  refused_iff : ∀ c e, (s.call c).1 = .refused e ↔
    ∃ name kind, c.creates = some (name, kind) ∧
      (Text.blank name = true ∧ e = .invalidName ∨
        Text.blank name = false ∧ ∃ other, holder name calls = some other ∧ other ≠ kind ∧
          e = .kindMismatch name other kind)
  unchanged : ∀ c e, (s.call c).1 = .refused e → (s.call c).2 = s
  touched : ∀ c name kind, c.creates = some (name, kind) → ∀ other, other ≠ kind →
    (s.call c).2.shelf other = s.shelf other
  kept : ∀ c name kind reg, c.creates = some (name, kind) → (s.call c).1 = .held reg →
    reg.instrument.kind = kind ∧ ∀ later, (∀ d ∈ later, d.Spares kind name) →
      ((s.call c).2.run later).Stays name
        ⟨reg.serial, used name reg.serial later reg.instrument⟩
  fresh : ∀ name later, Text.blank name = false →
    (∀ c ∈ later, ∀ kind, c.creates ≠ some (name, kind)) →
    (∀ d now, (s.run (.remove name :: later)).Fresh name d now) ∧
      ∀ reg, .held reg ∈ empty.answers (calls ++ .remove name :: later) →
        reg.serial < (s.run (.remove name :: later)).issued
  found : ∀ name, ∃ i, s.call (.get name) = (.found i, s) ∧ (s.call (.remove name)).1 = .found i ∧
    i.map Instrument.kind = holder name calls
  removed : ∀ name kind, (s.call (.remove name)).2.shelf kind = (s.shelf kind).erase name
  listed : ∀ filter, s.call (.snapshot filter) = (.listed (s.group filter), s) ∧
    (∀ kind, s.group filter kind = (s.shelf kind).entries.filter fun e => filter.accepts e.1) ∧
    (∀ kind, ((s.group filter kind).map fun e => Text.bytes e.1).Pairwise (· < ·)) ∧
    (∀ name kind, name ∈ (s.group filter kind).map (·.1) ↔
      holder name calls = some kind ∧ filter.accepts name = true) ∧
    ((Registry.reportOrder.flatMap (s.group filter)).map (·.1)).Nodup
  size : s.call .size =
    (.size (Registry.reportOrder.map fun kind => (s.group .all kind).length).sum, s)

section Creations

variable (h : s.Apart)

include h

lemma Apart.refused_iff_refusal {c : Call} {e : RegistryError} :
    (s.call c).1 = .refused e ↔ ∃ name kind, c.creates = some (name, kind) ∧
      refusal name kind (s.kindOf name) = some e := by
  cases hc : c.creates with
  | none =>
    have hother : (s.call c).1 ≠ .refused e := by
      have hanswer : (s.catalogue.call c).1 = (s.call c).1 := congrArg Prod.fst (h.call_catalogue c)
      rw [← hanswer]
      cases c with
      | fetch d now n => cases hc
      | gauge n g => cases hc
      | _ => exact nofun
    simp [hother]
  | some p =>
    obtain ⟨name, kind⟩ := p
    have hmatch : (∃ n k, some (name, kind) = some (n, k) ∧ refusal n k (s.kindOf n) = some e) ↔
        refusal name kind (s.kindOf name) = some e := by simp
    rw [hmatch]
    rcases h.call_cases hc with
      ⟨other, hrefusal, hcall⟩ | ⟨hrefusal, ⟨_, _, _, _, _, hcall⟩ | ⟨_, _, _, _, hcall⟩⟩
    · simp [hcall, hrefusal]
    · simp [hcall, hrefusal]
    · simp [hcall, hrefusal]

/-- The answer to a call that creates is what stands under the name then. -/
lemma Apart.get?_of_held {c : Call} (hc : c.creates = some (name, kind)) {reg : Registration}
    (hheld : (s.call c).1 = .held reg) :
    (s.call c).2.entries.get? name = some reg ∧ reg.instrument.kind = kind ∧
      Text.blank name = false := by
  rcases h.call_cases hc with
    ⟨e, _, hcall⟩ | ⟨hrefusal, ⟨_, _, found, _, hget, hcall⟩ | ⟨_, i, rfl, _, hcall⟩⟩
  · rw [hcall] at hheld
    cases hheld
  · have hblank := blank_of_refusal hrefusal
    rw [hcall] at hheld ⊢
    cases hheld
    rw [h.kindOf_eq, hget] at hrefusal
    exact ⟨hget, kind_of_refusal hrefusal, hblank⟩
  · rw [hcall] at hheld ⊢
    cases hheld
    refine ⟨?_, rfl, blank_of_refusal hrefusal⟩
    rw [h.entries_place hrefusal, Dict.get?_insert, if_pos rfl]

lemma Apart.stays_of_get? {reg : Registration} (hget : s.entries.get? name = some reg)
    (hblank : Text.blank name = false) : s.Stays name reg := by
  have hfound : s.get? name = some reg.instrument := by
    rw [h.get?_eq, hget]
    rfl
  refine ⟨h.get?_entries_iff.1 hget, congrArg (fun i => (Answer.found i, s)) hfound,
    congrArg Answer.found ((h.fst_remove name).trans hfound), ?_⟩
  intro d now hd
  have hrefusal : refusal name d.kind (s.kindOf name) = none := by
    rw [h.kindOf_eq, hget, hd, refusal, if_neg (by simp [hblank])]
    exact if_pos rfl
  rcases h.call_cases (c := .fetch d now name) rfl with
    ⟨e, hsome, _⟩ | ⟨_, ⟨_, _, found, _, hreg, hcall⟩ | ⟨hnone, _⟩⟩
  · rw [hrefusal] at hsome
    cases hsome
  · rw [hget] at hreg
    cases hreg
    exact hcall
  · rw [hnone d now rfl] at hget
    cases hget

lemma Apart.fresh_of_free (hfree : s.kindOf name = none) (hblank : Text.blank name = false)
    (d : OnDemand) (now : UInt64) : s.Fresh name d now := by
  have hnone : s.entries.get? name = none := by
    rw [h.kindOf_eq] at hfree
    exact Option.map_eq_none_iff.1 hfree
  rcases h.call_cases (c := .fetch d now name) rfl with
    ⟨e, hrefusal, _⟩ | ⟨_, ⟨_, _, reg, _, hget, _⟩ | ⟨_, i, hi, hzero, hcall⟩⟩
  · rw [hfree, refusal, if_neg (by simp [hblank])] at hrefusal
    cases hrefusal
  · rw [hnone] at hget
    cases hget
  · exact ⟨i, hcall, hi, hzero d.kind_ne_gauge⟩

end Creations

section Runs

variable (h : s.Apart)

include h

lemma Apart.kindOf_run (calls : List Call) (name : String) :
    (s.run calls).kindOf name = calls.foldl (hold name) (s.kindOf name) := by
  rw [← (h.run calls).kindOf_catalogue, ← (h.run_catalogue calls).2, Catalogue.kindOf_run,
    h.kindOf_catalogue]

lemma Apart.get?_run {calls : List Call} {reg : Registration}
    (hget : s.entries.get? name = some reg)
    (hspares : ∀ c ∈ calls, c.Spares reg.instrument.kind name) :
    (s.run calls).entries.get? name =
      some ⟨reg.serial, used name reg.serial calls reg.instrument⟩ := by
  have hrun := Catalogue.get?_run (c := s.catalogue) hget hspares
  rw [(h.run_catalogue calls).2] at hrun
  exact hrun

lemma Apart.serial_lt (hnumbered : s.catalogue.Numbered) {calls : List Call} {reg : Registration}
    (hreg : .held reg ∈ s.answers calls) : reg.serial < (s.run calls).issued := by
  obtain ⟨hanswers, hrun⟩ := h.run_catalogue calls
  have hlt := (hnumbered.run calls).2 reg (hanswers ▸ hreg)
  rw [hrun] at hlt
  exact hlt

end Runs

theorem sound_run (calls : List Call) : Sound calls (empty.run calls) := by
  have hapart : (empty.run calls).Apart := apart_empty.run calls
  have hkind (name : String) : (empty.run calls).kindOf name = holder name calls :=
    apart_empty.kindOf_run calls name
  generalize hs : empty.run calls = s at hapart hkind
  have hshelved (name : String) (kind : InstrumentKind) :
      (s.shelf kind).contains name = true ↔ holder name calls = some kind := by
    rw [← hapart.kindOf_eq_some_iff, hkind]
  constructor
  case shelved => exact hshelved
  case apart => exact hapart
  case searched =>
    intro name
    refine ⟨hkind name, fun order horder => ?_⟩
    rw [← hkind]
    apply Option.ext
    intro kind
    rw [hapart.find?_eq_some_iff horder, hapart.kindOf_eq_some_iff]
  case named =>
    intro name kind h
    exact blank_of_holder ((hshelved name kind).1 h)
  case refused_iff =>
    intro c e
    simp only [hapart.refused_iff_refusal, refusal_eq_some_iff, hkind]
  case unchanged =>
    intro c e h
    obtain ⟨name, kind, hc, hsome⟩ := hapart.refused_iff_refusal.1 h
    rcases hapart.call_cases hc with ⟨_, _, hcall⟩ | ⟨hnone, _⟩
    · rw [hcall]
    · rw [hsome] at hnone
      cases hnone
  case touched =>
    intro c name kind hc other hother
    exact hapart.shelf_create hc hother
  case kept =>
    intro c name kind reg hc h
    obtain ⟨hget, rfl, hblank⟩ := hapart.get?_of_held hc h
    refine ⟨rfl, ?_⟩
    intro later hspares
    have hlater := (hapart.call c).run later
    exact hlater.stays_of_get? ((hapart.call c).get?_run hget hspares) hblank
  case fresh =>
    intro name later hblank hlater
    have hfree : (s.run (.remove name :: later)).kindOf name = none := by
      have hremove : hold name (s.kindOf name) (.remove name) = none := if_pos rfl
      rw [hapart.kindOf_run, List.foldl_cons, hremove]
      exact foldl_hold_none fun c hc => hold_none (hlater c hc)
    refine ⟨(hapart.run _).fresh_of_free hfree hblank, ?_⟩
    have hnumbered : empty.catalogue.Numbered := nofun
    have hrun : empty.run (calls ++ .remove name :: later) = s.run (.remove name :: later) := by
      rw [← hs]
      exact List.foldl_append
    rw [← hrun]
    exact fun _ => apart_empty.serial_lt hnumbered
  case found =>
    intro name
    refine ⟨s.get? name, rfl, congrArg Answer.found (hapart.fst_remove name), ?_⟩
    rw [← hkind, hapart.get?_eq, hapart.kindOf_eq, Option.map_map]
    rfl
  case removed =>
    intro name kind
    exact hapart.shelf_remove name kind
  case listed =>
    intro filter
    refine ⟨rfl, fun _ => rfl, s.pairwise_group filter, ?_, hapart.nodup_groups filter (by decide)⟩
    intro name kind
    rw [mem_group_iff, hshelved]
  case size => rw [sum_group, call]

end Telemetry.Shelves
