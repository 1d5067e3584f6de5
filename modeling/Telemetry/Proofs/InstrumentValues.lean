import Mathlib.Data.List.Nodup
import Telemetry.Proofs.TransformFrame

/-!
# The values of an instrument

Each kind of instrument but the gauge has a fixed list of values, which its draft is given one after
the other. An idle timer leaves out the statistics of its durations, and the other kinds have no
draft while they are idle.
-/

namespace Telemetry

lemma Dict.entries_ne_nil {α : Type} {d : Dict α} {k : String} (h : d.contains k = true) :
    d.entries ≠ [] := by
  intro hnil
  rw [contains, get?, hnil] at h
  cases h

namespace Draft

def fieldAll (d : Draft) (ps : List (String × FieldValue)) : Draft :=
  ps.foldl (fun d p => d.field p.1 p.2) d

lemma get?_fieldAll_of_not_mem {ps : List (String × FieldValue)} {k : String}
    (h : k ∉ ps.map (·.1)) (d : Draft) : (d.fieldAll ps).fields.get? k = d.fields.get? k := by
  induction ps generalizing d with
  | nil => rfl
  | cons p ps ih =>
    rw [List.map_cons, List.mem_cons, not_or] at h
    refine (ih h.2 (d.field p.1 p.2)).trans ?_
    rw [get?_fields_field, if_neg]
    rintro ⟨heq, _⟩
    exact h.1 heq.symm

lemma get?_fieldAll_of_mem {ps : List (String × FieldValue)} (hnodup : (ps.map (·.1)).Nodup)
    {p : String × FieldValue} (hp : p ∈ ps) (d : Draft) :
    (d.fieldAll ps).fields.get? p.1 =
      if p.2.encodable then some p.2.token else d.fields.get? p.1 := by
  induction ps generalizing d with
  | nil => cases hp
  | cons q ps ih =>
    rw [List.map_cons, List.nodup_cons] at hnodup
    rcases List.mem_cons.1 hp with rfl | hp
    · refine (get?_fieldAll_of_not_mem hnodup.1 _).trans ?_
      simp [get?_fields_field]
    · have hne : q.1 ≠ p.1 := by
        intro heq
        exact hnodup.1 (heq ▸ List.mem_map_of_mem hp)
      refine (ih hnodup.2 hp (d.field q.1 q.2)).trans ?_
      have hother : (d.field q.1 q.2).fields.get? p.1 = d.fields.get? p.1 := by
        rw [get?_fields_field, if_neg]
        rintro ⟨heq, _⟩
        exact hne heq
      rw [hother]

lemma fieldAll_append (d : Draft) (ps qs : List (String × FieldValue)) :
    d.fieldAll (ps ++ qs) = (d.fieldAll ps).fieldAll qs := List.foldl_append

lemma fieldAll_keeps {β : Type} {g : Draft → β} (hfield : ∀ d k v, g (d.field k v) = g d)
    (d : Draft) (ps : List (String × FieldValue)) : g (d.fieldAll ps) = g d := by
  induction ps generalizing d with
  | nil => rfl
  | cons p ps ih => exact (ih (d.field p.1 p.2)).trans (hfield d p.1 p.2)

end Draft

def percentileValues (s : Sample) (convert : Float → Float) : List (String × FieldValue) :=
  [("50-percentile", .float (convert s.median)),
    ("75-percentile", .float (convert s.percentile75)),
    ("95-percentile", .float (convert s.percentile95)),
    ("99-percentile", .float (convert s.percentile99)),
    ("999-percentile", .float (convert s.percentile999))]

namespace Context

def rateValues (ctx : Context) (r : Rates) : List (String × FieldValue) :=
  [("one-minute", .float (ctx.rate r.one)), ("five-minute", .float (ctx.rate r.five)),
    ("fifteen-minute", .float (ctx.rate r.fifteen)), ("mean-minute", .float (ctx.rate r.mean))]

/-- What an idle timer leaves out. -/
def durationValues (ctx : Context) (s : Sample) : List (String × FieldValue) :=
  [("count", .ofUnsigned s.size.toUInt64), ("min", .float (ctx.duration s.least.toFloat)),
    ("max", .float (ctx.duration s.greatest.toFloat)), ("mean", .float (ctx.duration s.mean)),
    ("std-dev", .float (ctx.duration s.standardDeviation))] ++ percentileValues s ctx.duration

/-- What every timer reports. -/
def paceValues (ctx : Context) (now : UInt64) (t : Timer) : List (String × FieldValue) :=
  ctx.rateValues (t.rates now).1 ++ [("run-count", .ofUnsigned (t.rates now).2.count)]

/-- The values of an instrument that has moved. -/
def values (ctx : Context) (now : UInt64) : Instrument → List (String × FieldValue)
  | .counter c => [("count", .integer c.count)]
  | .gauge _ => []
  | .histogram h =>
    [("count", .ofUnsigned h.sample.size.toUInt64), ("min", .integer h.sample.least),
      ("max", .integer h.sample.greatest), ("mean", .float h.sample.mean),
      ("std-dev", .float h.sample.standardDeviation)] ++
      percentileValues h.sample id ++ [("run-count", .ofUnsigned h.count)]
  | .meter m => ("count", .ofUnsigned (m.rates now).2.count) :: ctx.rateValues (m.rates now).1
  | .timer t => ctx.durationValues t.sample ++ ctx.paceValues now t

end Context

namespace InstrumentKind

def durationNames : List String :=
  ["count", "min", "max", "mean", "std-dev", "50-percentile", "75-percentile", "95-percentile",
    "99-percentile", "999-percentile"]

def rateNames : List String := ["one-minute", "five-minute", "fifteen-minute", "mean-minute"]

/-- The keys of the values of an instrument. -/
def fieldNames : InstrumentKind → List String
  | counter => ["count"]
  | gauge => []
  | histogram => durationNames ++ ["run-count"]
  | meter => "count" :: rateNames
  | timer => durationNames ++ (rateNames ++ ["run-count"])

lemma nodup_fieldNames (kind : InstrumentKind) : kind.fieldNames.Nodup := by
  cases kind <;> decide

end InstrumentKind

lemma map_fst_values (ctx : Context) (now : UInt64) (i : Instrument) :
    (ctx.values now i).map (·.1) = i.kind.fieldNames := by
  cases i <;> rfl

/-- No statistic of the durations is called as something that every timer reports. -/
lemma not_mem_paceValues {k : String} (hk : k ∈ InstrumentKind.durationNames) (ctx : Context)
    (now : UInt64) (t : Timer) : k ∉ (ctx.paceValues now t).map (·.1) := by
  have hkeys : (ctx.paceValues now t).map (·.1) =
      InstrumentKind.rateNames ++ ["run-count"] := rfl
  have hapart : ∀ k ∈ InstrumentKind.durationNames,
      k ∉ InstrumentKind.rateNames ++ ["run-count"] := by decide
  rw [hkeys]
  exact hapart k hk

lemma nodup_values (ctx : Context) (now : UInt64) (i : Instrument) :
    ((ctx.values now i).map (·.1)).Nodup := by
  rw [map_fst_values]
  exact i.kind.nodup_fieldNames

namespace Reading

variable {ctx : Context} {t : IdleTracker} {name : String} {i : Instrument}

lemma checkIdle_eq_still (ctx : Context) (t : IdleTracker) (name : String) {k : Int64}
    (hk : i.count? = some k) : (ctx.checkIdle t name k).1 = ctx.still t name i := by
  unfold Context.checkIdle
  rw [Context.still, hk, Option.any_some]
  cases ctx.skipIdle <;> rfl

lemma rateFields_eq (d : Draft) (r : Rates) :
    rateFields ctx d r = d.fieldAll (ctx.rateValues r) := rfl

lemma durationFields_eq (d : Draft) (s : Sample) :
    durationFields ctx d s = d.fieldAll (ctx.durationValues s) := rfl

variable (now : UInt64) (timestamp : Int64)

lemma draft_of_moved {k : Int64} (hk : i.count? = some k) (hs : ctx.still t name i = false) :
    (ofInstrument ctx t name now timestamp i).draft =
      .ok (some ((ctx.start name timestamp).fieldAll (ctx.values now i))) := by
  have hcheck := checkIdle_eq_still ctx t name hk
  rw [hs] at hcheck
  cases i with
  | gauge g => cases hk
  | counter c =>
    cases hk
    simp only [ofInstrument, ofCounter, hcheck]
    rfl
  | histogram h =>
    cases hk
    simp only [ofInstrument, ofHistogram, hcheck]
    rfl
  | meter m =>
    cases hk
    simp only [ofInstrument, ofMeter, hcheck]
    rfl
  | timer s =>
    cases hk
    simp only [ofInstrument, ofTimer, hcheck, Context.values, Context.paceValues,
      Draft.fieldAll_append, rateFields_eq, durationFields_eq]
    rfl

lemma draft_of_idle_timer {s : Timer} (hs : ctx.still t name (.timer s) = true) :
    (ofInstrument ctx t name now timestamp (.timer s)).draft =
      .ok (some ((ctx.start name timestamp).fieldAll (ctx.paceValues now s))) := by
  have hcheck := checkIdle_eq_still ctx t name (i := .timer s) rfl
  rw [hs] at hcheck
  simp only [ofInstrument, ofTimer, hcheck]
  rfl

lemma draft_of_still (hi : ∀ s, i ≠ .timer s) (hs : ctx.still t name i = true) :
    (ofInstrument ctx t name now timestamp i).draft = .ok none := by
  cases i with
  | gauge g => simp [Context.still, Instrument.count?] at hs
  | timer s => exact absurd rfl (hi s)
  | counter c =>
    have hcheck := checkIdle_eq_still ctx t name (i := .counter c) rfl
    rw [hs] at hcheck
    simp only [ofInstrument, ofCounter, hcheck]
    rfl
  | histogram s =>
    have hcheck := checkIdle_eq_still ctx t name (i := .histogram s) rfl
    rw [hs] at hcheck
    simp only [ofInstrument, ofHistogram, hcheck]
    rfl
  | meter m =>
    have hcheck := checkIdle_eq_still ctx t name (i := .meter m) rfl
    rw [hs] at hcheck
    simp only [ofInstrument, ofMeter, hcheck]
    rfl

variable {now : UInt64} {timestamp : Int64}

/-- A draft is started and given some values, one of which can be written. -/
lemma draft_eq_fieldAll {d : Draft}
    (h : (ofInstrument ctx t name now timestamp i).draft = .ok (some d)) :
    ∃ ps, d = (ctx.start name timestamp).fieldAll ps ∧ (ps.map (·.1)).Nodup ∧
      ∃ p ∈ ps, p.2.encodable = true := by
  cases hk : i.count? with
  | none =>
    cases i with
    | gauge g =>
      simp only [ofInstrument, ofGauge] at h
      split at h
      · cases h
      · simp only [Except.ok.injEq, Option.map_eq_some_iff] at h
        obtain ⟨v, hv, rfl⟩ := h
        have hcode : v.encodable = true := by
          unfold gaugeValue? at hv
          split at hv
          · cases hv; rfl
          · split at hv
            · rename_i hf
              cases hv
              exact hf
            · cases hv
          · cases hv; rfl
          · cases hv; rfl
          · cases hv
        exact ⟨[("value", v)], rfl, List.nodup_singleton _, _, List.mem_singleton_self _, hcode⟩
    | _ => cases hk
  | some k =>
    cases hs : ctx.still t name i with
    | false =>
      rw [draft_of_moved now timestamp hk hs] at h
      cases h
      refine ⟨_, rfl, nodup_values _ _ _, ?_⟩
      cases i with
      | gauge g => cases hk
      | _ => exact ⟨_, List.mem_cons_self, rfl⟩
    | true =>
      by_cases hi : ∃ s, i = .timer s
      · obtain ⟨s, rfl⟩ := hi
        rw [draft_of_idle_timer now timestamp hs] at h
        cases h
        have hnodup : ((ctx.paceValues now s).map (·.1)).Nodup :=
          (nodup_values ctx now (.timer s)).sublist (List.sublist_append_right _ _ |>.map _)
        exact ⟨_, rfl, hnodup, _, List.mem_append_right _ List.mem_cons_self, rfl⟩
      · rw [draft_of_still now timestamp (fun s hs => hi ⟨s, hs⟩) hs] at h
        cases h

lemma timestamp_of_draft {d : Draft}
    (h : (ofInstrument ctx t name now timestamp i).draft = .ok (some d)) :
    d.timestamp = timestamp := by
  obtain ⟨ps, rfl, _⟩ := draft_eq_fieldAll h
  exact Draft.fieldAll_keeps Draft.timestamp_field (ctx.start name timestamp) ps

/-- A draft is named and has a field. -/
lemma named_of_draft {d : Draft}
    (h : (ofInstrument ctx t name now timestamp i).draft = .ok (some d)) :
    d.name = (ctx.naming.resolve name).1 ∧ d.fields.entries ≠ [] := by
  obtain ⟨ps, rfl, hnodup, p, hp, hcode⟩ := draft_eq_fieldAll h
  refine ⟨Draft.fieldAll_keeps Draft.name_field (ctx.start name timestamp) ps,
    Dict.entries_ne_nil (k := p.1) ?_⟩
  rw [Dict.contains, Draft.get?_fieldAll_of_mem hnodup hp, if_pos hcode]
  rfl

end Reading

end Telemetry
