import Telemetry.Proofs.RecordStamps
import Telemetry.Proofs.TransformTracking

/-!
# The fields of a record

The record of an instrument shows its values as far as they can be written, if the adapters from
outside leave the fields of instruments alone.
-/

namespace Telemetry

/-- Each value stands in the record under its key, if it can be written. -/
def Record.Shows (r : Record) (ps : List (String × FieldValue)) : Prop :=
  ∀ p ∈ ps, r.fields.get? p.1 = if p.2.encodable then some p.2.token else none

namespace Adapter

/-- The adapter leaves the fields that instruments report alone. -/
def KeepsFields (adapt : String → Instrument → Draft → Draft) : Prop :=
  ∀ name i d, ∀ k ∈ i.kind.fieldNames, (adapt name i d).fields.get? k = d.fields.get? k

/-- The count of a counter is written once more with its relative count. -/
lemma get?_adaptAll {as : List Adapter} (has : ∀ f ∈ customs as, KeepsFields f) (name : String)
    {i : Instrument} {d : Draft} {k : String} (hk : k ∈ i.kind.fieldNames)
    (hcount : ∀ c, i = .counter c →
      d.fields.get? "count" = some (FieldValue.integer c.count).token) :
    (adaptAll name i as d).1.fields.get? k = d.fields.get? k := by
  induction as generalizing d with
  | nil => rfl
  | cons a as ih =>
    cases a with
    | custom f =>
      have hhead : KeepsFields f := has f List.mem_cons_self
      have htail : ∀ g ∈ customs as, KeepsFields g := fun g hg => has g (List.mem_cons_of_mem f hg)
      refine (ih htail ?_).trans (hhead name i d k hk)
      rintro c rfl
      exact (hhead name _ d "count" List.mem_cons_self).trans (hcount c rfl)
    | relativeCounts previous =>
      cases i with
      | counter c =>
        -- `count` is written again with the token that stands there, by `hcount`
        have hsame : (adapt (.relativeCounts previous) name (.counter c) d).1.fields.get? "count" =
            d.fields.get? "count" := by
          rw [hcount c rfl]
          simp [adapt, Draft.get?_fields_field, FieldValue.encodable]
        rw [List.mem_singleton.1 hk] at ih ⊢
        refine (ih has ?_).trans hsame
        rintro _ ⟨⟩
        exact hsame.trans (hcount c rfl)
      | _ => exact ih has hcount

end Adapter

section Records

variable {ctx : Context} {t : Tracking} {name : String} {now : UInt64} {timestamp : Int64}
  {i : Instrument} (hok : (transform ctx t name now timestamp i).outcome.isOk = true)

include hok

lemma record?_of_ok {d : Draft}
    (hd : (Reading.ofInstrument ctx t.idle name now timestamp i).draft = .ok (some d)) :
    ∃ r, (transform ctx t name now timestamp i).record? = some r ∧
      r.fields = (Adapter.adaptAll name
        (Reading.ofInstrument ctx t.idle name now timestamp i).instrument t.adapters d).1.fields := by
  rw [outcome_of_draft hd] at hok
  rw [record?_of_draft hd]
  cases hbuild : (Adapter.adaptAll name
      (Reading.ofInstrument ctx t.idle name now timestamp i).instrument t.adapters d).1.build with
  | error e =>
    rw [hbuild] at hok
    cases hok
  | ok r =>
    obtain ⟨_, _, rfl⟩ := Draft.build_eq_ok_iff.1 hbuild
    exact ⟨_, rfl, rfl⟩

lemma shows_of_draft {ps : List (String × FieldValue)}
    (hd : (Reading.ofInstrument ctx t.idle name now timestamp i).draft =
      .ok (some ((ctx.start name timestamp).fieldAll ps)))
    (hps : (ps.map (·.1)).Sublist i.kind.fieldNames)
    (hcount : ∀ c, i = .counter c → ps = [("count", .integer c.count)]) :
    ∃ r, (transform ctx t name now timestamp i).record? = some r ∧
      ((∀ f ∈ Adapter.customs t.adapters, Adapter.KeepsFields f) →
        r.Shows ps ∧ ∀ k ∈ i.kind.fieldNames, k ∉ ps.map (·.1) → r.fields.get? k = none) := by
  obtain ⟨r, hr, hfields⟩ := record?_of_ok hok hd
  refine ⟨r, hr, fun hcustoms => ?_⟩
  have hkind : (Reading.ofInstrument ctx t.idle name now timestamp i).instrument.kind = i.kind := by
    rw [← instrument_transform, kind_transform]
  have hnodup := i.kind.nodup_fieldNames.sublist hps
  have hempty (k : String) : (ctx.start name timestamp).fields.get? k = none := rfl
  have hsame {k : String} (hk : k ∈ i.kind.fieldNames) : r.fields.get? k =
      ((ctx.start name timestamp).fieldAll ps).fields.get? k := by
    rw [hfields]
    apply Adapter.get?_adaptAll hcustoms name (by rwa [hkind])
    intro c hc
    by_cases hi : ∃ b, i = .counter b
    · obtain ⟨b, rfl⟩ := hi
      cases hc
      have hmem : ("count", FieldValue.integer c.count) ∈ ps := by
        rw [hcount c rfl]
        exact List.mem_cons_self
      exact Draft.get?_fieldAll_of_mem hnodup hmem _
    · exact absurd hc (Reading.instrument_ne_counter ctx t.idle name now timestamp
        (fun b hb => hi ⟨b, hb⟩) c)
  constructor
  · intro p hp
    have hmem : p.1 ∈ i.kind.fieldNames := hps.subset (List.mem_map_of_mem hp)
    rw [hsame hmem, Draft.get?_fieldAll_of_mem hnodup hp, hempty]
  · intro k hk hout
    rw [hsame hk, Draft.get?_fieldAll_of_not_mem hout, hempty]

/-- An instrument that is not idle gets a record with all of its values. -/
lemma shows_values {k : Int64} (hk : i.count? = some k) (hs : ctx.still t.idle name i = false) :
    ∃ r, (transform ctx t name now timestamp i).record? = some r ∧
      ((∀ f ∈ Adapter.customs t.adapters, Adapter.KeepsFields f) →
        r.Shows (ctx.values now i)) := by
  have hps : ((ctx.values now i).map (·.1)).Sublist i.kind.fieldNames := by
    rw [map_fst_values]
  have hcount : ∀ c, i = .counter c → ctx.values now i = [("count", .integer c.count)] := by
    rintro c rfl
    rfl
  have hdraft := Reading.draft_of_moved now timestamp hk hs
  obtain ⟨r, hr, hshows⟩ := shows_of_draft hok hdraft hps hcount
  exact ⟨r, hr, fun h => (hshows h).1⟩

lemma isSome_record?_iff {k : Int64} (hk : i.count? = some k) (hi : ∀ s, i ≠ .timer s) :
    (transform ctx t name now timestamp i).record?.isSome = true ↔
      ctx.still t.idle name i = false := by
  cases hs : ctx.still t.idle name i with
  | true =>
    rw [record?_of_still hi hs]
    simp
  | false =>
    obtain ⟨r, hr, _⟩ := shows_values hok hk hs
    simp [hr]

end Records

/-- The record of a timer, which shows the statistics of its durations if it has moved. -/
structure Record.OfTimer (r : Record) (ctx : Context) (now : UInt64) (t : Timer) (moved : Prop) :
    Prop where
  pace : r.Shows (ctx.paceValues now t)
  runCount : r.fields.contains "run-count" = true
  count : r.fields.contains "count" = true ↔ moved
  durations : moved → r.Shows (ctx.durationValues t.sample)
  none : ¬moved → ∀ k ∈ InstrumentKind.durationNames, r.fields.contains k = false

lemma ofTimer_record? {ctx : Context} {t : Tracking} {name : String} {now : UInt64}
    {timestamp : Int64} {s : Timer}
    (hok : (transform ctx t name now timestamp (.timer s)).outcome.isOk = true) :
    ∃ r, (transform ctx t name now timestamp (.timer s)).record? = some r ∧
      ((∀ f ∈ Adapter.customs t.adapters, Adapter.KeepsFields f) →
        r.OfTimer ctx now s (ctx.still t.idle name (.timer s) = false)) := by
  have hrun {r : Record} (hpace : r.Shows (ctx.paceValues now s)) :
      r.fields.contains "run-count" = true := by
    rw [Dict.contains, hpace _ (List.mem_append_right _ List.mem_cons_self)]
    rfl
  cases hs : ctx.still t.idle name (.timer s) with
  | false =>
    obtain ⟨r, hr, hshows⟩ := shows_values hok rfl hs
    refine ⟨r, hr, fun h => ?_⟩
    have hpace : r.Shows (ctx.paceValues now s) :=
      fun p hp => hshows h p (List.mem_append_right _ hp)
    have hdurations : r.Shows (ctx.durationValues s.sample) :=
      fun p hp => hshows h p (List.mem_append_left _ hp)
    have hcount : r.fields.contains "count" = true := by
      rw [Dict.contains, hdurations _ List.mem_cons_self]
      rfl
    exact ⟨hpace, hrun hpace, by simp [hcount], fun _ => hdurations, fun hno => absurd rfl hno⟩
  | true =>
    have hpace : ((ctx.paceValues now s).map (·.1)).Sublist InstrumentKind.timer.fieldNames :=
      List.sublist_append_right _ _
    have hother : ∀ c, Instrument.timer s = .counter c →
        ctx.paceValues now s = [("count", .integer c.count)] := by
      intro c hc
      cases hc
    have hdraft := Reading.draft_of_idle_timer now timestamp hs
    obtain ⟨r, hr, hshows⟩ := shows_of_draft hok hdraft hpace hother
    refine ⟨r, hr, fun h => ?_⟩
    have hnone : ∀ k ∈ InstrumentKind.durationNames, r.fields.contains k = false := by
      intro k hk
      have hout := not_mem_paceValues hk ctx now s
      rw [Dict.contains, (hshows h).2 k (List.mem_append_left _ hk) hout]
      rfl
    have hcount := hnone "count" List.mem_cons_self
    refine ⟨(hshows h).1, hrun (hshows h).1, by simp [hcount], ?_, fun _ => hnone⟩
    intro hmoved
    cases hmoved

end Telemetry
