import Telemetry.Proofs.CycleOffers
import Telemetry.Proofs.TransformRecords

/-!
# The timestamp of a report

A report stamps every draft with its timestamp, and building keeps it. So all records of a report
have the timestamp of the report, if the adapters from outside leave it alone. These adapters stay
the same in all reports.
-/

namespace Telemetry

namespace Adapter

def customs (as : List Adapter) : List (String → Instrument → Draft → Draft) :=
  as.filterMap fun
    | custom adapt => some adapt
    | relativeCounts _ => none

def KeepsTime (adapt : String → Instrument → Draft → Draft) : Prop :=
  ∀ name i d, (adapt name i d).timestamp = d.timestamp

variable {as bs : List Adapter}

lemma customs_of_agree {name : String} (h : List.Forall₂ (AgreeAt name) as bs) :
    customs as = customs bs := by
  induction h with
  | nil => rfl
  | cons hab _ ih =>
    cases hab with
    | relativeCounts _ => exact ih
    | custom adapt => exact congrArg (adapt :: ·) ih

lemma customs_retain (live : String → Bool) : customs (as.map (·.retain live)) = customs as := by
  induction as with
  | nil => rfl
  | cons a as ih =>
    cases a with
    | relativeCounts _ => exact ih
    | custom adapt => exact congrArg (adapt :: ·) ih

end Adapter

/-- What neither a field nor an adapter from outside changes, no adapter changes. -/
lemma Adapter.adaptAll_keeps {β : Type} {g : Draft → β} (hfield : ∀ d k v, g (d.field k v) = g d)
    {as : List Adapter} (has : ∀ f ∈ customs as, ∀ name i d, g (f name i d) = g d)
    (name : String) (i : Instrument) (d : Draft) : g (adaptAll name i as d).1 = g d := by
  induction as generalizing d with
  | nil => rfl
  | cons a as ih =>
    cases a with
    | custom adapt =>
      have hhead := has adapt List.mem_cons_self name i d
      have htail := ih (fun f hf => has f (List.mem_cons_of_mem adapt hf)) (adapt name i d)
      exact htail.trans hhead
    | relativeCounts previous =>
      have hone : g (adapt (.relativeCounts previous) name i d).1 = g d := by
        cases i with
        | counter c =>
          simp only [adapt]
          rw [hfield, hfield]
        | _ => rfl
      exact (ih has _).trans hone

lemma Adapter.name_adaptAll {as : List Adapter} (has : customs as = []) (name : String)
    (i : Instrument) (d : Draft) : (adaptAll name i as d).1.name = d.name :=
  adaptAll_keeps Draft.name_field (by simp [has]) name i d

/-- The adapter for relative counts adds fields and takes none away. -/
lemma Adapter.fields_adaptAll {as : List Adapter} (has : customs as = []) (name : String)
    (i : Instrument) {d : Draft} (hd : d.fields.entries ≠ []) :
    (adaptAll name i as d).1.fields.entries ≠ [] := by
  induction as generalizing d with
  | nil => exact hd
  | cons a as ih =>
    cases a with
    | custom adapt => cases has
    | relativeCounts previous =>
      apply ih has
      cases i with
      | counter c =>
        refine Dict.entries_ne_nil (k := "relativeCount") ?_
        dsimp only
        rw [Dict.contains, Draft.get?_fields_field, if_pos ⟨rfl, rfl⟩]
        rfl
      | _ => exact hd

lemma Adapter.timestamp_adaptAll {as : List Adapter} (has : ∀ f ∈ customs as, KeepsTime f)
    (name : String) (i : Instrument) (d : Draft) :
    (adaptAll name i as d).1.timestamp = d.timestamp :=
  adaptAll_keeps Draft.timestamp_field has name i d

section Transform

variable {ctx : Context} {t : Tracking} {name : String} {now : UInt64} {timestamp : Int64}
  {i : Instrument}

/-- A record is a draft of the instrument as the adapters have left it. -/
lemma adapted_of_record? {r : Record}
    (h : (transform ctx t name now timestamp i).record? = some r) :
    ∃ d, (Reading.ofInstrument ctx t.idle name now timestamp i).draft = .ok (some d) ∧
      (Adapter.adaptAll name (Reading.ofInstrument ctx t.idle name now timestamp i).instrument
        t.adapters d).1.build = .ok r := by
  cases hd : (Reading.ofInstrument ctx t.idle name now timestamp i).draft with
  | error e =>
    rw [record?_of_failed_draft hd] at h
    cases h
  | ok d =>
    cases d with
    | none =>
      rw [record?_of_no_draft hd] at h
      cases h
    | some d =>
      rw [record?_of_draft hd] at h
      refine ⟨d, rfl, ?_⟩
      cases hbuild : (Adapter.adaptAll name
          (Reading.ofInstrument ctx t.idle name now timestamp i).instrument t.adapters d).1.build with
      | error e =>
        rw [hbuild] at h
        cases h
      | ok built =>
        rw [hbuild] at h
        cases h
        rfl

lemma timestamp_transform (ht : ∀ f ∈ Adapter.customs t.adapters, Adapter.KeepsTime f) {r : Record}
    (h : (transform ctx t name now timestamp i).record? = some r) : r.timestamp = timestamp := by
  obtain ⟨d, hd, hbuild⟩ := adapted_of_record? h
  obtain ⟨_, _, rfl⟩ := Draft.build_eq_ok_iff.1 hbuild
  exact (Adapter.timestamp_adaptAll ht name _ d).trans (Reading.timestamp_of_draft hd)

lemma customs_transform (now : UInt64) (timestamp : Int64) (i : Instrument) :
    Adapter.customs (transform ctx t name now timestamp i).tracking.adapters =
      Adapter.customs t.adapters := by
  -- a transform leaves the adapters as they are for any other name
  have hother : name ++ "'" ≠ name := by
    intro h
    have hlength := congrArg String.length h
    simp at hlength
  exact Adapter.customs_of_agree (transform_other ctx now timestamp i hother).adapters

end Transform

namespace Walk

variable {ctx : Context} {policy : FailurePolicy} {timestamp : Int64}

lemma tracking_visit (w : Walk) (name : String) (reg : Registration) :
    (w.visit ctx policy timestamp name reg).tracking =
      (transform ctx w.tracking name w.registry.clock.tick timestamp reg.instrument).tracking := by
  unfold visit note
  dsimp only
  split
  · rfl
  · rfl
  · cases policy <;> rfl

lemma customs_visitAll (w : Walk) (es : List (String × Registration)) :
    Adapter.customs (w.visitAll ctx policy timestamp es).tracking.adapters =
      Adapter.customs w.tracking.adapters := by
  induction es generalizing w with
  | nil => rfl
  | cons e es ih =>
    have hone : Adapter.customs (w.visit ctx policy timestamp e.1 e.2).tracking.adapters =
        Adapter.customs w.tracking.adapters := by
      rw [tracking_visit, customs_transform]
    rw [visitAll]
    split
    · exact hone
    · exact (ih _).trans hone

end Walk

namespace Cycle

variable {σ : Type} {c : Cycle σ} {r : Registry} {timestamp : Int64}

lemma customs_gather (c : Cycle σ) (r : Registry) (timestamp : Int64) :
    Adapter.customs (c.gather r timestamp).cycle.tracking.adapters =
      Adapter.customs c.tracking.adapters :=
  (Adapter.customs_retain _).trans (Walk.customs_visitAll _ _)

lemma timestamp_walk (h : ∀ f ∈ Adapter.customs c.tracking.adapters, Adapter.KeepsTime f)
    {record : Record} (hmem : record ∈ (c.walk r timestamp).records) :
    record.timestamp = timestamp := by
  rw [(c.walked_walk r timestamp).records] at hmem
  obtain ⟨e, _, he⟩ := List.mem_filterMap.1 hmem
  exact timestamp_transform h he

end Cycle

end Telemetry
