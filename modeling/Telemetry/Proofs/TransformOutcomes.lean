import Telemetry.Proofs.FailedTransforms
import Telemetry.Proofs.NameSegments

/-!
# How transforms end

Without adapters from outside a transform ends in one of four ways: the gauge cannot be read, there
is nothing to report, there is no name to report it under, or there is a record. A draft always has
a field, so a record never fails for want of one.
-/

namespace Telemetry

/-- The value has no place in a line. -/
def GaugeValue.Unwritable (v : GaugeValue) : Prop :=
  v = .null ∨ ∃ x, v = .float x ∧ Number.isFinite x = false

lemma Reading.gaugeValue?_eq_none_iff {v : GaugeValue} : gaugeValue? v = none ↔ v.Unwritable := by
  cases v <;> simp [gaugeValue?, GaugeValue.Unwritable]

namespace Instrument

/-- The gauge cannot be read. -/
def Fails (i : Instrument) (e : GaugeError) : Prop :=
  ∃ g, i = .gauge g ∧ g.current = .error e

/-- There is nothing to report: no value of a gauge that can be written, or no count of a counter,
histogram or meter above the one followed. -/
def Silent (i : Instrument) (ctx : Context) (t : IdleTracker) (name : String) : Prop :=
  (∃ g v, i = .gauge g ∧ g.current = .ok v ∧ v.Unwritable) ∨
  ctx.skipIdle = true ∧ i.kind.rests = true ∧
    ∃ count baseline, i.count? = some count ∧ t.previous name = some baseline ∧ count ≤ baseline

/-- There is something to report. -/
def Speaks (i : Instrument) (ctx : Context) (t : IdleTracker) (name : String) : Prop :=
  (∀ e, ¬i.Fails e) ∧ ¬i.Silent ctx t name

lemma eq_gauge_of_count?_eq_none {i : Instrument} (h : i.count? = none) : ∃ g, i = .gauge g := by
  cases i with
  | gauge g => exact ⟨g, rfl⟩
  | _ => cases h

end Instrument

section Transform

variable {ctx : Context} {t : Tracking} {name : String} {now : UInt64} {timestamp : Int64}
  {i : Instrument}

lemma draft_eq_error_iff {e : TransformError} :
    (Reading.ofInstrument ctx t.idle name now timestamp i).draft = .error e ↔
      ∃ r, i.Fails r ∧ e = .gauge name r := by
  cases hk : i.count? with
  | none =>
    obtain ⟨g, rfl⟩ := Instrument.eq_gauge_of_count?_eq_none hk
    rw [draft_gauge_eq_error_iff]
    constructor
    · rintro ⟨r, hr, rfl⟩
      exact ⟨r, ⟨g, rfl, hr⟩, rfl⟩
    · rintro ⟨r, ⟨_, ⟨⟩, hr⟩, rfl⟩
      exact ⟨r, hr, rfl⟩
  | some k =>
    obtain ⟨d, hd⟩ := draft_isOk (t := t) hk
    rw [hd]
    refine iff_of_false (by simp) ?_
    rintro ⟨_, ⟨g, rfl, _⟩, _⟩
    cases hk

lemma draft_eq_none_iff_silent :
    (Reading.ofInstrument ctx t.idle name now timestamp i).draft = .ok none ↔
      i.Silent ctx t.idle name := by
  cases hk : i.count? with
  | none =>
    obtain ⟨g, rfl⟩ := Instrument.eq_gauge_of_count?_eq_none hk
    rw [draft_gauge_eq_none_iff]
    simp only [Reading.gaugeValue?_eq_none_iff]
    constructor
    · rintro ⟨v, hv, hunwritable⟩
      exact .inl ⟨g, v, rfl, hv, hunwritable⟩
    · rintro (⟨_, v, ⟨⟩, hv, hunwritable⟩ | ⟨_, hrests, _⟩)
      · exact ⟨v, hv, hunwritable⟩
      · cases hrests
  | some k =>
    rw [draft_eq_none_iff hk, IdleTracker.still_iff]
    constructor
    · rintro ⟨⟨hskip, hidle⟩, hrests⟩
      exact .inr ⟨hskip, hrests, hidle⟩
    · rintro (⟨g, _, rfl, _⟩ | ⟨hskip, hrests, hidle⟩)
      · cases hk
      · exact ⟨⟨hskip, hidle⟩, hrests⟩

/-- What becomes of a draft is up to its name. -/
lemma outcome_of_draft_cases (ht : Adapter.customs t.adapters = []) {d : Draft}
    (hd : (Reading.ofInstrument ctx t.idle name now timestamp i).draft = .ok (some d)) :
    let outcome := (transform ctx t name now timestamp i).outcome
    (ctx.naming.resolve name).1 = "" ∧ outcome = .error (.record .emptyName) ∨
      (ctx.naming.resolve name).1 ≠ "" ∧ ∃ r, outcome = .ok (some r) := by
  by_cases hname : (ctx.naming.resolve name).1 = ""
  · refine .inl ⟨hname, ?_⟩
    have hn := (Reading.named_of_draft hd).1
    rw [outcome_of_draft hd, Draft.build, if_pos (by rw [Adapter.name_adaptAll ht, hn, hname]; rfl)]
  · exact .inr ⟨hname, outcome_of_named ht hname hd⟩

/-- The four ways in which a transform ends. -/
lemma outcome_cases (ht : Adapter.customs t.adapters = []) :
    let outcome := (transform ctx t name now timestamp i).outcome
    (∃ e, i.Fails e ∧ outcome = .error (.gauge name e)) ∨
      i.Silent ctx t.idle name ∧ outcome = .ok none ∨
      i.Speaks ctx t.idle name ∧
        ((ctx.naming.resolve name).1 = "" ∧ outcome = .error (.record .emptyName) ∨
          (ctx.naming.resolve name).1 ≠ "" ∧ ∃ r, outcome = .ok (some r)) := by
  intro outcome
  cases hd : (Reading.ofInstrument ctx t.idle name now timestamp i).draft with
  | error e =>
    obtain ⟨r, hr, rfl⟩ := draft_eq_error_iff.1 hd
    exact .inl ⟨r, hr, outcome_of_failed_draft hd⟩
  | ok d =>
    cases d with
    | none => exact .inr (.inl ⟨draft_eq_none_iff_silent.1 hd, outcome_eq_none_iff.2 hd⟩)
    | some d =>
      refine .inr (.inr ⟨⟨fun e he => ?_, fun hsilent => ?_⟩, outcome_of_draft_cases ht hd⟩)
      · rw [draft_eq_error_iff.2 ⟨e, he, rfl⟩] at hd
        cases hd
      · rw [draft_eq_none_iff_silent.2 hsilent] at hd
        cases hd

lemma outcome_of_speaks (ht : Adapter.customs t.adapters = [])
    (hspeaks : i.Speaks ctx t.idle name) :
    let outcome := (transform ctx t name now timestamp i).outcome
    (ctx.naming.resolve name).1 = "" ∧ outcome = .error (.record .emptyName) ∨
      (ctx.naming.resolve name).1 ≠ "" ∧ ∃ r, outcome = .ok (some r) := by
  rcases outcome_cases ht with ⟨e, he, _⟩ | ⟨hsilent, _⟩ | ⟨_, hends⟩
  · exact absurd he (hspeaks.1 e)
  · exact absurd hsilent hspeaks.2
  · exact hends

lemma outcome_eq_gauge_iff (ht : Adapter.customs t.adapters = []) {metric : String}
    {e : GaugeError} :
    (transform ctx t name now timestamp i).outcome = .error (.gauge metric e) ↔
      i.Fails e ∧ metric = name := by
  constructor
  · intro h
    rcases outcome_cases ht with ⟨r, hr, ho⟩ | ⟨_, ho⟩ | ⟨_, ⟨_, ho⟩ | ⟨_, r, ho⟩⟩
    all_goals
      rw [ho] at h
      cases h
    exact ⟨hr, rfl⟩
  · rintro ⟨he, rfl⟩
    exact outcome_of_failed_draft (draft_eq_error_iff.2 ⟨e, he, rfl⟩)

lemma outcome_eq_unnamed_iff (ht : Adapter.customs t.adapters = []) :
    (transform ctx t name now timestamp i).outcome = .error (.record .emptyName) ↔
      i.Speaks ctx t.idle name ∧ (ctx.naming.resolve name).1 = "" := by
  constructor
  · intro h
    rcases outcome_cases ht with ⟨r, _, ho⟩ | ⟨_, ho⟩ | ⟨hspeaks, ⟨hname, ho⟩ | ⟨_, r, ho⟩⟩
    all_goals
      rw [ho] at h
      cases h
    exact ⟨hspeaks, hname⟩
  · rintro ⟨hspeaks, hname⟩
    rcases outcome_of_speaks ht hspeaks with ⟨_, ho⟩ | ⟨hnamed, _⟩
    · exact ho
    · exact absurd hname hnamed

lemma outcome_eq_record_iff (ht : Adapter.customs t.adapters = []) :
    (∃ r, (transform ctx t name now timestamp i).outcome = .ok (some r)) ↔
      i.Speaks ctx t.idle name ∧ (ctx.naming.resolve name).1 ≠ "" := by
  constructor
  · rintro ⟨r, h⟩
    rcases outcome_cases ht with ⟨e, _, ho⟩ | ⟨_, ho⟩ | ⟨hspeaks, ⟨_, ho⟩ | ⟨hnamed, r, ho⟩⟩
    all_goals
      rw [ho] at h
      cases h
    exact ⟨hspeaks, hnamed⟩
  · rintro ⟨hspeaks, hnamed⟩
    rcases outcome_of_speaks ht hspeaks with ⟨hname, _⟩ | ⟨_, hr⟩
    · exact absurd hname hnamed
    · exact hr

lemma outcome_ne_noFields (ht : Adapter.customs t.adapters = []) (metric : String) :
    (transform ctx t name now timestamp i).outcome ≠ .error (.record (.noFields metric)) := by
  intro h
  rcases outcome_cases ht with ⟨e, _, ho⟩ | ⟨_, ho⟩ | ⟨_, ⟨_, ho⟩ | ⟨_, r, ho⟩⟩
  all_goals
    rw [ho] at h
    cases h

end Transform

/-- Which of the four ways a transform ends in, and when there is no name for its record. -/
theorem outcomes {ctx : Context} {t : Tracking} (ht : Adapter.customs t.adapters = [])
    (name : String) (now : UInt64) (timestamp : Int64) (i : Instrument) :
    let outcome := (transform ctx t name now timestamp i).outcome
    let measurement := (ctx.naming.resolve name).1
    let full := ctx.naming.fullName name
    (∀ metric e, outcome = .error (.gauge metric e) ↔ i.Fails e ∧ metric = name) ∧
    (outcome = .ok none ↔ i.Silent ctx t.idle name) ∧
    (outcome = .error (.record .emptyName) ↔ i.Speaks ctx t.idle name ∧ measurement = "") ∧
    ((∃ r, outcome = .ok (some r)) ↔ i.Speaks ctx t.idle name ∧ measurement ≠ "") ∧
    (∀ metric, outcome ≠ .error (.record (.noFields metric))) ∧
    (full ≠ "" → (measurement = "" ↔ (NameScheme.segments full).getLast? = some "" ∧
      ctx.naming.scheme.LeavesLast (NameScheme.segments full).length)) := by
  intro outcome measurement full
  refine ⟨fun metric e => outcome_eq_gauge_iff ht, ?_, outcome_eq_unnamed_iff ht,
    outcome_eq_record_iff ht, outcome_ne_noFields ht, ?_⟩
  · exact outcome_eq_none_iff.trans draft_eq_none_iff_silent
  · intro hfull
    exact ctx.naming.scheme.measurement_eq_empty_iff hfull

/-- A name that ends in a dot is used up by its tags. -/
theorem outcomes_used_up :
    let t : Tracking := ⟨.empty, [.relative, .relative]⟩
    Adapter.customs t.adapters = [] ∧ tagging.naming.fullName "x.y." ≠ "" ∧
      (NameScheme.segments "x.y.").getLast? = some "" ∧
      (transform tagging t "x.y." 0 0 (.counter ⟨1⟩)).outcome = .error (.record .emptyName) := by
  intro t
  have hfull : tagging.naming.fullName "x.y." ≠ "" := by decide
  have hlast : (NameScheme.segments "x.y.").getLast? = some "" := by decide
  obtain ⟨_, _, hunnamed, _, _, hempty⟩ := @outcomes tagging t rfl "x.y." 0 0 (.counter ⟨1⟩)
  have hspeaks : (Instrument.counter ⟨1⟩).Speaks tagging t.idle "x.y." := by
    refine ⟨?_, ?_⟩
    · rintro e ⟨g, ⟨⟩, _⟩
    · rintro (⟨g, _, ⟨⟩, _⟩ | ⟨_, _, _, _, _, hprevious, _⟩)
      cases hprevious
  exact ⟨rfl, hfull, hlast, hunnamed.2 ⟨hspeaks, (hempty hfull).2 ⟨hlast, by decide⟩⟩⟩

end Telemetry
