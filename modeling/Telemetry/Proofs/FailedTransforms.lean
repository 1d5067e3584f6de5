import Telemetry.Proofs.AbortedCycles
import Telemetry.Proofs.RecordStamps

/-!
# What a failed transform records

Idleness is settled before a record is built. So a transform that fails for want of a name has noted
the count as if it had been reported, and the next transform takes the same counter, histogram or
meter for idle. Timers and gauges fail again.
-/

namespace Telemetry

/-- Instruments of this kind have no record while they are idle. -/
def InstrumentKind.rests : InstrumentKind → Bool
  | counter | histogram | meter => true
  | gauge | timer => false

lemma InstrumentKind.rests_iff {kind : InstrumentKind} :
    kind.rests = true ↔ kind ≠ gauge ∧ kind ≠ timer := by
  cases kind <;> decide

/-- A gauge goes on with the reading that it gives now. -/
def Instrument.Steady : Instrument → Prop
  | .gauge g => g.upcoming = []
  | _ => True

lemma Instrument.count?_eq_none_iff {i : Instrument} : i.count? = none ↔ i.kind = .gauge := by
  cases i <;> simp [count?, kind]

namespace Context

variable {ctx : Context} {t : IdleTracker} {name : String} {i j : Instrument}

lemma still_of_count?_eq (h : i.count? = j.count?) : ctx.still t name i = ctx.still t name j := by
  rw [still, still, h]

/-- An instrument that was looked at is idle from then on. -/
lemma still_look (ctx : Context) (t : IdleTracker) (name : String) {k : Int64}
    (hk : i.count? = some k) : ctx.still (ctx.look t name i) name i = ctx.skipIdle := by
  cases hs : ctx.still t name i with
  | true =>
    rw [look_of_still hs, hs]
    rw [still, Bool.and_eq_true] at hs
    exact hs.1.symm
  | false =>
    rw [Bool.eq_iff_iff, still_look_of_moved hs, hs]
    simp [hk]

/-- A look leaves no trace if nothing is skipped, nothing counted or nothing has moved. -/
lemma look_eq_iff : ctx.look t name i = t ↔
    ctx.skipIdle = false ∨ i.count? = none ∨ ctx.still t name i = true := by
  cases hskip : ctx.skipIdle with
  | false => simp [look, hskip]
  | true =>
    cases hk : i.count? with
    | none => simp [look, hskip, hk]
    | some k =>
      simp only [look, still, hskip, hk, if_true, Option.elim_some, Option.any_some, Bool.true_and,
        Bool.true_eq_false, reduceCtorEq, false_or]
      constructor
      · intro h
        by_contra hidle
        have hprevious : t.previous name = some k := by
          rw [← h, IdleTracker.previous_observe, if_pos ⟨rfl, hidle⟩]
        exact hidle (IdleTracker.idle_iff.2 ⟨k, hprevious, Int64.le_refl k⟩)
      · intro hidle
        rw [IdleTracker.observe, if_pos hidle]

lemma look_of_ne (h : ctx.look t name i ≠ t) :
    ∃ k, i.count? = some k ∧ (ctx.look t name i).baselines = t.baselines.insert name k := by
  rw [ne_eq, look_eq_iff, not_or, not_or, Bool.not_eq_false] at h
  obtain ⟨hskip, hcount, hstill⟩ := h
  obtain ⟨k, hk⟩ := Option.ne_none_iff_exists'.1 hcount
  have hidle : ¬t.idle name k = true := by simpa [still, hskip, hk] using hstill
  refine ⟨k, hk, ?_⟩
  rw [look, if_pos hskip, hk, Option.elim_some, IdleTracker.observe, if_neg hidle]

end Context

section Transform

variable {ctx : Context} {t : Tracking} {name : String} {now : UInt64} {timestamp : Int64}
  {i : Instrument}

lemma outcome_eq_none_iff :
    (transform ctx t name now timestamp i).outcome = .ok none ↔
      (Reading.ofInstrument ctx t.idle name now timestamp i).draft = .ok none := by
  cases hd : (Reading.ofInstrument ctx t.idle name now timestamp i).draft with
  | error e => simp [transform, hd]
  | ok d =>
    cases d with
    | none => simp [transform, hd]
    | some d =>
      rw [outcome_of_draft hd]
      cases (Adapter.adaptAll name (Reading.ofInstrument ctx t.idle name now timestamp i).instrument
        t.adapters d).1.build <;> simp

lemma draft_eq_none_iff {k : Int64} (hk : i.count? = some k) :
    (Reading.ofInstrument ctx t.idle name now timestamp i).draft = .ok none ↔
      ctx.still t.idle name i = true ∧ i.kind.rests = true := by
  cases hs : ctx.still t.idle name i with
  | false => simp [Reading.draft_of_moved now timestamp hk hs]
  | true =>
    cases i with
    | gauge g => cases hk
    | timer s =>
      simp [Reading.draft_of_idle_timer now timestamp hs, Instrument.kind, InstrumentKind.rests]
    | _ => simp [Reading.draft_of_still now timestamp (by simp) hs, Instrument.kind,
        InstrumentKind.rests]

lemma Tracking.Simple.customs_eq_nil (ht : t.Simple) : Adapter.customs t.adapters = [] := by
  rcases ht with h | ⟨previous, h⟩ <;> rw [h] <;> rfl

lemma outcome_of_named (ht : Adapter.customs t.adapters = [])
    (hname : (ctx.naming.resolve name).1 ≠ "") {d : Draft}
    (hd : (Reading.ofInstrument ctx t.idle name now timestamp i).draft = .ok (some d)) :
    ∃ r, (transform ctx t name now timestamp i).outcome = .ok (some r) := by
  obtain ⟨hn, hf⟩ := Reading.named_of_draft hd
  have hbuild := Draft.build_eq_ok_iff.2 ⟨by rwa [Adapter.name_adaptAll ht, hn],
    Adapter.fields_adaptAll ht name
      (Reading.ofInstrument ctx t.idle name now timestamp i).instrument hf, rfl⟩
  rw [outcome_of_draft hd, hbuild]
  exact ⟨_, rfl⟩

lemma outcome_of_failed_draft {e : TransformError}
    (hd : (Reading.ofInstrument ctx t.idle name now timestamp i).draft = .error e) :
    (transform ctx t name now timestamp i).outcome = .error e := by
  simp only [transform, hd]

/-- A plain transform fails because a gauge does, or for want of a name. -/
lemma failed_cases (ht : t.Simple) {e : TransformError}
    (h : (transform ctx t name now timestamp i).outcome = .error e) :
    (Reading.ofInstrument ctx t.idle name now timestamp i).draft = .error e ∨
      (ctx.naming.resolve name).1 = "" ∧ e = .record .emptyName ∧
        ∃ d, (Reading.ofInstrument ctx t.idle name now timestamp i).draft = .ok (some d) := by
  cases hd : (Reading.ofInstrument ctx t.idle name now timestamp i).draft with
  | error e' =>
    rw [outcome_of_failed_draft hd] at h
    cases h
    exact .inl rfl
  | ok d =>
    cases d with
    | none =>
      rw [outcome_eq_none_iff.2 hd] at h
      cases h
    | some d =>
      by_cases hname : (ctx.naming.resolve name).1 = ""
      · rw [outcome_of_unnamed ht hname hd] at h
        cases h
        exact .inr ⟨hname, rfl, d, rfl⟩
      · obtain ⟨r, hr⟩ := outcome_of_named ht.customs_eq_nil hname hd
        rw [hr] at h
        cases h

lemma draft_isOk {k : Int64} (hk : i.count? = some k) :
    ∃ d, (Reading.ofInstrument ctx t.idle name now timestamp i).draft = .ok d := by
  cases hs : ctx.still t.idle name i with
  | false => exact ⟨_, Reading.draft_of_moved now timestamp hk hs⟩
  | true =>
    by_cases hi : ∃ s, i = .timer s
    · obtain ⟨s, rfl⟩ := hi
      exact ⟨_, Reading.draft_of_idle_timer now timestamp hs⟩
    · exact ⟨_, Reading.draft_of_still now timestamp (fun s h => hi ⟨s, h⟩) hs⟩

lemma draft_gauge {g : Gauge} {u : IdleTracker} :
    (Reading.ofInstrument ctx u name now timestamp (.gauge g)).draft =
      match g.current with
      | .error r => .error (.gauge name r)
      | .ok v => .ok ((Reading.gaugeValue? v).map ((ctx.start name timestamp).field "value")) := by
  have hread : g.read.1 = g.current := by
    unfold Gauge.read
    split <;> rfl
  cases hcurrent : g.current <;> simp only [Reading.ofInstrument, Reading.ofGauge, hread, hcurrent]

lemma draft_gauge_eq_none_iff {g : Gauge} {u : IdleTracker} :
    (Reading.ofInstrument ctx u name now timestamp (.gauge g)).draft = .ok none ↔
      ∃ v, g.current = .ok v ∧ Reading.gaugeValue? v = none := by
  rw [draft_gauge]
  cases g.current <;> simp

lemma draft_gauge_eq_error_iff {g : Gauge} {u : IdleTracker} {e : TransformError} :
    (Reading.ofInstrument ctx u name now timestamp (.gauge g)).draft = .error e ↔
      ∃ r, g.current = .error r ∧ .gauge name r = e := by
  rw [draft_gauge]
  cases g.current <;> simp

variable {e : TransformError} (h : (transform ctx t name now timestamp i).outcome = .error e)

include h

lemma draft_ne_none_of_failed :
    (Reading.ofInstrument ctx t.idle name now timestamp i).draft ≠ .ok none := by
  intro hd
  rw [outcome_eq_none_iff.2 hd] at h
  cases h

/-- The draft after a failure. -/
lemma draft_again (hsteady : i.Steady) (later : UInt64) (stamp : Int64) :
    let failed := transform ctx t name now timestamp i
    let again := Reading.ofInstrument ctx failed.tracking.idle name later stamp failed.instrument
    (again.draft = .ok none ↔ ctx.skipIdle = true ∧ i.kind.rests = true) ∧
    ∀ e', again.draft = .error e' ↔
      (Reading.ofInstrument ctx t.idle name now timestamp i).draft = .error e' := by
  intro failed again
  have hdraft := draft_ne_none_of_failed h
  cases hk : i.count? with
  | none =>
    obtain ⟨g, rfl⟩ : ∃ g, i = .gauge g := by
      cases i with
      | gauge g => exact ⟨g, rfl⟩
      | _ => cases hk
    have hsame : failed.instrument = .gauge g := by
      have hupcoming : g.upcoming = [] := hsteady
      rw [instrument_transform]
      simp [Reading.ofInstrument, Reading.ofGauge, Gauge.read, hupcoming]
    simp only [again, hsame, draft_gauge_eq_error_iff, implies_true, and_true]
    rw [ne_eq, draft_gauge_eq_none_iff] at hdraft
    rw [draft_gauge_eq_none_iff]
    exact iff_of_false hdraft (by simp [Instrument.kind, InstrumentKind.rests])
  | some k =>
    have hcount : failed.instrument.count? = some k := (count?_transform now timestamp).trans hk
    have hstill : ctx.still failed.tracking.idle name failed.instrument = ctx.skipIdle := by
      rw [Context.still_of_count?_eq (hcount.trans hk.symm), idle_transform]
      exact Context.still_look ctx t.idle name hk
    refine ⟨?_, fun e' => iff_of_false ?_ ?_⟩
    · rw [draft_eq_none_iff hcount, hstill, kind_transform]
    · obtain ⟨d, hd⟩ := draft_isOk hcount
      rw [hd]
      simp
    · obtain ⟨d, hd⟩ := draft_isOk (t := t) hk
      rw [hd]
      simp

end Transform

/-- When a transform that failed has left the tracker as it was, and what becomes of the instrument
at the next one. -/
theorem idle_of_failed {ctx : Context} {t : Tracking} {name : String} {now : UInt64}
    {timestamp : Int64} {i : Instrument} {e : TransformError}
    (h : (transform ctx t name now timestamp i).outcome = .error e) :
    let failed := transform ctx t name now timestamp i
    (failed.tracking.idle = t.idle ↔ ctx.skipIdle = false ∨ i.kind = .gauge ∨
      i.kind = .timer ∧ ctx.still t.idle name i = true) ∧
    (failed.tracking.idle ≠ t.idle → ∃ k, i.count? = some k ∧
      failed.tracking.idle.baselines = t.idle.baselines.insert name k) ∧
    (i.Steady → ∀ later stamp,
      let again := transform ctx failed.tracking name later stamp failed.instrument
      (again.outcome = .ok none ↔ ctx.skipIdle = true ∧ i.kind.rests = true) ∧
      (t.Simple → ¬(ctx.skipIdle = true ∧ i.kind.rests = true) → again.outcome = .error e)) := by
  intro failed
  have hidle : failed.tracking.idle = ctx.look t.idle name i := idle_transform now timestamp
  refine ⟨?_, ?_, fun hsteady later stamp => ?_⟩
  · have htimer (hs : ctx.still t.idle name i = true) : i.kind = .timer := by
      obtain ⟨_, k, _, hk, _⟩ := IdleTracker.still_iff.1 hs
      have hgauge : i.kind ≠ .gauge := by
        rw [ne_eq, ← Instrument.count?_eq_none_iff, hk]
        nofun
      by_contra hne
      exact draft_ne_none_of_failed h
        ((draft_eq_none_iff hk).2 ⟨hs, InstrumentKind.rests_iff.2 ⟨hgauge, hne⟩⟩)
    rw [hidle, Context.look_eq_iff, Instrument.count?_eq_none_iff]
    exact or_congr Iff.rfl (or_congr Iff.rfl ⟨fun hs => ⟨htimer hs, hs⟩, And.right⟩)
  · rw [hidle]
    exact Context.look_of_ne
  · obtain ⟨hnone, herror⟩ := draft_again h hsteady later stamp
    refine ⟨by rw [outcome_eq_none_iff, hnone], fun hsimple hrests => ?_⟩
    rcases failed_cases hsimple h with hd | ⟨hname, rfl, d, hd⟩
    · exact outcome_of_failed_draft ((herror e).2 hd)
    · cases hagain : (Reading.ofInstrument ctx failed.tracking.idle name later stamp
        failed.instrument).draft with
      | error e' =>
        rw [(herror e').1 hagain] at hd
        cases hd
      | ok again =>
        cases again with
        | none => exact absurd (hnone.1 hagain) hrests
        | some d' => exact outcome_of_unnamed (hsimple.transform now timestamp) hname hagain

/-- Skips idle instruments and takes tags from names. -/
def tagging : Context :=
  { Settings.default with skipIdle := true, scheme := .keyValue }.context

/-- A counter without a name for its record fails once and then passes for idle. -/
theorem idle_of_failed_unnamed :
    let failed := transform tagging ⟨.empty, []⟩ "x.y." 0 0 (.counter ⟨1⟩)
    failed.outcome = .error (.record .emptyName) ∧ failed.tracking.idle ≠ .empty ∧
      (transform tagging failed.tracking "x.y." 0 0 failed.instrument).outcome = .ok none := by
  intro failed
  have herror : failed.outcome = .error (.record .emptyName) := rfl
  obtain ⟨hunchanged, _, hagain⟩ := idle_of_failed herror
  refine ⟨herror, fun hempty => ?_, (hagain trivial 0 0).1.2 ⟨rfl, rfl⟩⟩
  rcases hunchanged.1 hempty with hskip | hgauge | ⟨htimer, _⟩
  · cases hskip
  · cases hgauge
  · cases htimer

end Telemetry
