import Mathlib.Data.List.Forall2
import Mathlib.Tactic.Common
import Telemetry.Transform

/-!
# Transforms go name by name

What a transform yields for a name depends on what is remembered of that name alone, and that is all
it changes. So transforms of different names do not influence each other.
-/

namespace Telemetry

def Transformed.record? (t : Transformed) : Option Record := t.outcome.toOption.join

namespace Context

/-- The instrument is taken for idle. -/
def still (ctx : Context) (t : IdleTracker) (name : String) (i : Instrument) : Bool :=
  ctx.skipIdle && i.count?.any (t.idle name)

/-- The tracker after the instrument was looked at. -/
def look (ctx : Context) (t : IdleTracker) (name : String) (i : Instrument) : IdleTracker :=
  if ctx.skipIdle then i.count?.elim t (t.observe name) else t

end Context

lemma IdleTracker.idle_congr {t u : IdleTracker} {name : String}
    (h : t.previous name = u.previous name) (count : Int64) :
    t.idle name count = u.idle name count := by
  rw [idle, idle, delta, delta, h]

lemma IdleTracker.regression_congr {t u : IdleTracker} {name : String}
    (h : t.previous name = u.previous name) (count : Int64) :
    t.regression name count = u.regression name count := by
  rw [regression, regression, h]

namespace Context

variable {ctx : Context} {t u : IdleTracker} {name other : String} {i : Instrument}

lemma still_congr (h : t.previous name = u.previous name) :
    ctx.still t name i = ctx.still u name i := by
  unfold still
  cases i.count? with
  | none => rfl
  | some k => rw [Option.any_some, Option.any_some, IdleTracker.idle_congr h]

lemma previous_look_congr (h : t.previous name = u.previous name) :
    (ctx.look t name i).previous name = (ctx.look u name i).previous name := by
  unfold look
  split
  · cases i.count? with
    | none => exact h
    | some k =>
      rw [Option.elim_some, Option.elim_some, IdleTracker.previous_observe,
        IdleTracker.previous_observe, IdleTracker.idle_congr h, h]
  · exact h

lemma previous_look_other (h : other ≠ name) :
    (ctx.look t name i).previous other = t.previous other := by
  unfold look
  split
  · cases i.count? with
    | none => rfl
    | some k =>
      rw [Option.elim_some, IdleTracker.previous_observe, if_neg]
      rintro ⟨rfl, _⟩
      exact h rfl
  · rfl

end Context

namespace Reading

variable (ctx : Context) (t u : IdleTracker) (name : String) (now : UInt64) (timestamp : Int64)
  (i : Instrument)

lemma idle_ofInstrument :
    (ofInstrument ctx t name now timestamp i).idle = ctx.look t name i := by
  cases i with
  | counter c =>
    simp only [ofInstrument, ofCounter, Context.checkIdle, Context.look, Instrument.count?]
    split <;> rfl
  | gauge g =>
    simp only [ofInstrument, ofGauge, Context.look, Instrument.count?, Option.elim_none, ite_self]
  | histogram h =>
    simp only [ofInstrument, ofHistogram, Context.checkIdle, Context.look, Instrument.count?]
    split <;> rfl
  | meter m =>
    simp only [ofInstrument, ofMeter, Context.checkIdle, Context.look, Instrument.count?]
    split <;> split <;> rfl
  | timer s =>
    simp only [ofInstrument, ofTimer, Context.checkIdle, Context.look, Instrument.count?]
    split <;> rfl

/-- The tracker matters to a reading through one answer. -/
lemma ofInstrument_congr (h : ctx.still t name i = ctx.still u name i) :
    (ofInstrument ctx t name now timestamp i).draft =
        (ofInstrument ctx u name now timestamp i).draft ∧
      (ofInstrument ctx t name now timestamp i).instrument =
        (ofInstrument ctx u name now timestamp i).instrument := by
  have hstill : ∀ k, i.count? = some k →
      (ctx.checkIdle t name k).1 = (ctx.checkIdle u name k).1 := by
    intro k hk
    unfold Context.checkIdle
    simp only [Context.still, hk, Option.any_some] at h
    cases hs : ctx.skipIdle with
    | false => rfl
    | true => simpa [hs] using h
  cases i with
  | counter c => simp [ofInstrument, ofCounter, hstill c.count rfl]
  | gauge g => exact ⟨rfl, rfl⟩
  | histogram s => simp [ofInstrument, ofHistogram, hstill _ rfl]
  | meter m =>
    simp only [ofInstrument, ofMeter, hstill _ rfl]
    split <;> exact ⟨rfl, rfl⟩
  | timer s => simp [ofInstrument, ofTimer, hstill _ rfl]

lemma warnings_ofInstrument_congr (h : t.previous name = u.previous name) :
    (ofInstrument ctx t name now timestamp i).warnings =
      (ofInstrument ctx u name now timestamp i).warnings := by
  have hcheck (k : Int64) : (ctx.checkIdle t name k).2.2 = (ctx.checkIdle u name k).2.2 := by
    unfold Context.checkIdle
    split
    · exact IdleTracker.regression_congr h k
    · rfl
  have hstill (k : Int64) : (ctx.checkIdle t name k).1 = (ctx.checkIdle u name k).1 := by
    unfold Context.checkIdle
    split
    · exact IdleTracker.idle_congr h k
    · rfl
  cases i with
  | counter c => exact hcheck _
  | gauge g => rfl
  | histogram s => exact hcheck _
  | meter m =>
    simp only [ofInstrument, ofMeter, hstill]
    split <;> exact hcheck _
  | timer s => exact hcheck _

end Reading

namespace Adapter

/-- The same adapter but for what is kept for other names. -/
inductive AgreeAt (name : String) : Adapter → Adapter → Prop where
  | relativeCounts {p q : Dict Int64} (h : p.get? name = q.get? name) :
    AgreeAt name (.relativeCounts p) (.relativeCounts q)
  | custom (adapt : String → Instrument → Draft → Draft) :
    AgreeAt name (.custom adapt) (.custom adapt)

variable {name other : String} {a b c : Adapter} {as bs : List Adapter} (i : Instrument)
  (d : Draft)

lemma AgreeAt.refl (name : String) (a : Adapter) : AgreeAt name a a := by
  cases a with
  | relativeCounts p => exact .relativeCounts rfl
  | custom adapt => exact .custom adapt

lemma AgreeAt.symm (h : AgreeAt name a b) : AgreeAt name b a := by
  cases h with
  | relativeCounts h => exact .relativeCounts h.symm
  | custom adapt => exact .custom adapt

lemma AgreeAt.trans (hab : AgreeAt name a b) (hbc : AgreeAt name b c) : AgreeAt name a c := by
  cases hab with
  | relativeCounts h =>
    cases hbc with
    | relativeCounts h' => exact .relativeCounts (h.trans h')
  | custom adapt => exact hbc

lemma forall₂_trans {cs : List Adapter} (hab : List.Forall₂ (AgreeAt name) as bs)
    (hbc : List.Forall₂ (AgreeAt name) bs cs) : List.Forall₂ (AgreeAt name) as cs := by
  induction hab generalizing cs with
  | nil => exact hbc
  | cons h _ ih =>
    cases hbc with
    | cons h' hrest => exact .cons (h.trans h') (ih hrest)

lemma adapt_congr (h : AgreeAt name a b) :
    (a.adapt name i d).1 = (b.adapt name i d).1 ∧
      AgreeAt name (a.adapt name i d).2 (b.adapt name i d).2 := by
  cases h with
  | custom adapt => exact ⟨rfl, .custom adapt⟩
  | relativeCounts h =>
    cases i with
    | counter c =>
      simp only [adapt, h, true_and]
      exact .relativeCounts (by simp)
    | _ => exact ⟨rfl, .relativeCounts h⟩

lemma adapt_other (h : other ≠ name) : AgreeAt other (a.adapt name i d).2 a := by
  cases a with
  | custom adapt => exact .custom adapt
  | relativeCounts p =>
    cases i with
    | counter c => exact .relativeCounts (by simp [h.symm])
    | _ => exact .relativeCounts rfl

lemma adaptAll_congr (h : List.Forall₂ (AgreeAt name) as bs) :
    (adaptAll name i as d).1 = (adaptAll name i bs d).1 ∧
      List.Forall₂ (AgreeAt name) (adaptAll name i as d).2 (adaptAll name i bs d).2 := by
  induction h generalizing d with
  | nil => exact ⟨rfl, .nil⟩
  | cons hab _ ih =>
    obtain ⟨hd, ha⟩ := adapt_congr i d hab
    obtain ⟨hds, has⟩ := ih (adapt _ name i d).1
    simp only [adaptAll]
    rw [← hd]
    exact ⟨hds, .cons ha has⟩

lemma adaptAll_other (h : other ≠ name) :
    List.Forall₂ (AgreeAt other) (adaptAll name i as d).2 as := by
  induction as generalizing d with
  | nil => exact .nil
  | cons a as ih => exact .cons (adapt_other i d h) (ih _)

lemma retain_live {live : String → Bool} (h : live name = true) :
    AgreeAt name (a.retain live) a := by
  cases a with
  | custom adapt => exact .custom adapt
  | relativeCounts p => exact .relativeCounts (by rw [Dict.get?_filter, if_pos h])

lemma retain_gone {live : String → Bool} (h : live name = false) :
    AgreeAt name (a.retain live) (a.retain fun _ => false) := by
  cases a with
  | custom adapt => exact .custom adapt
  | relativeCounts p =>
    refine .relativeCounts ?_
    rw [Dict.get?_filter, Dict.get?_filter p fun _ => false, h]

lemma retain_congr {live : String → Bool} (h : AgreeAt name a b) :
    AgreeAt name (a.retain live) (b.retain live) := by
  cases h with
  | custom adapt => exact .custom adapt
  | relativeCounts h => exact .relativeCounts (by rw [Dict.get?_filter, Dict.get?_filter, h])

end Adapter

namespace Tracking

/-- The same is remembered of the name. -/
structure AgreeAt (name : String) (t u : Tracking) : Prop where
  idle : t.idle.previous name = u.idle.previous name
  adapters : List.Forall₂ (Adapter.AgreeAt name) t.adapters u.adapters

/-- Nothing is remembered of any name. -/
def blank (t : Tracking) : Tracking := t.retain fun _ => false

variable {name other : String} {t u v : Tracking}

lemma AgreeAt.refl (name : String) (t : Tracking) : t.AgreeAt name t :=
  ⟨rfl, List.forall₂_same.2 fun a _ => .refl name a⟩

lemma AgreeAt.symm (h : t.AgreeAt name u) : u.AgreeAt name t :=
  ⟨h.idle.symm, (h.adapters.imp fun _ _ hab => hab.symm).flip⟩

lemma AgreeAt.trans (htu : t.AgreeAt name u) (huv : u.AgreeAt name v) : t.AgreeAt name v :=
  ⟨htu.idle.trans huv.idle, Adapter.forall₂_trans htu.adapters huv.adapters⟩

lemma retain_live {live : String → Bool} (h : live name = true) :
    (t.retain live).AgreeAt name t := by
  refine ⟨?_, ?_⟩
  · rw [retain, IdleTracker.previous_retain, if_pos h]
  · rw [retain, List.forall₂_map_left_iff]
    exact List.forall₂_same.2 fun _ _ => Adapter.retain_live h

lemma retain_gone {live : String → Bool} (h : live name = false) :
    (t.retain live).AgreeAt name t.blank := by
  refine ⟨?_, ?_⟩
  · simp [retain, blank, h]
  · rw [retain, blank, retain, List.forall₂_map_left_iff, List.forall₂_map_right_iff]
    exact List.forall₂_same.2 fun _ _ => Adapter.retain_gone h

lemma blank_congr (h : t.AgreeAt name u) : t.blank.AgreeAt name u.blank := by
  refine ⟨?_, ?_⟩
  · simp [blank, retain]
  · rw [blank, retain, blank, retain, List.forall₂_map_left_iff, List.forall₂_map_right_iff]
    exact h.adapters.imp fun _ _ hab => Adapter.retain_congr hab

end Tracking

section Transform

variable {name other : String} {t u : Tracking} (ctx : Context) (now : UInt64)
  (timestamp : Int64) (i : Instrument)

/-- What is remembered of other names does not matter. -/
theorem transform_congr (h : t.AgreeAt name u) :
    (transform ctx t name now timestamp i).outcome =
        (transform ctx u name now timestamp i).outcome ∧
      (transform ctx t name now timestamp i).instrument =
        (transform ctx u name now timestamp i).instrument ∧
      (transform ctx t name now timestamp i).warnings =
        (transform ctx u name now timestamp i).warnings ∧
      (transform ctx t name now timestamp i).tracking.AgreeAt name
        (transform ctx u name now timestamp i).tracking := by
  obtain ⟨hdraft, hinstrument⟩ := Reading.ofInstrument_congr ctx t.idle u.idle name now timestamp i
    (Context.still_congr h.idle)
  have hwarnings := Reading.warnings_ofInstrument_congr ctx t.idle u.idle name now timestamp i h.idle
  have hidle : (Reading.ofInstrument ctx t.idle name now timestamp i).idle.previous name =
      (Reading.ofInstrument ctx u.idle name now timestamp i).idle.previous name := by
    rw [Reading.idle_ofInstrument, Reading.idle_ofInstrument]
    exact Context.previous_look_congr h.idle
  simp only [transform, ← hdraft, ← hinstrument]
  cases (Reading.ofInstrument ctx t.idle name now timestamp i).draft with
  | error e => exact ⟨rfl, rfl, hwarnings, hidle, h.adapters⟩
  | ok d =>
    cases d with
    | none => exact ⟨rfl, rfl, hwarnings, hidle, h.adapters⟩
    | some d =>
      obtain ⟨hd, has⟩ := Adapter.adaptAll_congr
        (Reading.ofInstrument ctx t.idle name now timestamp i).instrument d h.adapters
      simp only [← hd]
      split <;> exact ⟨rfl, rfl, hwarnings, hidle, has⟩

/-- What is remembered of other names stays. -/
theorem transform_other (h : other ≠ name) :
    (transform ctx t name now timestamp i).tracking.AgreeAt other t := by
  have hidle : (Reading.ofInstrument ctx t.idle name now timestamp i).idle.previous other =
      t.idle.previous other := by
    rw [Reading.idle_ofInstrument]
    exact Context.previous_look_other h
  have hsame : List.Forall₂ (Adapter.AgreeAt other) t.adapters t.adapters :=
    (Tracking.AgreeAt.refl other t).adapters
  unfold transform
  dsimp only
  split
  · exact ⟨hidle, hsame⟩
  · exact ⟨hidle, hsame⟩
  · split <;> exact ⟨hidle, Adapter.adaptAll_other _ _ h⟩

end Transform

end Telemetry
