import Telemetry.Proofs.TransformRecords

/-!
# What a transform remembers

The count of an instrument that has moved becomes its baseline, and the one for the next relative
count if it is a counter.
-/

namespace Telemetry

lemma Adapter.movement_zero (k : Int64) : movement 0 k = k := by
  have hmin : Int64.minValue.toInt ≤ k.toInt := Int64.minValue_le_toInt k
  have hmax : k.toInt ≤ Int64.maxValue.toInt := Int64.toInt_le k
  apply Int64.toInt_inj.1
  rw [movement, Number.toInt_clamp]
  have hzero : (0 : Int64).toInt = 0 := rfl
  omega

section Transform

variable {ctx : Context} {t u : Tracking} {name : String} (now : UInt64) (timestamp : Int64)
  {i : Instrument}

lemma idle_transform :
    (transform ctx t name now timestamp i).tracking.idle = ctx.look t.idle name i := by
  rw [← Reading.idle_ofInstrument ctx t.idle name now timestamp i]
  unfold transform
  dsimp only
  split
  · rfl
  · rfl
  · split <;> rfl

lemma instrument_transform :
    (transform ctx t name now timestamp i).instrument =
      (Reading.ofInstrument ctx t.idle name now timestamp i).instrument := by
  unfold transform
  dsimp only
  split
  · rfl
  · rfl
  · split <;> rfl

/-- Reading an instrument leaves its count alone. -/
lemma count?_transform :
    (transform ctx t name now timestamp i).instrument.count? = i.count? := by
  have hcatch (m : Meter) : (m.catchUp now).count = m.count := by
    unfold Meter.catchUp
    dsimp only
    split <;> rfl
  rw [instrument_transform]
  cases i with
  | counter c => rfl
  | gauge g => rfl
  | histogram s => rfl
  | meter m =>
    simp only [Reading.ofInstrument, Reading.ofMeter]
    split
    · rfl
    · exact congrArg (some <| Number.clampCount ·) (hcatch m)
  | timer s => exact congrArg (some <| Number.clampCount ·) (hcatch s.meter)

lemma kind_transform : (transform ctx t name now timestamp i).instrument.kind = i.kind := by
  rw [instrument_transform]
  cases i with
  | meter m =>
    simp only [Reading.ofInstrument, Reading.ofMeter]
    split <;> rfl
  | _ => rfl

lemma adapters_transform_nil (h : t.adapters = []) :
    (transform ctx t name now timestamp i).tracking.adapters = [] := by
  unfold transform
  dsimp only
  split
  · exact h
  · exact h
  · rw [h]
    split <;> rfl

lemma length_adaptAll (name : String) (i : Instrument) (as : List Adapter) (d : Draft) :
    (Adapter.adaptAll name i as d).2.length = as.length := by
  induction as generalizing d with
  | nil => rfl
  | cons a as ih =>
    rw [Adapter.adaptAll, List.length_cons, List.length_cons, ih]

lemma length_adapters_transform :
    (transform ctx t name now timestamp i).tracking.adapters.length = t.adapters.length := by
  unfold transform
  dsimp only
  split
  · rfl
  · rfl
  · split <;> exact length_adaptAll _ _ _ _

lemma adapters_transform_of_draft {d : Draft}
    (hd : (Reading.ofInstrument ctx t.idle name now timestamp i).draft = .ok (some d)) :
    (transform ctx t name now timestamp i).tracking.adapters = (Adapter.adaptAll name
      (Reading.ofInstrument ctx t.idle name now timestamp i).instrument t.adapters d).2 := by
  simp only [transform, hd]
  split <;> rfl

lemma adapters_transform_counter {c : Counter} {previous : Dict Int64}
    (h : t.adapters = [.relativeCounts previous])
    (hs : ctx.still t.idle name (.counter c) = false) :
    (transform ctx t name now timestamp (.counter c)).tracking.adapters =
      [.relativeCounts (previous.insert name c.count)] := by
  rw [adapters_transform_of_draft now timestamp (Reading.draft_of_moved now timestamp rfl hs), h]
  rfl

lemma Adapter.adapters_adaptAll_same (hi : ∀ c, i ≠ .counter c) (as : List Adapter) (d : Draft) :
    (adaptAll name i as d).2 = as := by
  induction as generalizing d with
  | nil => rfl
  | cons a as ih =>
    have hsame : (a.adapt name i d).2 = a := by
      cases a with
      | custom adapt => rfl
      | relativeCounts previous =>
        cases i with
        | counter c => exact absurd rfl (hi c)
        | _ => rfl
    exact congrArg₂ List.cons hsame (ih _)

/-- Only a counter that has moved is noted by an adapter. -/
lemma adapters_transform_same
    (hi : (∀ c, i ≠ .counter c) ∨ ctx.still t.idle name i = true) :
    (transform ctx t name now timestamp i).tracking.adapters = t.adapters := by
  by_cases hc : ∃ c, i = .counter c
  · obtain ⟨c, rfl⟩ := hc
    have hs := hi.resolve_left fun h => h c rfl
    simp only [transform, Reading.draft_of_still now timestamp (by simp) hs]
  · have hne := Reading.instrument_ne_counter ctx t.idle name now timestamp fun c h => hc ⟨c, h⟩
    unfold transform
    dsimp only
    split
    · rfl
    · rfl
    · split <;> exact Adapter.adapters_adaptAll_same hne _ _

namespace Tracking

lemma Simple.transform (ht : t.Simple) :
    (transform ctx t name now timestamp i).tracking.Simple := by
  rcases ht with h | ⟨previous, h⟩
  · exact .inl (adapters_transform_nil now timestamp h)
  · by_cases hi : (∀ c, i ≠ .counter c) ∨ ctx.still t.idle name i = true
    · exact .inr ⟨previous, (adapters_transform_same now timestamp hi).trans h⟩
    · rw [not_or, not_forall] at hi
      obtain ⟨⟨c, hc⟩, hs⟩ := hi
      obtain rfl := not_not.1 hc
      exact .inr ⟨_, adapters_transform_counter now timestamp h (by simpa using hs)⟩

lemma AgreeAt.adapters_eq (h : t.AgreeAt name u) {q : Dict Int64}
    (hu : u.adapters = [.relativeCounts q]) :
    ∃ p, t.adapters = [.relativeCounts p] ∧ p.get? name = q.get? name := by
  have hadapters := h.adapters
  rw [hu, List.forall₂_cons_right_iff] at hadapters
  obtain ⟨a, as, ha, has, ht⟩ := hadapters
  rw [List.forall₂_nil_right_iff] at has
  rw [has] at ht
  cases ha with
  | relativeCounts hp => exact ⟨_, ht, hp⟩

lemma AgreeAt.adapters_nil (h : t.AgreeAt name u) (hu : u.adapters = []) : t.adapters = [] := by
  have hadapters := h.adapters
  rwa [hu, List.forall₂_nil_right_iff] at hadapters

lemma AgreeAt.simple (h : t.AgreeAt name u) (hu : u.Simple) : t.Simple := by
  rcases hu with hu | ⟨q, hu⟩
  · exact .inl (h.adapters_nil hu)
  · obtain ⟨p, hp, _⟩ := h.adapters_eq hu
    exact .inr ⟨p, hp⟩

lemma relative?_nil (h : t.adapters = []) (k : Int64) : t.relative? name k = none := by
  rw [relative?, h]

lemma relative?_single {p : Dict Int64} (h : t.adapters = [.relativeCounts p]) (k : Int64) :
    t.relative? name k = some (Adapter.movement ((p.get? name).getD 0) k) := by
  rw [relative?, h]

lemma relative?_transform_counter {c : Counter} (ht : t.Simple)
    (hs : ctx.still t.idle name (.counter c) = false) (k : Int64) :
    (Telemetry.transform ctx t name now timestamp (.counter c)).tracking.relative? name k =
      (t.relative? name k).map fun _ => Adapter.movement c.count k := by
  rcases ht with h | ⟨p, h⟩
  · rw [relative?_nil h, relative?_nil (adapters_transform_nil now timestamp h), Option.map_none]
  · rw [relative?_single h, relative?_single (adapters_transform_counter now timestamp h hs),
      Dict.get?_insert,
      if_pos rfl, Option.getD_some, Option.map_some]

lemma relative?_transform_same
    (hi : (∀ c, i ≠ .counter c) ∨ ctx.still t.idle name i = true) (k : Int64) :
    (Telemetry.transform ctx t name now timestamp i).tracking.relative? name k =
      t.relative? name k := by
  rw [relative?, relative?, adapters_transform_same now timestamp hi]

lemma blank_adapters_single (name : String) {p : Dict Int64}
    (h : t.adapters = [.relativeCounts p]) :
    ∃ q, t.blank.adapters = [.relativeCounts q] ∧ q.get? name = none := by
  refine ⟨p.filter fun _ _ => false, by rw [blank, retain, h]; rfl, ?_⟩
  rw [Dict.get?_filter p fun _ => false]
  rfl

lemma blank_adapters_nil (h : t.adapters = []) : t.blank.adapters = [] := by
  rw [blank, retain, h]
  rfl

lemma Simple.blank (ht : t.Simple) : t.blank.Simple := by
  rcases ht with h | ⟨p, h⟩
  · exact .inl (blank_adapters_nil h)
  · obtain ⟨q, hq, _⟩ := blank_adapters_single "" h
    exact .inr ⟨q, hq⟩

lemma previous_blank : t.blank.idle.previous name = none := by
  rw [Tracking.blank, retain, IdleTracker.previous_retain]
  rfl

lemma still_blank : ctx.still t.blank.idle name i = false := by
  rw [← Bool.not_eq_true, IdleTracker.still_iff]
  rintro ⟨_, _, _, _, hb, _⟩
  rw [previous_blank] at hb
  cases hb

/-- When the record is not that of a first observation. -/
lemma blank_parts_iff (ht : t.Simple) :
    t.blank.Parts ctx name i t ↔
      ctx.still t.idle name i = true ∨ ∃ b previous, i = .counter b ∧
        t.adapters = [.relativeCounts previous] ∧
        Adapter.movement ((previous.get? name).getD 0) b.count ≠ b.count := by
  rw [Parts, still_blank]
  refine or_congr (by cases ctx.still t.idle name i <;> decide) ?_
  constructor
  · rintro ⟨_, b, rfl, hne⟩
    rcases ht with h | ⟨previous, h⟩
    · rw [relative?_nil h, relative?_nil (blank_adapters_nil h)] at hne
      exact absurd rfl hne
    · obtain ⟨q, hq, hnone⟩ := blank_adapters_single name h
      rw [relative?_single h, relative?_single hq, hnone, Option.getD_none,
        Adapter.movement_zero, ne_eq, Option.some_inj, eq_comm] at hne
      exact ⟨b, previous, rfl, h, hne⟩
  · rintro ⟨b, previous, rfl, h, hne⟩
    obtain ⟨q, hq, hnone⟩ := blank_adapters_single name h
    refine ⟨rfl, b, rfl, ?_⟩
    rw [relative?_single h, relative?_single hq, hnone, Option.getD_none,
      Adapter.movement_zero, ne_eq, Option.some_inj, eq_comm]
    exact hne

end Tracking

end Transform

end Telemetry
