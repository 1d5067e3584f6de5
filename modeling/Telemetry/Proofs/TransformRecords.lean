import Telemetry.Proofs.DraftCalls
import Telemetry.Proofs.IdleBaseline
import Telemetry.Proofs.InstrumentValues
import Telemetry.Proofs.LineRoundTrip

/-!
# What a record owes to the past

With no adapter but the one for relative counts, a record depends on earlier reports in two ways:
whether its instrument is idle, and how far a counter has moved.
-/

namespace Telemetry

lemma FieldValue.integer_token_inj {a b : Int64} (h : (integer a).token = (integer b).token) :
    a = b := by
  have hchars := congrArg String.toList h
  simp only [token, Text.intText, String.toList_append, String.toList_ofList,
    List.append_cancel_right_eq] at hchars
  have hread := congrArg Line.Reader.readInt? hchars
  rw [Line.Reader.readInt?_intDigits, Line.Reader.readInt?_intDigits, Option.some_inj] at hread
  exact Int64.toInt_inj.1 hread

namespace Draft

lemma toOption_build {d : Draft} (h : d.fields.entries ≠ []) :
    d.build.toOption =
      if d.name = "" then none else some ⟨d.name, d.tags, d.fields, d.timestamp⟩ := by
  have hne : d.fields.isEmpty = false := by
    rw [Dict.isEmpty, List.isEmpty_eq_false_iff]
    exact h
  unfold build
  by_cases hn : d.name = ""
  · simp [hn, Except.toOption]
  · simp [hn, hne, Except.toOption]

end Draft

lemma IdleTracker.still_iff {ctx : Context} {t : IdleTracker} {name : String} {i : Instrument} :
    ctx.still t name i = true ↔
      ctx.skipIdle = true ∧ ∃ k b, i.count? = some k ∧ t.previous name = some b ∧ k ≤ b := by
  rw [Context.still, Bool.and_eq_true]
  cases i.count? with
  | none => simp
  | some k => simp [idle_iff]

namespace Reading

variable {ctx : Context} {t : IdleTracker} {name : String} {now : UInt64} {timestamp : Int64}
  {i : Instrument}

lemma name_start : (ctx.start name timestamp).name = (ctx.naming.resolve name).1 := rfl

lemma fields_start : (ctx.start name timestamp).fields = .empty := rfl

end Reading

namespace Tracking

/-- There is no adapter or the one for relative counts. -/
def Simple (t : Tracking) : Prop :=
  t.adapters = [] ∨ ∃ previous, t.adapters = [.relativeCounts previous]

/-- The relative count that a counter gets. -/
def relative? (t : Tracking) (name : String) (count : Int64) : Option Int64 :=
  match t.adapters with
  | [.relativeCounts previous] => some (Adapter.movement ((previous.get? name).getD 0) count)
  | _ => none

variable {t u : Tracking} {name : String}

lemma adaptAll_counter (ht : t.Simple) (c : Counter) (d : Draft) :
    (Adapter.adaptAll name (.counter c) t.adapters d).1 =
      (t.relative? name c.count).elim d fun m =>
        (d.field "count" (.integer c.count)).field "relativeCount" (.integer m) := by
  rcases ht with h | ⟨previous, h⟩ <;> rw [relative?, h] <;> rfl

lemma adaptAll_of_not_counter (ht : t.Simple) {i : Instrument} (hi : ∀ c, i ≠ .counter c)
    (d : Draft) : Adapter.adaptAll name i t.adapters d = (d, t.adapters) := by
  rcases ht with h | ⟨previous, h⟩
  · rw [h]
    rfl
  · rw [h]
    cases i with
    | counter c => exact absurd rfl (hi c)
    | _ => rfl

lemma name_adaptAll (ht : t.Simple) (name : String) (i : Instrument) (d : Draft) :
    (Adapter.adaptAll name i t.adapters d).1.name = d.name := by
  by_cases hi : ∃ c, i = .counter c
  · obtain ⟨c, rfl⟩ := hi
    rw [adaptAll_counter ht]
    cases t.relative? name c.count with
    | none => rfl
    | some m => rw [Option.elim_some, Draft.name_field, Draft.name_field]
  · rw [adaptAll_of_not_counter ht fun c hc => hi ⟨c, hc⟩]

/-- The record comes out otherwise under the two trackings. -/
def Parts (ctx : Context) (name : String) (i : Instrument) (t u : Tracking) : Prop :=
  ctx.still t.idle name i ≠ ctx.still u.idle name i ∨
  ctx.still t.idle name i = false ∧
    ∃ c, i = .counter c ∧ t.relative? name c.count ≠ u.relative? name c.count

end Tracking

namespace Reading

variable (ctx : Context) (t : IdleTracker) (name : String) (now : UInt64) (timestamp : Int64)
  {i : Instrument}

lemma instrument_ne_counter (hi : ∀ c, i ≠ .counter c) (c : Counter) :
    (ofInstrument ctx t name now timestamp i).instrument ≠ .counter c := by
  intro h
  cases i with
  | counter b => exact hi b rfl
  | meter m =>
    simp only [ofInstrument, ofMeter] at h
    split at h <;> cases h
  | _ => cases h

lemma draft_timer (s : Timer) :
    ∃ d, (ofInstrument ctx t name now timestamp (.timer s)).draft = .ok (some d) ∧
      d.fields.contains "count" = !ctx.still t name (.timer s) := by
  cases hs : ctx.still t name (.timer s) with
  | false =>
    refine ⟨_, draft_of_moved now timestamp rfl hs, ?_⟩
    have hmem : ("count", FieldValue.ofUnsigned s.sample.size.toUInt64) ∈
        ctx.values now (.timer s) := List.mem_cons_self
    rw [Dict.contains, Draft.get?_fieldAll_of_mem (nodup_values _ _ _) hmem]
    rfl
  | true =>
    refine ⟨_, draft_of_idle_timer now timestamp hs, ?_⟩
    have hout : "count" ∉ (ctx.paceValues now s).map (·.1) :=
      not_mem_paceValues List.mem_cons_self ctx now s
    rw [Dict.contains, Draft.get?_fieldAll_of_not_mem hout, fields_start]
    rfl

end Reading

section Records

variable {ctx : Context} {t u : Tracking} {name : String} {now : UInt64} {timestamp : Int64}
  {i : Instrument}

lemma outcome_of_draft {d : Draft}
    (hd : (Reading.ofInstrument ctx t.idle name now timestamp i).draft = .ok (some d)) :
    (transform ctx t name now timestamp i).outcome =
      match (Adapter.adaptAll name (Reading.ofInstrument ctx t.idle name now timestamp i).instrument
        t.adapters d).1.build with
      | .error e => .error (.record e)
      | .ok r => .ok (some r) := by
  simp only [transform, hd]
  split <;> simp [*]

lemma record?_of_draft {d : Draft}
    (hd : (Reading.ofInstrument ctx t.idle name now timestamp i).draft = .ok (some d)) :
    (transform ctx t name now timestamp i).record? = (Adapter.adaptAll name
      (Reading.ofInstrument ctx t.idle name now timestamp i).instrument t.adapters d).1.build.toOption := by
  rw [Transformed.record?, outcome_of_draft hd]
  split <;> simp [*, Except.toOption]

lemma outcome_of_unnamed (ht : t.Simple) (hname : (ctx.naming.resolve name).1 = "") {d : Draft}
    (hd : (Reading.ofInstrument ctx t.idle name now timestamp i).draft = .ok (some d)) :
    (transform ctx t name now timestamp i).outcome = .error (.record .emptyName) := by
  have hn := (Reading.named_of_draft hd).1
  rw [hname, ← Tracking.name_adaptAll ht name
    (Reading.ofInstrument ctx t.idle name now timestamp i).instrument] at hn
  rw [outcome_of_draft hd, Draft.build, if_pos (by rw [hn]; rfl)]

lemma record?_of_no_draft
    (hd : (Reading.ofInstrument ctx t.idle name now timestamp i).draft = .ok none) :
    (transform ctx t name now timestamp i).record? = none := by
  simp only [transform, Transformed.record?, hd]
  rfl

lemma record?_of_failed_draft {e : TransformError}
    (hd : (Reading.ofInstrument ctx t.idle name now timestamp i).draft = .error e) :
    (transform ctx t name now timestamp i).record? = none := by
  simp only [transform, Transformed.record?, hd]
  rfl

lemma record?_of_unnamed (ht : t.Simple) (hname : (ctx.naming.resolve name).1 = "") :
    (transform ctx t name now timestamp i).record? = none := by
  cases hd : (Reading.ofInstrument ctx t.idle name now timestamp i).draft with
  | error e => exact record?_of_failed_draft hd
  | ok d =>
    cases d with
    | none => exact record?_of_no_draft hd
    | some d =>
      rw [Transformed.record?, outcome_of_unnamed ht hname hd]
      rfl

lemma record?_of_still (hi : ∀ s, i ≠ .timer s) (hs : ctx.still t.idle name i = true) :
    (transform ctx t name now timestamp i).record? = none :=
  record?_of_no_draft (Reading.draft_of_still _ _ hi hs)

lemma record?_plain (ht : t.Simple) (hi : ∀ c, i ≠ .counter c) {d : Draft}
    (hd : (Reading.ofInstrument ctx t.idle name now timestamp i).draft = .ok (some d)) :
    (transform ctx t name now timestamp i).record? = d.build.toOption := by
  rw [record?_of_draft hd,
    Tracking.adaptAll_of_not_counter ht (Reading.instrument_ne_counter _ _ _ _ _ hi)]

lemma record?_counter (ht : t.Simple) {c : Counter}
    (hs : ctx.still t.idle name (.counter c) = false) :
    (transform ctx t name now timestamp (.counter c)).record? =
      ((t.relative? name c.count).elim
        ((ctx.start name timestamp).field "count" (.integer c.count))
        fun m => ((((ctx.start name timestamp).field "count" (.integer c.count)).field
          "count" (.integer c.count)).field "relativeCount" (.integer m))).build.toOption := by
  rw [record?_of_draft (Reading.draft_of_moved now timestamp rfl hs)]
  exact congrArg (·.build.toOption) (Tracking.adaptAll_counter ht c _)

lemma record?_build {d : Draft} (hn : d.name ≠ "") (hf : d.fields.entries ≠ []) :
    d.build.toOption = some ⟨d.name, d.tags, d.fields, d.timestamp⟩ := by
  rw [Draft.toOption_build hf, if_neg hn]

variable (now timestamp)

lemma relativeCount_of_moved (ht : t.Simple) (hname : (ctx.naming.resolve name).1 ≠ "")
    {c : Counter} (hs : ctx.still t.idle name (.counter c) = false) :
    ∃ r, (transform ctx t name now timestamp (.counter c)).record? = some r ∧
      r.fields.get? "relativeCount" =
        (t.relative? name c.count).map fun m => (FieldValue.integer m).token := by
  have hfields (d : Draft) : (d.field "count" (.integer c.count)).fields.entries ≠ [] := by
    refine Dict.entries_ne_nil (k := "count") ?_
    rw [Dict.contains, Draft.get?_fields_field, if_pos ⟨rfl, rfl⟩]
    rfl
  rw [record?_counter ht hs]
  cases t.relative? name c.count with
  | none =>
    refine ⟨_, record?_build hname (hfields _), ?_⟩
    simp [Draft.get?_fields_field, Reading.fields_start]
  | some m =>
    refine ⟨_, record?_build ?_ ?_, ?_⟩
    · simpa [Reading.name_start] using hname
    · refine Dict.entries_ne_nil (k := "relativeCount") ?_
      rw [Option.elim_some, Dict.contains, Draft.get?_fields_field, if_pos ⟨rfl, rfl⟩]
      rfl
    · rw [Option.elim_some, Draft.get?_fields_field, if_pos ⟨rfl, rfl⟩]
      rfl

/-- With a name of its own an instrument that has moved gets a record. -/
lemma record?_of_moved (ht : t.Simple) (hname : (ctx.naming.resolve name).1 ≠ "") {k : Int64}
    (hk : i.count? = some k) (hs : ctx.still t.idle name i = false) :
    ∃ r, (transform ctx t name now timestamp i).record? = some r := by
  by_cases hi : ∃ c, i = .counter c
  · obtain ⟨c, rfl⟩ := hi
    obtain ⟨r, hr, _⟩ := relativeCount_of_moved now timestamp ht hname hs
    exact ⟨r, hr⟩
  · have hne : ∀ c, i ≠ .counter c := fun c hc => hi ⟨c, hc⟩
    have hd := Reading.draft_of_moved now timestamp hk hs
    obtain ⟨hn, hf⟩ := Reading.named_of_draft hd
    rw [record?_plain ht hne hd]
    exact ⟨_, record?_build (hn ▸ hname) hf⟩

lemma record?_timer (ht : t.Simple) (hname : (ctx.naming.resolve name).1 ≠ "") (s : Timer) :
    ∃ r, (transform ctx t name now timestamp (.timer s)).record? = some r ∧
      r.fields.contains "count" = !ctx.still t.idle name (.timer s) := by
  obtain ⟨d, hd, hcount⟩ := Reading.draft_timer ctx t.idle name now timestamp s
  obtain ⟨hn, hf⟩ := Reading.named_of_draft hd
  rw [record?_plain ht (by simp) hd]
  exact ⟨_, record?_build (hn ▸ hname) hf, hcount⟩

lemma record?_ne_of_still (ht : t.Simple) (hu : u.Simple)
    (hname : (ctx.naming.resolve name).1 ≠ "") (hts : ctx.still t.idle name i = true)
    (hus : ctx.still u.idle name i = false) :
    (transform ctx t name now timestamp i).record? ≠
      (transform ctx u name now timestamp i).record? := by
  obtain ⟨_, k, _, hk, _⟩ := IdleTracker.still_iff.1 hts
  by_cases hi : ∃ s, i = .timer s
  · obtain ⟨s, rfl⟩ := hi
    obtain ⟨r, hr, hrc⟩ := record?_timer now timestamp ht hname s
    obtain ⟨q, hq, hqc⟩ := record?_timer now timestamp hu hname s
    rw [hr, hq]
    intro heq
    rw [Option.some.inj heq, hqc, hts, hus] at hrc
    cases hrc
  · obtain ⟨r, hr⟩ := record?_of_moved now timestamp hu hname hk hus
    rw [record?_of_still (fun s hs => hi ⟨s, hs⟩) hts, hr]
    nofun

/-- Under which two pasts the records are the same. -/
theorem record?_eq_iff (ht : t.Simple) (hu : u.Simple)
    (hname : (ctx.naming.resolve name).1 ≠ "") :
    (transform ctx t name now timestamp i).record? =
      (transform ctx u name now timestamp i).record? ↔ ¬t.Parts ctx name i u := by
  by_cases hs : ctx.still t.idle name i = ctx.still u.idle name i
  · obtain ⟨hdraft, hinstrument⟩ := Reading.ofInstrument_congr ctx t.idle u.idle name now timestamp i hs
    by_cases hi : ∃ c, i = .counter c
    · obtain ⟨c, rfl⟩ := hi
      cases hts : ctx.still t.idle name (.counter c) with
      | true =>
        have hus := hs ▸ hts
        rw [record?_of_still (by simp) hts, record?_of_still (by simp) hus]
        simp [Tracking.Parts, hts, hus]
      | false =>
        have hus := hs ▸ hts
        have hparts : t.Parts ctx name (.counter c) u ↔
            t.relative? name c.count ≠ u.relative? name c.count := by
          simp [Tracking.Parts, hts, hus]
        rw [hparts, not_not]
        constructor
        · intro heq
          obtain ⟨r, hr, hrm⟩ :=
            relativeCount_of_moved now timestamp ht hname hts
          obtain ⟨q, hq, hqm⟩ :=
            relativeCount_of_moved now timestamp hu hname hus
          rw [hr, hq] at heq
          rw [Option.some.inj heq, hqm] at hrm
          exact (Option.map_injective (fun _ _ => FieldValue.integer_token_inj) hrm).symm
        · intro heq
          rw [record?_counter ht hts, record?_counter hu hus, heq]
    · have hne : ∀ c, i ≠ .counter c := fun c hc => hi ⟨c, hc⟩
      have hparts : ¬t.Parts ctx name i u := by
        rintro (h | ⟨_, c, hc, _⟩)
        · exact h hs
        · exact hi ⟨c, hc⟩
      refine ⟨fun _ => hparts, fun _ => ?_⟩
      cases hd : (Reading.ofInstrument ctx t.idle name now timestamp i).draft with
      | error e => rw [record?_of_failed_draft hd, record?_of_failed_draft (hdraft ▸ hd)]
      | ok d =>
        cases d with
        | none => rw [record?_of_no_draft hd, record?_of_no_draft (hdraft ▸ hd)]
        | some d => rw [record?_plain ht hne hd, record?_plain hu hne (hdraft ▸ hd)]
  · refine ⟨fun heq => ?_, fun h => absurd (.inl hs) h⟩
    cases hts : ctx.still t.idle name i with
    | true =>
      have hus : ctx.still u.idle name i = false := by simpa [hts] using hs
      exact absurd heq (record?_ne_of_still now timestamp ht hu hname hts hus)
    | false =>
      have hus : ctx.still u.idle name i = true := by simpa [hts] using hs
      exact absurd heq.symm (record?_ne_of_still now timestamp hu ht hname hus hts)

lemma record?_eq_iff_of_agree {v : Tracking} (hu : u.Simple) (hv : v.Simple)
    (h : t.AgreeAt name u) :
    (transform ctx t name now timestamp i).record? =
      (transform ctx v name now timestamp i).record? ↔
      (ctx.naming.resolve name).1 = "" ∨ ¬u.Parts ctx name i v := by
  have hrecord : (transform ctx t name now timestamp i).record? =
      (transform ctx u name now timestamp i).record? :=
    congrArg (·.toOption.join) (transform_congr ctx now timestamp i h).1
  rw [hrecord]
  by_cases hname : (ctx.naming.resolve name).1 = ""
  · rw [record?_of_unnamed hu hname, record?_of_unnamed hv hname]
    exact ⟨fun _ => .inl hname, fun _ => rfl⟩
  · rw [record?_eq_iff now timestamp hu hv hname]
    exact ⟨.inr, fun hor => hor.resolve_left hname⟩

end Records

end Telemetry
