import Mathlib.Data.List.Perm.Subperm
import Telemetry.Proofs.IdleRuns

/-!
# What is remembered of live names

A report forgets every name that it does not find, even when it is given up. Of a name that it finds
it keeps the baselines, except those that its own transform of the name replaces.
-/

namespace Telemetry

namespace Dict

variable {α : Type} {d : Dict α} {names : List String}

lemma size_le (h : d.keys ⊆ names) : d.size ≤ names.length := by
  have hlength := (List.subperm_of_subset d.nodup_keys h).length_le
  simpa [keys, size] using hlength

lemma keys_filter_subset (d : Dict α) (names : List String) :
    (d.filter fun k _ => names.contains k).keys ⊆ names := by
  intro k hk
  obtain ⟨v, hv⟩ := mem_keys_iff.1 hk
  by_contra hout
  rw [get?_filter d names.contains, if_neg (by simpa using hout)] at hv
  cases hv

end Dict

/-- The counts that an adapter keeps. -/
def Adapter.counts? : Adapter → Option (Dict Int64)
  | relativeCounts previous => some previous
  | custom _ => none

namespace Tracking

variable {t u : Tracking} {name : String} {names : List String}

/-- The counts that the adapters keep. -/
def counts (t : Tracking) : List (Dict Int64) := t.adapters.filterMap Adapter.counts?

/-- Nothing is remembered of other names. -/
structure Within (t : Tracking) (names : List String) : Prop where
  idle : t.idle.baselines.keys ⊆ names
  counts : ∀ p ∈ t.counts, p.keys ⊆ names

lemma Within.size_le (h : t.Within names) :
    t.idle.size ≤ names.length ∧ ∀ p ∈ t.counts, p.size ≤ names.length :=
  ⟨Dict.size_le h.idle, fun p hp => Dict.size_le (h.counts p hp)⟩

lemma within_retain (t : Tracking) (names : List String) :
    (t.retain (names.contains ·)).Within names := by
  refine ⟨Dict.keys_filter_subset _ names, fun p hp => ?_⟩
  rw [counts, retain, List.filterMap_map] at hp
  obtain ⟨a, _, ha⟩ := List.mem_filterMap.1 hp
  cases a with
  | custom adapt => cases ha
  | relativeCounts previous =>
    cases ha
    exact Dict.keys_filter_subset previous names

lemma AgreeAt.counts (h : t.AgreeAt name u) :
    t.counts.map (·.get? name) = u.counts.map (·.get? name) := by
  have hadapters := h.adapters
  unfold Tracking.counts
  generalize t.adapters = as, u.adapters = bs at hadapters
  induction hadapters with
  | nil => rfl
  | cons hab _ ih =>
    cases hab with
    | custom adapt => exact ih
    | relativeCounts hget => exact congrArg₂ List.cons hget ih

end Tracking

namespace Context

/-- The count that becomes the baseline of idleness when a report comes to the instrument. -/
def rise? (ctx : Context) (t : IdleTracker) (name : String) (i : Instrument) : Option Int64 :=
  if ctx.skipIdle && !ctx.still t name i then i.count? else none

/-- The count from which the next relative count is measured when a report comes to the
instrument. -/
def noted? (ctx : Context) (t : IdleTracker) (name : String) : Instrument → Option Int64
  | .counter c => if ctx.still t name (.counter c) then none else some c.count
  | _ => none

variable {ctx : Context} {t : IdleTracker} {name : String} {i : Instrument}

lemma previous_look :
    (ctx.look t name i).previous name = (ctx.rise? t name i).or (t.previous name) := by
  cases hskip : ctx.skipIdle with
  | false => simp [look, rise?, hskip]
  | true =>
    cases hk : i.count? with
    | none => simp [look, rise?, hk]
    | some k =>
      rw [look, if_pos hskip, hk, Option.elim_some, IdleTracker.previous_observe]
      cases hidle : t.idle name k <;> simp [rise?, still, hskip, hk, hidle]

end Context

section Transform

variable {ctx : Context} {t : Tracking} {name : String} (now : UInt64) (timestamp : Int64)
  {i : Instrument}

lemma Adapter.counts_adaptAll_counter (name : String) (c : Counter) (as : List Adapter) (d : Draft) :
    (adaptAll name (.counter c) as d).2.filterMap counts? =
      (as.filterMap counts?).map (·.insert name c.count) := by
  induction as generalizing d with
  | nil => rfl
  | cons a as ih =>
    cases a with
    | custom adapt => exact ih _
    | relativeCounts previous => exact congrArg (previous.insert name c.count :: ·) (ih _)

lemma counts_transform :
    (transform ctx t name now timestamp i).tracking.counts.map (·.get? name) =
      t.counts.map fun p => (ctx.noted? t.idle name i).or (p.get? name) := by
  by_cases hi : (∀ c, i ≠ .counter c) ∨ ctx.still t.idle name i = true
  · have hnone : ctx.noted? t.idle name i = none := by
      cases i with
      | counter c => exact if_pos (hi.resolve_left fun h => h c rfl)
      | _ => rfl
    rw [Tracking.counts, adapters_transform_same now timestamp hi, hnone]
    rfl
  · rw [not_or, not_forall] at hi
    obtain ⟨⟨c, hc⟩, hs⟩ := hi
    obtain rfl := not_not.1 hc
    have hdraft := Reading.draft_of_moved now timestamp rfl (Bool.not_eq_true _ ▸ hs)
    have hinsert (p : Dict Int64) :
        (p.insert name c.count).get? name = (some c.count).or (p.get? name) := by
      rw [Dict.get?_insert, if_pos rfl, Option.some_or]
    rw [Tracking.counts, adapters_transform_of_draft now timestamp hdraft, Context.noted?, if_neg hs]
    refine (congrArg (List.map (·.get? name)) (Adapter.counts_adaptAll_counter name c _ _)).trans ?_
    rw [List.map_map]
    exact List.map_congr_left fun p _ => hinsert p

end Transform

namespace CycleRun

variable {σ : Type} {m : CycleRun σ} {timestamp : Int64} {names : List String}

/-- What a report leaves of what was remembered before. -/
structure Prunes (m : CycleRun σ) (timestamp : Int64) (before after : Tracking) : Prop where
  live : ∀ name, name ∈ m.live ↔
    (m.registry.entries.get? name).isSome = true ∧ m.cycle.filter.accepts name = true
  within : after.Within m.live
  seen : ∀ e ∈ m.cycle.visited m.registry timestamp,
    after.idle.previous e.1 = (m.cycle.context.rise? before.idle e.1 e.2.instrument).or
      (before.idle.previous e.1) ∧
    after.counts.map (·.get? e.1) = before.counts.map fun p =>
      (m.cycle.context.noted? before.idle e.1 e.2.instrument).or (p.get? e.1)
  unseen : ∀ name ∈ m.live, name ∉ (m.cycle.visited m.registry timestamp).map (·.1) →
    after.idle.previous name = before.idle.previous name ∧
    after.counts.map (·.get? name) = before.counts.map (·.get? name)

/-- The names that the last report of a run found, or these if there was none. -/
def lastLive (m : CycleRun σ) (names : List String) (events : List CycleEvent) : List String :=
  (m.cycles events).getLast?.elim names (·.1.live)

lemma mem_live_iff {name : String} : name ∈ m.live ↔
    (m.registry.entries.get? name).isSome = true ∧ m.cycle.filter.accepts name = true := by
  rw [live, List.mem_map]
  constructor
  · rintro ⟨e, he, rfl⟩
    obtain ⟨hget, haccepts⟩ := Registry.mem_selection.1 he
    exact ⟨by rw [hget]; rfl, haccepts⟩
  · rintro ⟨hsome, haccepts⟩
    obtain ⟨reg, hget⟩ := Option.isSome_iff_exists.1 hsome
    exact ⟨(name, reg), Registry.mem_selection.2 ⟨hget, haccepts⟩, rfl⟩

lemma within_report (m : CycleRun σ) (timestamp : Int64) :
    (m.report timestamp).cycle.tracking.Within m.live := by
  rw [tracking_report]
  exact Tracking.within_retain _ m.live

lemma prunes_report (m : CycleRun σ) (timestamp : Int64) :
    m.Prunes timestamp m.cycle.tracking (m.report timestamp).cycle.tracking := by
  have hsettles := m.cycle.settles_gather m.registry timestamp
  refine ⟨fun name => mem_live_iff, m.within_report timestamp, fun e he => ?_,
    fun name hlive hname => ?_⟩
  · have hagree := (hsettles.seen e he).1
    rw [tracking_report]
    refine ⟨hagree.idle.trans ?_, hagree.counts.trans (counts_transform _ _)⟩
    rw [Cycle.look, idle_transform]
    exact Context.previous_look
  · have hagree := (hsettles.unseen name hname).2.1 hlive
    rw [tracking_report]
    exact ⟨hagree.idle, hagree.counts⟩

lemma within_run (h : m.cycle.tracking.Within names) (events : List CycleEvent) :
    (m.run events).cycle.tracking.Within (m.lastLive names events) := by
  induction events generalizing m names with
  | nil => exact h
  | cons event events ih =>
    cases event with
    | change f => exact ih h
    | close => exact ih h
    | report timestamp =>
      have hrest := ih (m.within_report timestamp)
      have hlast : m.lastLive names (.report timestamp :: events) =
          (m.report timestamp).lastLive m.live events := by
        rw [lastLive, lastLive, cycles, List.getLast?_cons]
        cases ((m.report timestamp).cycles events).getLast? <;> rfl
      rw [hlast]
      exact hrest

/-- Nothing is forgotten or learnt between reports. -/
lemma tracking_of_quiet {quiet : List CycleEvent} (hquiet : ∀ t, .report t ∉ quiet) :
    (m.run quiet).cycle.tracking = m.cycle.tracking := by
  induction quiet generalizing m with
  | nil => rfl
  | cons event quiet ih =>
    have hrest (t : Int64) : .report t ∉ quiet := fun h => hquiet t (List.mem_cons_of_mem event h)
    cases event with
    | change f => exact ih hrest
    | close => exact ih hrest
    | report t => exact absurd List.mem_cons_self (hquiet t)

/-- A run remembers nothing of names that its last report did not find. What it remembers of a name
that the next report finds as well stays, unless the transform of the name replaces it. -/
theorem remembers_live {c : Cycle σ} {settings : Settings} {adapters : List Adapter}
    {transport : Transport σ} {outlet : σ}
    (hnew : Cycle.new settings adapters transport outlet = .ok c)
    (hfresh : ∀ p ∈ adapters.filterMap Adapter.counts?, p = .empty) (registry : Registry)
    (events : List CycleEvent) :
    let m := (start c registry).run events
    let names := (start c registry).lastLive [] events
    m.cycle.tracking.Within names ∧ m.cycle.tracking.idle.size ≤ names.length ∧
    (∀ p ∈ m.cycle.tracking.counts, p.size ≤ names.length) ∧
    ∀ (quiet : List CycleEvent) (timestamp : Int64), (∀ t, .report t ∉ quiet) →
      let next := m.run quiet
      next.cycle.context = settings.context ∧ next.cycle.filter = settings.filter ∧
      next.Prunes timestamp m.cycle.tracking (next.report timestamp).cycle.tracking := by
  intro m names
  have hstart := Cycle.starts_of_new hnew
  have hwithin : (start c registry).cycle.tracking.Within [] := by
    refine ⟨?_, fun p hp => ?_⟩
    · rw [start, hstart.idle]
      exact List.Subset.refl []
    · rw [start, Tracking.counts, hstart.adapters] at hp
      rw [hfresh p hp]
      exact List.Subset.refl []
  have hrun : m.cycle.tracking.Within names := within_run hwithin events
  refine ⟨hrun, hrun.size_le.1, hrun.size_le.2, fun quiet timestamp hquiet => ?_⟩
  intro next
  have halike : next.cycle.Alike c :=
    (m.alike_run quiet).trans ((start c registry).alike_run events)
  have hprunes := next.prunes_report timestamp
  rw [tracking_of_quiet hquiet] at hprunes
  exact ⟨halike.context.trans hstart.context, halike.filter.trans hstart.filter, hprunes⟩

/-- Skips idle instruments and measures relative counts. -/
def mindful : Cycle ScriptOutlet :=
  (Cycle.new { Settings.default with skipIdle := true } [.relative]
    ⟨.batch, .seconds, ⟨0⟩, ScriptOutlet.send⟩ ⟨[]⟩).toOption.get rfl

/-- One counter goes, and a gauge comes that cannot be read. -/
def swap (r : Registry) : Registry :=
  (r.remove "a").2.place "g" (.gauge ⟨.error ⟨"down"⟩, []⟩)

/-- A report that is given up at the gauge forgets the counter that went, and remembers the other
one although it does not come to it. -/
theorem remembers_live_aborted :
    let m := (start mindful pair).run [.report 1000]
    let next := m.run [.change swap]
    let after := (next.report 2000).cycle.tracking
    Cycle.new { Settings.default with skipIdle := true } [.relative]
        ⟨.batch, .seconds, ⟨0⟩, ScriptOutlet.send⟩ ⟨[]⟩ = .ok mindful ∧
    (∀ p ∈ [Adapter.relative].filterMap Adapter.counts?, p = .empty) ∧
    m.cycle.tracking.idle.baselines.keys = ["a", "b"] ∧
    (next.cycle.report next.registry 2000).report.aborted = true ∧
    after.Within ["g", "b"] ∧ after.idle.previous "b" = some 2 ∧
    after.counts.map (·.get? "b") = [some 2] := by
  intro m next after
  have hnew : Cycle.new { Settings.default with skipIdle := true } [.relative]
      ⟨.batch, .seconds, ⟨0⟩, ScriptOutlet.send⟩ ⟨[]⟩ = .ok mindful := rfl
  have hfresh : ∀ p ∈ [Adapter.relative].filterMap Adapter.counts?, p = .empty := by
    simp [Adapter.relative, Adapter.counts?]
  have hlive : next.live = ["g", "b"] := by decide +kernel
  obtain ⟨_, _, _, hnext⟩ := remembers_live hnew hfresh pair [.report 1000]
  obtain ⟨_, _, hprunes⟩ := hnext [.change swap] 2000 (by simp)
  obtain ⟨hidle, hcounts⟩ :=
    hprunes.unseen "b" (hlive ▸ by decide) (by decide +kernel)
  refine ⟨hnew, hfresh, by decide +kernel, by decide +kernel, ?_, ?_, ?_⟩
  · rw [← hlive]
    exact hprunes.within
  · exact hidle.trans (by decide +kernel)
  · exact hcounts.trans (by decide +kernel)

end CycleRun

end Telemetry
