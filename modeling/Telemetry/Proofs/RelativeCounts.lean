import Mathlib.Algebra.Ring.Int.Defs
import Telemetry.Proofs.NewHighs

/-!
# Relative counts

The relative counts in the records of a counter add up to its count. Reports that skip the counter as
idle leave out no movement: the next record has it.
-/

namespace Telemetry

/-- The record shows a count, and how far it is from the one reported before. -/
structure Record.OfCounter (r : Record) (count relative : Int64) : Prop where
  count : r.fields.get? "count" = some (FieldValue.integer count).token
  relative : r.fields.get? "relativeCount" = some (FieldValue.integer relative).token

namespace Adapter

/-- The difference of two counts is in the range of counts. -/
def Fits (previous count : Int64) : Prop :=
  Int64.minValue.toInt ≤ count.toInt - previous.toInt ∧
    count.toInt - previous.toInt ≤ Int64.maxValue.toInt

lemma toInt_movement_of_fits {previous count : Int64} (h : Fits previous count) :
    (movement previous count).toInt = count.toInt - previous.toInt := by
  obtain ⟨hlow, hhigh⟩ := h
  rw [movement, Number.toInt_clamp]
  omega

/-- A difference out of range is the bound on its side. -/
lemma movement_of_not_fits {previous count : Int64} (h : ¬Fits previous count) :
    movement previous count =
      if previous < count then Int64.maxValue else Int64.minValue := by
  have hbounds : Int64.minValue.toInt ≤ Int64.maxValue.toInt := by decide
  have hzero : Int64.minValue.toInt < 0 ∧ 0 < Int64.maxValue.toInt := by decide
  rw [Fits, not_and_or] at h
  apply Int64.toInt_inj.1
  rw [movement, Number.toInt_clamp]
  split
  · rename_i hlt
    have hup := Int64.lt_iff_toInt_lt.1 hlt
    omega
  · rename_i hge
    have hdown := mt Int64.lt_iff_toInt_lt.2 hge
    omega

/-- Movements from one count to the next add up as far as they fit. -/
lemma sum_movements {previous k : Int64} {ks : List Int64} {n : Nat} (hk : ks[n]? = some k)
    (hfits : ∀ p ∈ ((previous :: ks).zip ks).take (n + 1), Fits p.1 p.2) :
    (((List.zipWith movement (previous :: ks) ks).take (n + 1)).map Int64.toInt).sum =
      k.toInt - previous.toInt := by
  induction ks generalizing previous n with
  | nil => cases hk
  | cons j ks ih =>
    rw [List.zip_cons_cons, List.take_succ_cons] at hfits
    have hhead : (movement previous j).toInt = j.toInt - previous.toInt :=
      toInt_movement_of_fits (hfits (previous, j) List.mem_cons_self)
    rw [List.zipWith_cons_cons, List.take_succ_cons, List.map_cons, List.sum_cons, hhead]
    cases n with
    | zero =>
      cases hk
      simp
    | succ n =>
      have hrest := ih hk fun p hp => hfits p (List.mem_cons_of_mem _ hp)
      rw [hrest]
      omega

/-- The adapter leaves the count of a counter and its relative count alone. -/
def KeepsCounts (adapt : String → Instrument → Draft → Draft) : Prop :=
  ∀ name c d, ∀ k ∈ ["count", "relativeCount"],
    (adapt name (.counter c) d).fields.get? k = d.fields.get? k

/-- An adapter for relative counts has the last word on them, and `last` is the last count that it
has seen under the name. -/
inductive Counts (name : String) (last : Option Int64) : List Adapter → Prop where
  | here {previous : Dict Int64} {fs : List (String → Instrument → Draft → Draft)}
    (h : previous.get? name = last) (hfs : ∀ f ∈ fs, KeepsCounts f) :
    Counts name last (relativeCounts previous :: fs.map custom)
  | there (a : Adapter) {as : List Adapter} (h : Counts name last as) : Counts name last (a :: as)

variable {name : String} {last : Option Int64} {as bs : List Adapter}
  {fs : List (String → Instrument → Draft → Draft)}

lemma counts_relative {before : List Adapter} (hfs : ∀ f ∈ fs, KeepsCounts f) :
    Counts name none (before ++ relative :: fs.map custom) := by
  induction before with
  | nil => exact .here rfl hfs
  | cons a before ih => exact .there a ih

lemma adaptAll_of_keeps (hfs : ∀ f ∈ fs, KeepsCounts f) (name : String) (c : Counter) (d : Draft) :
    (adaptAll name (.counter c) (fs.map custom) d).2 = fs.map custom ∧
      ∀ k ∈ ["count", "relativeCount"],
        (adaptAll name (.counter c) (fs.map custom) d).1.fields.get? k = d.fields.get? k := by
  induction fs generalizing d with
  | nil => exact ⟨rfl, fun _ _ => rfl⟩
  | cons f fs ih =>
    obtain ⟨hadapters, hfields⟩ :=
      ih (fun g hg => hfs g (List.mem_cons_of_mem f hg)) (f name (.counter c) d)
    refine ⟨congrArg (custom f :: ·) hadapters, ?_⟩
    intro k hk
    exact (hfields k hk).trans (hfs f List.mem_cons_self name c d k hk)

lemma Counts.adaptAll (h : Counts name last as) (c : Counter) (d : Draft) :
    (adaptAll name (.counter c) as d).1.fields.get? "count" =
        some (FieldValue.integer c.count).token ∧
      (adaptAll name (.counter c) as d).1.fields.get? "relativeCount" =
        some (FieldValue.integer (movement (last.getD 0) c.count)).token ∧
      Counts name (some c.count) (adaptAll name (.counter c) as d).2 := by
  induction h generalizing d with
  | there a _ ih =>
    obtain ⟨hcount, hrelative, hcounts⟩ := ih (a.adapt name (.counter c) d).1
    exact ⟨hcount, hrelative, .there _ hcounts⟩
  | @here previous fs hlast hfs =>
    obtain ⟨hadapters, hfields⟩ := adaptAll_of_keeps hfs name c
      ((relativeCounts previous).adapt name (.counter c) d).1
    have hcount := hfields "count" List.mem_cons_self
    have hrelative := hfields "relativeCount" (List.mem_cons_of_mem _ List.mem_cons_self)
    refine ⟨hcount.trans ?_, hrelative.trans ?_, ?_⟩
    · simp [adapt, Draft.get?_fields_field, FieldValue.encodable]
    · simp [adapt, Draft.get?_fields_field, FieldValue.encodable, hlast]
    · have hnext : (Adapter.adaptAll name (.counter c) (relativeCounts previous :: fs.map custom)
          d).2 = relativeCounts (previous.insert name c.count) :: fs.map custom :=
        congrArg (relativeCounts (previous.insert name c.count) :: ·) hadapters
      rw [hnext]
      exact .here (by rw [Dict.get?_insert, if_pos rfl]) hfs

lemma eq_customs_of_agree (h : List.Forall₂ (AgreeAt name) as (fs.map custom)) : as = fs.map custom := by
  induction fs generalizing as with
  | nil =>
    cases h
    rfl
  | cons f fs ih =>
    cases h with
    | cons hhead hrest =>
      cases hhead
      exact congrArg (custom f :: ·) (ih hrest)

lemma Counts.congr (h : Counts name last bs) (hagree : List.Forall₂ (AgreeAt name) as bs) :
    Counts name last as := by
  induction h generalizing as with
  | there b _ ih =>
    cases hagree with
    | cons _ hrest => exact .there _ (ih hrest)
  | here hlast hfs =>
    cases hagree with
    | cons hhead hrest =>
      cases hhead with
      | relativeCounts hget =>
        rw [eq_customs_of_agree hrest]
        exact .here (hget.trans hlast) hfs

lemma Counts.blank (h : Counts name last as) :
    Counts name none (as.map (·.retain fun _ => false)) := by
  induction h with
  | there a _ ih => exact .there _ ih
  | @here _ fs _ hfs =>
    have hsame : (fs.map custom).map (·.retain fun _ => false) = fs.map custom := by
      rw [List.map_map]
      rfl
    rw [List.map_cons, hsame]
    exact .here (Dict.get?_filter _ _ _) hfs

end Adapter

/-- A counter is idle if its count is not above all counts seen before. -/
def idleCount (skip : Bool) (seen : List Int64) (k : Int64) : Bool :=
  skip && seen.any fun j => decide (k ≤ j)

/-- The counts of a counter that are reported, after others were seen. -/
def reportedCounts (skip : Bool) (seen : List Int64) : List Int64 → List Int64
  | [] => []
  | k :: ks =>
    if idleCount skip seen k then reportedCounts skip (k :: seen) ks
    else k :: reportedCounts skip (k :: seen) ks

namespace CycleRun

variable {σ : Type} {m : CycleRun σ} {name : String} {seen : List Int64} {last : Option Int64}
  {timestamp : Int64}

/-- What a cycle remembers of a counter that has shown these counts, the latest first. -/
structure Follows (m : CycleRun σ) (name : String) (seen : List Int64) (last : Option Int64) :
    Prop where
  idle : m.cycle.context.skipIdle = true → m.cycle.tracking.idle.Knows name seen
  counts : Adapter.Counts name last m.cycle.tracking.adapters

lemma Follows.still_eq (h : m.Follows name seen last) (k : Int64) :
    m.cycle.context.still m.cycle.tracking.idle name (.counter ⟨k⟩) =
      idleCount m.cycle.context.skipIdle seen k := by
  rw [Context.still, idleCount]
  cases hskip : m.cycle.context.skipIdle with
  | false => rfl
  | true =>
    have hknows := h.idle hskip k
    rw [Bool.true_and, Bool.true_and, Bool.eq_iff_iff]
    simpa [Instrument.count?] using hknows

lemma agree_of_found {reg : Registration}
    (hkept : (m.cycle.report m.registry timestamp).report.aborted = false)
    (hname : m.cycle.filter.accepts name = true) (hget : m.registry.entries.get? name = some reg) :
    (m.report timestamp).cycle.tracking.AgreeAt name
      (m.cycle.look m.registry.clock.tick timestamp (name, reg)).tracking := by
  rw [tracking_report]
  exact ((m.cycle.settles_gather m.registry timestamp).seen (name, reg)
    (reached_of_found hkept hname hget)).1

lemma agree_of_missing (hget : m.registry.entries.get? name = none) :
    (m.report timestamp).cycle.tracking.AgreeAt name m.cycle.tracking.blank := by
  have hgone := not_live_of_missing hget
  have hunseen : name ∉ (m.cycle.reached m.registry.clock.tick timestamp
      (m.registry.selection m.cycle.filter)).map (·.1) :=
    fun hmem => hgone ((upTo_sublist.map _).subset hmem)
  rw [tracking_report]
  exact ((m.cycle.settles_gather m.registry timestamp).unseen name hunseen).2.2 hgone

lemma Follows.report_missing (h : m.Follows name seen last)
    (hget : m.registry.entries.get? name = none) : (m.report timestamp).Follows name [] none := by
  have hagree : (m.report timestamp).cycle.tracking.AgreeAt name m.cycle.tracking.blank :=
    agree_of_missing hget
  constructor
  · intro _
    exact (IdleTracker.knows_nil Tracking.previous_blank).congr hagree.idle
  · exact h.counts.blank.congr hagree.adapters

/-- A report that finds the counter has a record of it, unless the counter is idle. -/
lemma Follows.report_found (h : m.Follows name seen last) {serial : Nat} {k : Int64}
    (hkept : (m.cycle.report m.registry timestamp).report.aborted = false)
    (hname : m.cycle.filter.accepts name = true)
    (hget : m.registry.entries.get? name = some ⟨serial, .counter ⟨k⟩⟩)
    (hok : (m.cycle.look m.registry.clock.tick timestamp
      (name, ⟨serial, .counter ⟨k⟩⟩)).outcome.isOk = true) :
    (idleCount m.cycle.context.skipIdle seen k = true →
      m.cycle.record? m.registry.clock.tick timestamp (name, ⟨serial, .counter ⟨k⟩⟩) = none ∧
      (m.report timestamp).Follows name (k :: seen) last) ∧
    (idleCount m.cycle.context.skipIdle seen k = false →
      ∃ r, m.cycle.record? m.registry.clock.tick timestamp
          (name, ⟨serial, .counter ⟨k⟩⟩) = some r ∧
        r.OfCounter k (Adapter.movement (last.getD 0) k) ∧
        (m.report timestamp).Follows name (k :: seen) (some k)) := by
  have hagree := agree_of_found hkept hname hget
  have hskip : (m.report timestamp).cycle.context.skipIdle = m.cycle.context.skipIdle :=
    congrArg Context.skipIdle (m.alike_step (.report timestamp)).context
  have hidle (hon : (m.report timestamp).cycle.context.skipIdle = true) :
      (m.report timestamp).cycle.tracking.idle.Knows name (k :: seen) := by
    rw [hskip] at hon
    have hlooked := (h.idle hon).observe k
    refine hlooked.congr (hagree.idle.trans ?_)
    rw [Cycle.look, idle_transform, Context.look, if_pos hon]
    rfl
  rw [← h.still_eq k]
  constructor
  · intro hs
    have hcounter : ∀ t, Instrument.counter ⟨k⟩ ≠ .timer t := by
      intro t heq
      cases heq
    have hdraft := Reading.draft_of_still m.registry.clock.tick timestamp hcounter hs
    refine ⟨record?_of_no_draft hdraft, hidle, h.counts.congr ?_⟩
    have hadapters := hagree.adapters
    simp only [Cycle.look, transform, hdraft] at hadapters
    exact hadapters
  · intro hs
    have hdraft := Reading.draft_of_moved m.registry.clock.tick timestamp rfl hs
    obtain ⟨r, hr, hfields⟩ := record?_of_ok hok hdraft
    obtain ⟨hcount, hrelative, hcounts⟩ := h.counts.adaptAll ⟨k⟩
      ((m.cycle.context.start name timestamp).fieldAll
        (m.cycle.context.values m.registry.clock.tick (.counter ⟨k⟩)))
    refine ⟨r, hr, ⟨?_, ?_⟩, hidle, hcounts.congr ?_⟩
    · rw [hfields]
      exact hcount
    · rw [hfields]
      exact hrelative
    · have hadapters := hagree.adapters
      rw [Cycle.look, adapters_transform_of_draft _ _ hdraft] at hadapters
      exact hadapters

/-- The count and the record that the next report has under a name. -/
def yield? (m : CycleRun σ) (name : String) (timestamp : Int64) : Option (Int64 × Record) := do
  let reg ← m.registry.entries.get? name
  let count ← reg.instrument.count?
  let record ← m.cycle.record? m.registry.clock.tick timestamp (name, reg)
  return (count, record)

/-- The counts and the records that the reports of a run have under a name. -/
def yields (m : CycleRun σ) (name : String) (events : List CycleEvent) : List (Int64 × Record) :=
  (m.cycles events).filterMap fun p => p.1.yield? name p.2

lemma yields_report (m : CycleRun σ) (name : String) (timestamp : Int64)
    (events : List CycleEvent) :
    m.yields name (.report timestamp :: events) =
      (m.yield? name timestamp).toList ++ (m.report timestamp).yields name events := by
  cases h : m.yield? name timestamp with
  | none => exact List.filterMap_cons_none h
  | some q => exact List.filterMap_cons_some h

lemma yield?_of_missing (hget : m.registry.entries.get? name = none) :
    m.yield? name timestamp = none := by
  rw [yield?, hget]
  rfl

lemma yield?_of_counter {serial : Nat} {k : Int64}
    (hget : m.registry.entries.get? name = some ⟨serial, .counter ⟨k⟩⟩) :
    m.yield? name timestamp = (m.cycle.record? m.registry.clock.tick timestamp
      (name, ⟨serial, .counter ⟨k⟩⟩)).map (k, ·) := by
  rw [yield?, hget]
  exact Option.map_eq_bind.symm

/-- Nothing under the name fails. -/
def Succeeds (m : CycleRun σ) (name : String) (events : List CycleEvent) : Prop :=
  ∀ p ∈ m.cycles events, ∀ reg, p.1.registry.entries.get? name = some reg →
    (p.1.cycle.look p.1.registry.clock.tick p.2 (name, reg)).outcome.isOk = true

lemma Follows.yields (h : m.Follows name seen last) {events : List CycleEvent}
    (hkept : m.Kept events) (hname : m.cycle.filter.accepts name = true)
    (hok : m.Succeeds name events) {free serial : Nat} {counts : List Int64}
    (hfound : m.found name events = List.replicate free none ++
      counts.map fun k => some ⟨serial, .counter ⟨k⟩⟩)
    (hfree : free = 0 ∨ seen = [] ∧ last = none) :
    (m.yields name events).map (·.1) =
        reportedCounts m.cycle.context.skipIdle seen counts ∧
      List.Forall₂ (fun q moved => q.2.OfCounter q.1 moved) (m.yields name events)
        (List.zipWith Adapter.movement
          (last.getD 0 :: reportedCounts m.cycle.context.skipIdle seen counts)
          (reportedCounts m.cycle.context.skipIdle seen counts)) := by
  induction events generalizing m seen last free counts with
  | nil =>
    obtain ⟨_, hnone⟩ := List.append_eq_nil_iff.1 hfound.symm
    rw [List.map_eq_nil_iff.1 hnone]
    exact ⟨rfl, .nil⟩
  | cons event events ih =>
    cases event with
    | change f => exact ih (m := m.step (.change f)) ⟨h.idle, h.counts⟩ hkept hname hok hfound hfree
    | close => exact ih (m := m.step .close) ⟨h.idle, h.counts⟩ hkept hname hok hfound hfree
    | report timestamp =>
      obtain ⟨hhead, htail⟩ := kept_report.1 hkept
      obtain ⟨hokhead, hoktail⟩ := List.forall_mem_cons.1 hok
      have halike := m.alike_step (.report timestamp)
      have hskip : (m.report timestamp).cycle.context.skipIdle = m.cycle.context.skipIdle :=
        congrArg Context.skipIdle halike.context
      have hnext : (m.report timestamp).cycle.filter.accepts name = true := by
        rw [← hname]
        exact congrArg (MetricFilter.accepts · name) halike.filter
      cases free with
      | succ free =>
        have hcons : m.registry.entries.get? name :: (m.report timestamp).found name events =
            none :: (List.replicate free none ++
              counts.map fun k => some ⟨serial, .counter ⟨k⟩⟩) := hfound
        obtain ⟨hget, hrest⟩ := List.cons_eq_cons.1 hcons
        obtain ⟨rfl, rfl⟩ := hfree.resolve_left (Nat.succ_ne_zero free)
        rw [yields_report, yield?_of_missing hget, ← hskip]
        exact ih (h.report_missing hget) htail hnext hoktail hrest (.inr ⟨rfl, rfl⟩)
      | zero =>
        cases counts with
        | nil => cases hfound
        | cons k counts =>
          have hcons : m.registry.entries.get? name :: (m.report timestamp).found name events =
              some ⟨serial, .counter ⟨k⟩⟩ :: (List.replicate 0 none ++
                counts.map fun k => some ⟨serial, .counter ⟨k⟩⟩) := hfound
          obtain ⟨hget, hrest⟩ := List.cons_eq_cons.1 hcons
          obtain ⟨hidle, hmoved⟩ := h.report_found hhead hname hget (hokhead _ hget)
          rw [yields_report, yield?_of_counter hget]
          cases hs : idleCount m.cycle.context.skipIdle seen k with
          | true =>
            obtain ⟨hnone, hfollows⟩ := hidle hs
            rw [hnone, reportedCounts, if_pos hs, ← hskip]
            exact ih hfollows htail hnext hoktail hrest (.inl rfl)
          | false =>
            obtain ⟨r, hr, hcounter, hfollows⟩ := hmoved hs
            obtain ⟨hvalues, hmovements⟩ := ih hfollows htail hnext hoktail hrest (.inl rfl)
            rw [hskip] at hvalues hmovements
            rw [hr, reportedCounts, if_neg (by simp [hs])]
            exact ⟨congrArg (k :: ·) hvalues, .cons hcounter hmovements⟩

/-- The records of a counter that stays under its name, while no report is given up. -/
theorem relative_counts {settings : Settings} {before : List Adapter}
    {fs : List (String → Instrument → Draft → Draft)} (hfs : ∀ f ∈ fs, Adapter.KeepsCounts f)
    {transport : Transport σ} {outlet : σ} {c : Cycle σ}
    (hnew : Cycle.new settings (before ++ .relative :: fs.map .custom) transport outlet = .ok c)
    (registry : Registry) (events : List CycleEvent) (hkept : (start c registry).Kept events)
    {name : String} (hname : settings.filter.accepts name = true)
    {free serial : Nat} {counts : List Int64}
    (hfound : (start c registry).found name events = List.replicate free none ++
      counts.map fun k => some ⟨serial, .counter ⟨k⟩⟩)
    (hok : (start c registry).Succeeds name events) :
    let shown := (start c registry).yields name events
    let reported := reportedCounts settings.skipIdle [] counts
    let moved := List.zipWith Adapter.movement (0 :: reported) reported
    (∀ p ∈ (start c registry).cycles events, p.1.cycle.offers p.1.registry p.2 =
      (p.1.registry.selection p.1.cycle.filter).filterMap
        (p.1.cycle.record? p.1.registry.clock.tick p.2)) ∧
    shown.map (·.1) = reported ∧
    List.Forall₂ (fun q relative => q.2.OfCounter q.1 relative) shown moved ∧
    (∀ n k, reported[n]? = some k →
      (∀ p ∈ ((0 :: reported).zip reported).take (n + 1), Adapter.Fits p.1 p.2) →
      ((moved.take (n + 1)).map Int64.toInt).sum = k.toInt) ∧
    (∀ p ∈ (0 :: reported).zip reported,
      (Adapter.Fits p.1 p.2 → (Adapter.movement p.1 p.2).toInt = p.2.toInt - p.1.toInt) ∧
      (¬Adapter.Fits p.1 p.2 → Adapter.movement p.1 p.2 =
        if p.1 < p.2 then Int64.maxValue else Int64.minValue)) := by
  intro shown reported moved
  have hstarts := Cycle.starts_of_new hnew
  have hfollows : (start c registry).Follows name [] none := by
    constructor
    · intro _
      refine IdleTracker.knows_nil ?_
      rw [start, hstarts.idle]
      rfl
    · rw [start, hstarts.adapters]
      exact Adapter.counts_relative hfs
  have haccepts : c.filter.accepts name = true := by rw [hstarts.filter, hname]
  have hskip : c.context.skipIdle = settings.skipIdle := congrArg Context.skipIdle hstarts.context
  obtain ⟨hvalues, hmovements⟩ :=
    hfollows.yields hkept haccepts hok hfound (.inr ⟨rfl, rfl⟩)
  have hreported : reportedCounts c.context.skipIdle [] counts = reported := by rw [hskip]
  rw [start, hreported] at hvalues hmovements
  refine ⟨?_, ?_, ?_, ?_, ?_⟩
  · intro p hp
    exact Cycle.offers_of_kept ((p.1.cycle.aborted_report _ _).symm.trans (hkept p hp))
  · exact hvalues
  · exact hmovements
  · intro n k hk hfits
    have hsum := Adapter.sum_movements hk hfits
    rw [Int64.toInt_zero, Int.sub_zero] at hsum
    exact hsum
  · intro p _
    exact ⟨Adapter.toInt_movement_of_fits, Adapter.movement_of_not_fits⟩

def counted (n : Int64) : Registry :=
  (Registry.new (.starting 0)).place "c" (.counter ⟨n⟩)

/-- A report finds nothing, then others find a counter at 100, at 5 and at 101. -/
def resumed : List CycleEvent :=
  [.report 0, .change fun _ => counted 100, .report 0, .change fun _ => counted 5, .report 0,
    .change fun _ => counted 101, .report 0]

/-- The report in between leaves the counter out, and the last record has what moved since the
first one. -/
theorem relative_counts_resumed :
    let r := Registry.new (.starting 0)
    Cycle.new { Settings.default with skipIdle := true } [.relative]
        ⟨.batch, .milliseconds, ⟨0⟩, ScriptOutlet.send⟩ ⟨[]⟩ = .ok relative ∧
    (start relative r).Kept resumed ∧
    (start relative r).found "c" resumed = List.replicate 1 none ++
      [100, 5, 101].map (fun k => some ⟨0, .counter ⟨k⟩⟩) ∧
    (start relative r).Succeeds "c" resumed ∧
    ((start relative r).yields "c" resumed).map (·.1) = [100, 101] ∧
    List.Forall₂ (fun q relative => q.2.OfCounter q.1 relative)
      ((start relative r).yields "c" resumed) [100, 1] ∧
    ([100, 1].map Int64.toInt).sum = (101 : Int64).toInt := by
  intro r
  have hnew : Cycle.new { Settings.default with skipIdle := true } ([] ++ .relative :: [].map .custom)
      ⟨.batch, .milliseconds, ⟨0⟩, ScriptOutlet.send⟩ ⟨[]⟩ = .ok relative := rfl
  have hkept : (start relative r).Kept resumed := by
    refine kept_report.2 ⟨?_, kept_change.2 (kept_report.2 ⟨?_, kept_change.2 (kept_report.2
      ⟨?_, kept_change.2 (kept_report.2 ⟨?_, kept_nil _⟩)⟩)⟩)⟩
    · decide +kernel
    · decide +kernel
    · decide +kernel
    · decide +kernel
  have hfound : (start relative r).found "c" resumed = List.replicate 1 none ++
      [100, 5, 101].map fun k => some ⟨0, .counter ⟨k⟩⟩ := rfl
  have hok : (start relative r).Succeeds "c" resumed := by
    refine List.forall_mem_cons.2 ⟨?_, List.forall_mem_cons.2 ⟨?_, List.forall_mem_cons.2 ⟨?_,
      List.forall_mem_cons.2 ⟨?_, List.forall_mem_nil _⟩⟩⟩⟩
    · intro reg hget
      cases hget
    · intro reg hget
      cases hget
      decide +kernel
    · intro reg hget
      cases hget
      decide +kernel
    · intro reg hget
      cases hget
      decide +kernel
  have hnone : ∀ f ∈ ([] : List (String → Instrument → Draft → Draft)), Adapter.KeepsCounts f :=
    List.forall_mem_nil _
  have hname : { Settings.default with skipIdle := true }.filter.accepts "c" = true := rfl
  obtain ⟨_, hvalues, hmoved, hsum, _⟩ :=
    relative_counts hnone hnew r resumed hkept hname hfound hok
  have hreported : reportedCounts true [] [100, 5, 101] = [100, 101] := by decide
  have hmovements : List.zipWith Adapter.movement [0, 100, 101] [100, 101] = [100, 1] := by decide
  have hfits : ∀ p ∈ ([(0, 100), (100, 101)] : List (Int64 × Int64)), Adapter.Fits p.1 p.2 := by
    refine List.forall_mem_cons.2 ⟨?_, List.forall_mem_singleton.2 ?_⟩
    · exact ⟨by decide, by decide⟩
    · exact ⟨by decide, by decide⟩
  rw [hreported] at hvalues hmoved hsum
  rw [hmovements] at hmoved hsum
  exact ⟨hnew, hkept, hfound, hok, hvalues, hmoved, hsum 1 101 rfl hfits⟩

end CycleRun

end Telemetry
