import Telemetry.Proofs.CycleWalk
import Telemetry.Proofs.TransformTracking

/-!
# Runs of reports

Between reports anything may happen to the registry. A run keeps, for each name, the instruments
that reports have come to since a report last found nothing under the name. What a cycle that skips
idle instruments remembers of a name follows from these alone.
-/

namespace Telemetry

/-- Some count of the instruments is at least `k`. -/
def outdone (met : List Instrument) (k : Int64) : Bool :=
  met.any fun i => i.count?.any fun j => decide (k ≤ j)

/-- The last count of a counter, the latest first, that was above all counts before it. -/
def lastRise : List Instrument → Option Int64
  | .counter c :: older => if outdone older c.count then lastRise older else some c.count
  | _ :: older => lastRise older
  | [] => none

/-- The memory of a name after reports have come to these instruments, the latest first. -/
structure Tracking.Recalls (t : Tracking) (name : String) (met : List Instrument) : Prop where
  idle : t.idle.Knows name (met.filterMap Instrument.count?)
  counts : ∀ previous, t.adapters = [.relativeCounts previous] →
    previous.get? name = lastRise met

lemma outdone_iff {met : List Instrument} {k : Int64} :
    outdone met k = true ↔ ∃ j ∈ met.filterMap Instrument.count?, k ≤ j := by
  rw [outdone, List.any_eq_true]
  constructor
  · rintro ⟨i, hi, hany⟩
    cases hj : i.count? with
    | none => simp [hj] at hany
    | some j => exact ⟨j, List.mem_filterMap.2 ⟨i, hi, hj⟩, by simpa [hj] using hany⟩
  · rintro ⟨j, hmem, hle⟩
    obtain ⟨i, hi, hj⟩ := List.mem_filterMap.1 hmem
    exact ⟨i, hi, by simpa [hj] using hle⟩

lemma IdleTracker.Knows.transform {t : Tracking} {name : String} {met : List Instrument}
    (h : t.idle.Knows name (met.filterMap Instrument.count?)) {ctx : Context}
    (hskip : ctx.skipIdle = true) (now : UInt64) (timestamp : Int64) (i : Instrument) :
    (transform ctx t name now timestamp i).tracking.idle.Knows name
      ((i :: met).filterMap Instrument.count?) := by
  rw [idle_transform, Context.look, if_pos hskip]
  cases hk : i.count? with
  | none =>
    rw [List.filterMap_cons_none hk]
    exact h
  | some k =>
    rw [List.filterMap_cons_some hk]
    exact h.observe k

namespace Tracking.Recalls

variable {t u : Tracking} {name : String} {met : List Instrument}

lemma still_iff (h : t.Recalls name met) {ctx : Context} (hskip : ctx.skipIdle = true)
    (i : Instrument) :
    ctx.still t.idle name i = true ↔ ∃ k, i.count? = some k ∧ outdone met k = true := by
  rw [Context.still, hskip, Bool.true_and]
  cases i.count? with
  | none => simp
  | some k =>
    rw [Option.any_some, h.idle k, ← outdone_iff]
    simp

lemma blank (ht : t.Simple) (name : String) : t.blank.Recalls name [] where
  idle := IdleTracker.knows_nil previous_blank
  counts previous h := by
    rcases ht with hnil | ⟨p, hp⟩
    · rw [blank_adapters_nil hnil] at h
      cases h
    · obtain ⟨q, hq, hnone⟩ := blank_adapters_single name hp
      rw [hq] at h
      cases h
      exact hnone

lemma congr (h : u.Recalls name met) (hagree : t.AgreeAt name u) : t.Recalls name met where
  idle := h.idle.congr hagree.idle
  counts previous ht := by
    obtain ⟨q, hq, hget⟩ := hagree.symm.adapters_eq ht
    rw [← hget]
    exact h.counts q hq

lemma transform (h : t.Recalls name met) (ht : t.Simple) {ctx : Context}
    (hskip : ctx.skipIdle = true) (now : UInt64) (timestamp : Int64) (i : Instrument) :
    (transform ctx t name now timestamp i).tracking.Recalls name (i :: met) where
  idle := h.idle.transform hskip now timestamp i
  counts previous hprevious := by
    by_cases hi : ∃ c, i = .counter c
    · obtain ⟨c, rfl⟩ := hi
      have hcount := h.still_iff hskip (.counter c)
      cases hs : ctx.still t.idle name (.counter c) with
      | true =>
        rw [hs] at hcount
        obtain ⟨k, hk, hout⟩ := hcount.1 rfl
        cases hk
        rw [adapters_transform_same now timestamp (.inr hs)] at hprevious
        rw [lastRise, if_pos hout]
        exact h.counts previous hprevious
      | false =>
        have hout : outdone met c.count = false := by
          rw [← Bool.not_eq_true]
          intro hout
          rw [hcount.2 ⟨c.count, rfl, hout⟩] at hs
          cases hs
        rw [lastRise, if_neg (by simp [hout])]
        rcases ht with hnil | ⟨old, hold⟩
        · rw [adapters_transform_nil now timestamp hnil] at hprevious
          cases hprevious
        · rw [adapters_transform_counter now timestamp hold hs] at hprevious
          cases hprevious
          rw [Dict.get?_insert, if_pos rfl]
    · have hne : ∀ c, i ≠ .counter c := fun c hc => hi ⟨c, hc⟩
      have hrise : lastRise (i :: met) = lastRise met := by
        cases i with
        | counter c => exact absurd rfl (hne c)
        | _ => rfl
      rw [adapters_transform_same now timestamp (.inl hne)] at hprevious
      rw [hrise]
      exact h.counts previous hprevious

end Tracking.Recalls

inductive CycleEvent where
  /-- Registrations, removals, updates or the passing of time. -/
  | change (f : Registry → Registry)
  | report (timestamp : Int64)
  | close

structure CycleRun (σ : Type) where
  cycle : Cycle σ
  registry : Registry
  /-- What reports have come to under a name since one last found nothing there, the latest
  first. -/
  met : String → List Instrument

namespace CycleRun

variable {σ : Type}

def start (c : Cycle σ) (r : Registry) : CycleRun σ := ⟨c, r, fun _ => []⟩

/-- The names that the next report finds. -/
def live (run : CycleRun σ) : List String :=
  (run.registry.selection run.cycle.filter).map (·.1)

def report (run : CycleRun σ) (timestamp : Int64) : CycleRun σ :=
  let reported := run.cycle.report run.registry timestamp
  let reached := run.cycle.reached run.registry.clock.tick timestamp
    (run.registry.selection run.cycle.filter)
  { cycle := reported.cycle
    registry := reported.registry
    met name := if name ∈ run.live then
      (reached.filter (·.1 = name)).map (·.2.instrument) ++ run.met name else [] }

def step (run : CycleRun σ) : CycleEvent → CycleRun σ
  | .change f => { run with registry := f run.registry }
  | .report timestamp => run.report timestamp
  | .close => { run with cycle := run.cycle.close.2 }

def run (r : CycleRun σ) (events : List CycleEvent) : CycleRun σ :=
  events.foldl step r

/-- The invariant of a run of a cycle that skips idle instruments. -/
structure Recalls (run : CycleRun σ) (ctx : Context) (adapters : Nat) : Prop where
  context : run.cycle.context = ctx
  simple : run.cycle.tracking.Simple
  length : run.cycle.tracking.adapters.length = adapters
  recalls : ∀ name, run.cycle.tracking.Recalls name (run.met name)

lemma filter_of_nodup {es : List (String × Registration)} (h : (es.map (·.1)).Nodup)
    {e : String × Registration} (he : e ∈ es) : es.filter (·.1 = e.1) = [e] := by
  induction es with
  | nil => cases he
  | cons d es ih =>
    rw [List.map_cons, List.nodup_cons] at h
    rcases List.mem_cons.1 he with rfl | he
    · have hrest : es.filter (·.1 = e.1) = [] := by
        rw [List.filter_eq_nil_iff]
        intro d hd heq
        exact h.1 (List.mem_map.2 ⟨d, hd, by simpa using heq⟩)
      rw [List.filter_cons_of_pos (by simp), hrest]
    · have hne : d.1 ≠ e.1 := by
        intro heq
        exact h.1 (List.mem_map.2 ⟨e, he, heq.symm⟩)
      rw [List.filter_cons_of_neg (by simpa using hne), ih h.2 he]

variable {m : CycleRun σ} {ctx : Context} {n : Nat}

lemma met_of_reached {timestamp : Int64} {e : String × Registration}
    (he : e ∈ m.cycle.reached m.registry.clock.tick timestamp
      (m.registry.selection m.cycle.filter)) :
    (m.report timestamp).met e.1 = e.2.instrument :: m.met e.1 := by
  have hlive : e.1 ∈ m.live := List.mem_map_of_mem (f := (·.1)) (upTo_sublist.subset he)
  have hnodup : ((m.cycle.reached m.registry.clock.tick timestamp
      (m.registry.selection m.cycle.filter)).map (·.1)).Nodup :=
    Registry.nodup_selection.sublist (upTo_sublist.map _)
  simp only [report, if_pos hlive]
  rw [filter_of_nodup hnodup he]
  rfl

lemma met_of_unreached {timestamp : Int64} {name : String} (hlive : name ∈ m.live)
    (hname : name ∉ (m.cycle.reached m.registry.clock.tick timestamp
      (m.registry.selection m.cycle.filter)).map (·.1)) :
    (m.report timestamp).met name = m.met name := by
  simp only [report, if_pos hlive]
  rw [List.filter_eq_nil_iff.2]
  · rfl
  · intro e he heq
    exact hname (List.mem_map.2 ⟨e, he, by simpa using heq⟩)

lemma met_of_missing {timestamp : Int64} {name : String} (hlive : name ∉ m.live) :
    (m.report timestamp).met name = [] :=
  if_neg hlive

lemma tracking_report (m : CycleRun σ) (timestamp : Int64) :
    (m.report timestamp).cycle.tracking =
      (m.cycle.gather m.registry timestamp).cycle.tracking := by
  obtain ⟨_, _, sender, hcycle⟩ := m.cycle.report_eq_gather m.registry timestamp
  simp only [CycleRun.report, hcycle]

/-- What a report does to the memory of a name: it came to the instrument under the name, or was
given up before, or found nothing there. -/
lemma report_cases (m : CycleRun σ) (timestamp : Int64) (name : String) :
    (∃ e, e.1 = name ∧
      (m.report timestamp).cycle.tracking.AgreeAt name
        (m.cycle.look m.registry.clock.tick timestamp e).tracking ∧
      (m.report timestamp).met name = e.2.instrument :: m.met name) ∨
    ((m.report timestamp).cycle.tracking.AgreeAt name m.cycle.tracking ∧
      (m.report timestamp).met name = m.met name) ∨
    ((m.report timestamp).cycle.tracking.AgreeAt name m.cycle.tracking.blank ∧
      (m.report timestamp).met name = []) := by
  have hsettles := m.cycle.settles_gather m.registry timestamp
  rw [tracking_report]
  by_cases hreached : name ∈ (m.cycle.reached m.registry.clock.tick timestamp
      (m.registry.selection m.cycle.filter)).map (·.1)
  · obtain ⟨e, he, rfl⟩ := List.mem_map.1 hreached
    exact .inl ⟨e, rfl, (hsettles.seen e he).1, met_of_reached he⟩
  · obtain ⟨_, hlater, hgone⟩ := hsettles.unseen name hreached
    by_cases hlive : name ∈ m.live
    · exact .inr (.inl ⟨hlater hlive, met_of_unreached hlive hreached⟩)
    · exact .inr (.inr ⟨hgone hlive, met_of_missing hlive⟩)

lemma Recalls.report (h : m.Recalls ctx n) (hskip : ctx.skipIdle = true) (timestamp : Int64) :
    (m.report timestamp).Recalls ctx n := by
  obtain ⟨_, _, sender, hcycle⟩ := m.cycle.report_eq_gather m.registry timestamp
  have hagree (name : String) : ∃ u : Tracking,
      (m.report timestamp).cycle.tracking.AgreeAt name u ∧ u.Simple ∧ u.adapters.length = n ∧
        u.Recalls name ((m.report timestamp).met name) := by
    rcases m.report_cases timestamp name with
      ⟨e, rfl, hagree, hmet⟩ | ⟨hagree, hmet⟩ | ⟨hagree, hmet⟩
    · refine ⟨_, hagree, h.simple.transform _ _,
        (length_adapters_transform _ _).trans h.length, ?_⟩
      rw [hmet]
      exact (h.recalls e.1).transform h.simple (h.context ▸ hskip) _ _ _
    · exact ⟨_, hagree, h.simple, h.length, hmet ▸ h.recalls name⟩
    · exact ⟨_, hagree, h.simple.blank, (List.length_map _).trans h.length,
        hmet ▸ .blank h.simple name⟩
  refine ⟨?_, ?_, ?_, fun name => ?_⟩
  · simp only [CycleRun.report, hcycle]
    exact h.context
  · obtain ⟨u, hu, hsimple, _⟩ := hagree ""
    exact hu.simple hsimple
  · obtain ⟨u, hu, _, hlength, _⟩ := hagree ""
    exact hu.adapters.length_eq.trans hlength
  · obtain ⟨u, hu, _, _, hrecalls⟩ := hagree name
    exact hrecalls.congr hu

lemma Recalls.step (h : m.Recalls ctx n) (hskip : ctx.skipIdle = true) (event : CycleEvent) :
    (m.step event).Recalls ctx n := by
  cases event with
  | change f => exact ⟨h.context, h.simple, h.length, h.recalls⟩
  | report timestamp => exact h.report hskip timestamp
  | close => exact ⟨h.context, h.simple, h.length, h.recalls⟩

theorem Recalls.run (h : m.Recalls ctx n) (hskip : ctx.skipIdle = true)
    (events : List CycleEvent) : (m.run events).Recalls ctx n := by
  induction events generalizing m with
  | nil => exact h
  | cons event events ih => exact ih (h.step hskip event)

end CycleRun

end Telemetry
