import Telemetry.Proofs.CycleReports

/-!
# Idle baselines over a run

While idle instruments are skipped, the baselines tell the counts that reports have come to, whatever
the adapters are. If no report is given up these are the counts of all instruments that reports found
under a name since one found nothing there. While nothing is skipped there are no baselines.
-/

namespace Telemetry.CycleRun

variable {σ : Type} {m : CycleRun σ}

def Tells (m : CycleRun σ) : Prop :=
  ∀ name, m.cycle.tracking.idle.Knows name ((m.met name).filterMap Instrument.count?)

lemma tells_start {c : Cycle σ} (h : c.tracking.idle = .empty) (registry : Registry) :
    (start c registry).Tells := by
  intro name
  have hprevious : c.tracking.idle.previous name = none := by
    rw [h]
    rfl
  exact IdleTracker.knows_nil hprevious

lemma Tells.report (h : m.Tells) (hskip : m.cycle.context.skipIdle = true) (timestamp : Int64) :
    (m.report timestamp).Tells := by
  intro name
  rcases m.report_cases timestamp name with
    ⟨e, rfl, hagree, hmet⟩ | ⟨hagree, hmet⟩ | ⟨hagree, hmet⟩
  · have hlooked := (h e.1).transform hskip m.registry.clock.tick timestamp e.2.instrument
    rw [hmet]
    exact hlooked.congr hagree.idle
  · rw [hmet]
    exact (h name).congr hagree.idle
  · rw [hmet]
    exact (IdleTracker.knows_nil Tracking.previous_blank).congr hagree.idle

lemma Tells.run (h : m.Tells) (hskip : m.cycle.context.skipIdle = true)
    (events : List CycleEvent) : (m.run events).Tells := by
  induction events generalizing m with
  | nil => exact h
  | cons event events ih =>
    have hnext : (m.step event).Tells := by
      cases event with
      | change f => exact h
      | report timestamp => exact h.report hskip timestamp
      | close => exact h
    exact ih hnext ((congrArg Context.skipIdle (m.alike_step event).context).trans hskip)

lemma Tells.still_iff (h : m.Tells) (hskip : m.cycle.context.skipIdle = true) {name : String}
    {i : Instrument} {k : Int64} (hk : i.count? = some k) :
    m.cycle.context.still m.cycle.tracking.idle name i = true ↔
      ∃ j ∈ (m.met name).filterMap Instrument.count?, k ≤ j := by
  rw [Context.still, hskip, Bool.true_and, hk, Option.any_some]
  exact h name k

lemma idle_report (hskip : m.cycle.context.skipIdle = false)
    (h : m.cycle.tracking.idle = .empty) (timestamp : Int64) :
    (m.report timestamp).cycle.tracking.idle = .empty := by
  have hprevious (name : String) :
      (m.report timestamp).cycle.tracking.idle.previous name = none := by
    rcases m.report_cases timestamp name with ⟨e, rfl, hagree, _⟩ | ⟨hagree, _⟩ | ⟨hagree, _⟩
    · rw [hagree.idle, Cycle.look, idle_transform, Context.look, if_neg (by simp [hskip]), h]
      rfl
    · rw [hagree.idle, h]
      rfl
    · rw [hagree.idle, Tracking.previous_blank]
  exact congrArg IdleTracker.mk (Dict.ext_of_get? hprevious)

lemma idle_run (hskip : m.cycle.context.skipIdle = false) (h : m.cycle.tracking.idle = .empty)
    (events : List CycleEvent) : (m.run events).cycle.tracking.idle = .empty := by
  induction events generalizing m with
  | nil => exact h
  | cons event events ih =>
    have hnext : (m.step event).cycle.tracking.idle = .empty := by
      cases event with
      | change f => exact h
      | report timestamp => exact idle_report hskip h timestamp
      | close => exact h
    exact ih ((congrArg Context.skipIdle (m.alike_step event).context).trans hskip) hnext

/-- Where the reports of a run begin. -/
def cycles (m : CycleRun σ) : List CycleEvent → List (CycleRun σ × Int64)
  | [] => []
  | .report timestamp :: events => (m, timestamp) :: (m.report timestamp).cycles events
  | event :: events => (m.step event).cycles events

lemma cycles_append (m : CycleRun σ) (events later : List CycleEvent) :
    m.cycles (events ++ later) = m.cycles events ++ (m.run events).cycles later := by
  induction events generalizing m with
  | nil => rfl
  | cons event events ih =>
    cases event with
    | report timestamp => exact congrArg ((m, timestamp) :: ·) (ih _)
    | change f => exact ih _
    | close => exact ih _

/-- No report of the run is given up. -/
def Kept (m : CycleRun σ) (events : List CycleEvent) : Prop :=
  ∀ p ∈ m.cycles events, (p.1.cycle.report p.1.registry p.2).report.aborted = false

lemma kept_nil (m : CycleRun σ) : m.Kept [] := List.forall_mem_nil _

lemma kept_change {f : Registry → Registry} {events : List CycleEvent} :
    m.Kept (.change f :: events) ↔ (m.step (.change f)).Kept events := Iff.rfl

lemma kept_report {timestamp : Int64} {events : List CycleEvent} :
    m.Kept (.report timestamp :: events) ↔
      (m.cycle.report m.registry timestamp).report.aborted = false ∧
        (m.report timestamp).Kept events :=
  List.forall_mem_cons

lemma kept_append {events later : List CycleEvent} :
    m.Kept (events ++ later) ↔ m.Kept events ∧ (m.run events).Kept later := by
  rw [Kept, cycles_append, List.forall_mem_append]
  rfl

/-- What the reports of a run find under a name. -/
def found (m : CycleRun σ) (name : String) (events : List CycleEvent) :
    List (Option Registration) :=
  (m.cycles events).map fun p => p.1.registry.entries.get? name

def meet (met : List Instrument) (found : Option Registration) : List Instrument :=
  found.elim [] fun reg => reg.instrument :: met

lemma not_live_of_missing {name : String} (hget : m.registry.entries.get? name = none) :
    name ∉ m.live := by
  intro hlive
  obtain ⟨e, he, rfl⟩ := List.mem_map.1 hlive
  rw [(Registry.mem_selection.1 he).1] at hget
  cases hget

lemma reached_of_found {timestamp : Int64} {name : String} {reg : Registration}
    (hkept : (m.cycle.report m.registry timestamp).report.aborted = false)
    (hname : m.cycle.filter.accepts name = true) (hget : m.registry.entries.get? name = some reg) :
    (name, reg) ∈ m.cycle.reached m.registry.clock.tick timestamp
      (m.registry.selection m.cycle.filter) := by
  have hvisited : m.cycle.reached _ timestamp _ = m.registry.selection m.cycle.filter :=
    Cycle.visited_of_kept ((m.cycle.aborted_report _ _).symm.trans hkept)
  rw [hvisited]
  exact Registry.mem_selection.2 ⟨hget, hname⟩

lemma met_report {timestamp : Int64} {name : String}
    (hkept : (m.cycle.report m.registry timestamp).report.aborted = false)
    (hname : m.cycle.filter.accepts name = true) :
    (m.report timestamp).met name = meet (m.met name) (m.registry.entries.get? name) := by
  cases hget : m.registry.entries.get? name with
  | none => exact met_of_missing (not_live_of_missing hget)
  | some reg => exact met_of_reached (reached_of_found hkept hname hget)

lemma met_run {events : List CycleEvent} {name : String} (hkept : m.Kept events)
    (hname : m.cycle.filter.accepts name = true) :
    (m.run events).met name = (m.found name events).foldl meet (m.met name) := by
  induction events generalizing m with
  | nil => rfl
  | cons event events ih =>
    have hnext : (m.step event).cycle.filter.accepts name = true := by
      rw [(m.alike_step event).filter]
      exact hname
    cases event with
    | change f => exact ih hkept hnext
    | close => exact ih hkept hnext
    | report timestamp =>
      obtain ⟨hhead, htail⟩ := kept_report.1 hkept
      have hrest := ih htail hnext
      rw [met_report hhead hname] at hrest
      exact hrest

/-- An instrument that stays, under a name that was free before, is all that is met there. -/
lemma met_of_stays {events : List CycleEvent} {name : String} (hkept : m.Kept events)
    (hname : m.cycle.filter.accepts name = true) (hstart : m.met name = [])
    {free serial : Nat} {seen : List Instrument}
    (hfound : m.found name events =
      List.replicate free none ++ seen.map fun i => some ⟨serial, i⟩) :
    (m.run events).met name = seen.reverse := by
  have hfree (n : Nat) : (List.replicate n none).foldl meet [] = [] := by
    induction n with
    | zero => rfl
    | succ n ih => exact ih
  have hseen (met : List Instrument) :
      (seen.map fun i => some (⟨serial, i⟩ : Registration)).foldl meet met = seen.reverse ++ met := by
    clear hfound
    induction seen generalizing met with
    | nil => rfl
    | cons i seen ih =>
      rw [List.map_cons, List.foldl_cons, ih, List.reverse_cons, List.append_assoc]
      rfl
  rw [met_run hkept hname, hfound, hstart, List.foldl_append, hfree, hseen, List.append_nil]

end Telemetry.CycleRun
