import Telemetry.Proofs.FirstObservations
import Telemetry.Proofs.IdleRuns
import Telemetry.Proofs.InstrumentFields

/-!
# New highs

When idle instruments are skipped, an instrument that stays under its name is reported each time that
its count is above all counts before. A timer is reported every time, and then shows the statistics
of its durations. When nothing is skipped every instrument is reported in full.
-/

namespace Telemetry

/-- The count of the instrument is above all counts of those seen before. -/
def Instrument.Rises (i : Instrument) (seen : List Instrument) : Prop :=
  ∀ k j, i.count? = some k → j ∈ seen.filterMap Instrument.count? → j < k

lemma isOk_of_record? {t : Transformed} {r : Record} (h : t.record? = some r) :
    t.outcome.isOk = true := by
  rw [Transformed.record?] at h
  cases hout : t.outcome with
  | error e =>
    rw [hout] at h
    cases h
  | ok _ => rfl

namespace CycleRun

variable {σ : Type} {m : CycleRun σ}

lemma Tells.still_eq_false_iff (h : m.Tells) (hskip : m.cycle.context.skipIdle = true)
    {name : String} {i : Instrument} {seen : List Instrument} (hmet : m.met name = seen.reverse)
    (hi : i.count? ≠ none) :
    m.cycle.context.still m.cycle.tracking.idle name i = false ↔ i.Rises seen := by
  obtain ⟨k, hk⟩ := Option.ne_none_iff_exists'.1 hi
  rw [← Bool.not_eq_true, h.still_iff hskip hk, hmet]
  simp only [List.filterMap_reverse, List.mem_reverse, not_exists, not_and, Int64.not_le]
  constructor
  · intro hbelow k' j hk' hj
    rw [hk] at hk'
    cases hk'
    exact hbelow j hj
  · intro hrises j hj
    exact hrises k j hk hj

/-- Which instruments a report has records of, if no report of the run is given up. -/
theorem new_highs {settings : Settings} {adapters : List Adapter} {transport : Transport σ}
    {outlet : σ} {c : Cycle σ} (hnew : Cycle.new settings adapters transport outlet = .ok c)
    (registry : Registry) (events : List CycleEvent) (timestamp : Int64)
    (hkept : (start c registry).Kept (events ++ [.report timestamp])) :
    let m := (start c registry).run events
    let tick := m.registry.clock.tick
    m.cycle.offers m.registry timestamp =
      (m.registry.selection m.cycle.filter).filterMap (m.cycle.record? tick timestamp) ∧
    (settings.skipIdle = true → ∀ name serial i,
      (name, ⟨serial, i⟩) ∈ m.registry.selection m.cycle.filter → i.count? ≠ none →
      (m.cycle.look tick timestamp (name, ⟨serial, i⟩)).outcome.isOk = true →
      ∀ free seen, (start c registry).found name events =
        List.replicate free none ++ seen.map (fun j => some ⟨serial, j⟩) →
      ((∀ s, i ≠ .timer s) →
        ((m.cycle.record? tick timestamp (name, ⟨serial, i⟩)).isSome = true ↔ i.Rises seen)) ∧
      ∀ s, i = .timer s → ∃ r, m.cycle.record? tick timestamp (name, ⟨serial, i⟩) = some r ∧
        ((∀ f ∈ Adapter.customs adapters, Adapter.KeepsFields f) →
          r.OfTimer settings.context tick s (i.Rises seen))) ∧
    (settings.skipIdle = false → m.cycle.tracking.idle = .empty ∧
      (m.report timestamp).cycle.tracking.idle = .empty ∧
      ∀ e ∈ m.registry.selection m.cycle.filter, e.2.instrument.count? ≠ none →
        (m.cycle.look tick timestamp e).outcome.isOk = true →
        ∃ r, m.cycle.record? tick timestamp e = some r ∧
          ((∀ f ∈ Adapter.customs adapters, Adapter.KeepsFields f) →
            r.Shows (settings.context.values tick e.2.instrument))) := by
  intro m tick
  obtain ⟨hpast, hlast⟩ := kept_append.1 hkept
  have hstarts := Cycle.starts_of_new hnew
  have halike : m.cycle.Alike c := (start c registry).alike_run events
  have hcontext : m.cycle.context = settings.context := halike.context.trans hstarts.context
  have hfirst : c.context.skipIdle = settings.skipIdle := congrArg _ hstarts.context
  have hnow : m.cycle.context.skipIdle = settings.skipIdle := congrArg _ hcontext
  have hcustoms : Adapter.customs m.cycle.tracking.adapters = Adapter.customs adapters := by
    rw [halike.customs, hstarts.adapters]
  have habort := (kept_report.1 hlast).1
  refine ⟨Cycle.offers_of_kept ((m.cycle.aborted_report _ _).symm.trans habort), ?_, ?_⟩
  · intro hskip name serial i hmem hcount hok free seen hfound
    have htells : m.Tells := (tells_start hstarts.idle registry).run (hfirst.trans hskip) events
    have hname : c.filter.accepts name = true := by
      rw [← halike.filter]
      exact (Registry.mem_selection.1 hmem).2
    have hmet : m.met name = seen.reverse := met_of_stays hpast hname rfl hfound
    have hmoved := htells.still_eq_false_iff (hnow.trans hskip) hmet hcount
    obtain ⟨k, hk⟩ := Option.ne_none_iff_exists'.1 hcount
    constructor
    · intro htimer
      exact (isSome_record?_iff hok hk htimer).trans hmoved
    · rintro s rfl
      obtain ⟨r, hr, hshows⟩ := ofTimer_record? hok
      refine ⟨r, hr, fun h => ?_⟩
      rw [← hcustoms] at h
      rw [← hcontext, ← propext hmoved]
      exact hshows h
  · intro hskip
    have hempty : m.cycle.tracking.idle = .empty :=
      idle_run (hfirst.trans hskip) hstarts.idle events
    refine ⟨hempty, idle_report (hnow.trans hskip) hempty timestamp, ?_⟩
    intro e _ hcount hok
    obtain ⟨k, hk⟩ := Option.ne_none_iff_exists'.1 hcount
    have hmoved : m.cycle.context.still m.cycle.tracking.idle e.1 e.2.instrument = false := by
      rw [Context.still, hnow, hskip, Bool.false_and]
    obtain ⟨r, hr, hshows⟩ := shows_values hok hk hmoved
    rw [hcustoms, hcontext] at hshows
    exact ⟨r, hr, hshows⟩

/-- The counter counts on from `n`, which may be less than before. -/
def recount (n : Int64) : CycleEvent :=
  .change fun r => r.putBack "c" 0 (.counter ⟨n⟩)

def timed : Registry := (Registry.new (.starting 0)).place "t" (.timer (.new 0))

/-- A counter that falls from 100 to 5 is reported again when it has come to 101, and a new timer
shows its statistics although it has not run. -/
theorem new_highs_recovered :
    let fallen := (start relative hundred).run [.report 0, recount 5]
    let risen := (start relative hundred).run [.report 0, recount 5, .report 0, recount 101]
    Cycle.new { Settings.default with skipIdle := true } [.relative]
        ⟨.batch, .milliseconds, ⟨0⟩, ScriptOutlet.send⟩ ⟨[]⟩ = .ok relative ∧
    (start relative hundred).Kept [.report 0, recount 5, .report 0] ∧
    (start relative hundred).Kept [.report 0, recount 5, .report 0, recount 101, .report 0] ∧
    (fallen.cycle.record? 0 0 ("c", ⟨0, .counter ⟨5⟩⟩)).isSome = false ∧
    (risen.cycle.record? 0 0 ("c", ⟨0, .counter ⟨101⟩⟩)).isSome = true ∧
    ∃ r, relative.record? 0 0 ("t", ⟨0, .timer (.new 0)⟩) = some r ∧
      r.fields.contains "count" = true := by
  intro fallen risen
  have hnew : Cycle.new { Settings.default with skipIdle := true } [.relative]
      ⟨.batch, .milliseconds, ⟨0⟩, ScriptOutlet.send⟩ ⟨[]⟩ = .ok relative := rfl
  have hfirst : (start relative hundred).Kept [.report 0, recount 5, .report 0] :=
    kept_report.2 ⟨rfl, kept_change.2 (kept_report.2 ⟨rfl, kept_nil _⟩)⟩
  have hsecond : (start relative hundred).Kept
      [.report 0, recount 5, .report 0, recount 101, .report 0] :=
    kept_report.2 ⟨rfl, kept_change.2 (kept_report.2 ⟨rfl, kept_change.2
      (kept_report.2 ⟨rfl, kept_nil _⟩)⟩)⟩
  have hlow : ("c", ⟨0, .counter ⟨5⟩⟩) ∈ fallen.registry.selection fallen.cycle.filter :=
    List.mem_of_mem_head? rfl
  have hhigh : ("c", ⟨0, .counter ⟨101⟩⟩) ∈ risen.registry.selection risen.cycle.filter :=
    List.mem_of_mem_head? rfl
  obtain ⟨_, hfallen, _⟩ := new_highs hnew hundred [.report 0, recount 5] 0 hfirst
  obtain ⟨_, hrisen, _⟩ :=
    new_highs hnew hundred [.report 0, recount 5, .report 0, recount 101] 0 hsecond
  have hbelow := (hfallen rfl "c" 0 (.counter ⟨5⟩) hlow (Option.some_ne_none _) rfl 0
    [.counter ⟨100⟩] rfl).1 (by simp)
  have habove := (hrisen rfl "c" 0 (.counter ⟨101⟩) hhigh (Option.some_ne_none _) rfl 0
    [.counter ⟨100⟩, .counter ⟨5⟩] rfl).1 (by simp)
  have hok : (relative.look 0 0 ("t", ⟨0, .timer (.new 0)⟩)).outcome.isOk = true := by
    have hname : (relative.context.naming.resolve "t").1 ≠ "" := by decide +kernel
    obtain ⟨r, hr, _⟩ := record?_timer 0 0 (.inr ⟨.empty, rfl⟩ : relative.tracking.Simple) hname
      (.new 0)
    exact isOk_of_record? hr
  have htimed : (start relative timed).Kept [.report 0] := by
    refine kept_report.2 ⟨?_, kept_nil _⟩
    have hwalked := (relative.walked_walk timed 0).aborted
    have hselection : timed.selection relative.filter = [("t", ⟨0, .timer (.new 0)⟩)] := rfl
    rw [Cycle.aborted_report]
    refine hwalked.trans ?_
    have htick : timed.clock.tick = 0 := rfl
    rw [hselection, htick, List.any_cons, Cycle.stops, hok]
    rfl
  have hmem : ("t", ⟨0, .timer (.new 0)⟩) ∈ timed.selection relative.filter :=
    List.mem_of_mem_head? rfl
  obtain ⟨_, htimer, _⟩ := new_highs hnew timed [] 0 htimed
  obtain ⟨r, hr, hshows⟩ := (htimer rfl "t" 0 (.timer (.new 0)) hmem (Option.some_ne_none _) hok 0
    [] rfl).2 _ rfl
  refine ⟨hnew, hfirst, hsecond, ?_, habove.2 ?_, r, hr, (hshows ?_).count.2 ?_⟩
  · rw [← Bool.not_eq_true]
    intro hsome
    have hlt := hbelow.1 hsome 5 100 rfl List.mem_cons_self
    exact absurd hlt (by decide)
  · intro k j hk hj
    cases hk
    have hseen : j ∈ [(100 : Int64), 5] := hj
    simp only [List.mem_cons, List.not_mem_nil, or_false] at hseen
    rcases hseen with rfl | rfl <;> decide
  · intro f hf
    cases hf
  · intro k j _ hj
    cases hj

end CycleRun

end Telemetry
