import Telemetry.Proofs.CycleRuns
import Telemetry.Transport.Script

/-!
# When an instrument starts over

A cycle that skips idle instruments goes by names, not by registrations. An instrument is reported as
one never seen before when its count is above all counts that reports have come to under its name
since one found nothing there. So an instrument registered again starts over in any case only if a
report ran while its name was free.
-/

namespace Telemetry

namespace CycleRun

variable {σ : Type}

lemma recalls_start {settings : Settings} {adapters : List Adapter} {transport : Transport σ}
    {outlet : σ} {c : Cycle σ} (hnew : Cycle.new settings adapters transport outlet = .ok c)
    (hadapters : adapters = [] ∨ adapters = [.relative]) (registry : Registry) :
    (start c registry).Recalls settings.context adapters.length := by
  rw [Cycle.new] at hnew
  split at hnew
  · cases hnew
  · cases hnew
    refine ⟨rfl, ?_, rfl, fun name => ⟨IdleTracker.knows_nil rfl, fun previous h => ?_⟩⟩
    · rcases hadapters with rfl | rfl
      · exact .inl rfl
      · exact .inr ⟨.empty, rfl⟩
    · rcases hadapters with rfl | rfl
      · cases h
      · cases h
        rfl

/-- The same cycle, had it never seen an instrument. -/
def fresh (c : Cycle σ) : Cycle σ := { c with tracking := c.tracking.blank }

/-- A first observation: nothing is held back, and a relative count is the whole count. -/
lemma fresh_record {c : Cycle σ} (hsimple : c.tracking.Simple) (tick : UInt64)
    (timestamp : Int64) {e : String × Registration}
    (hname : (c.context.naming.resolve e.1).1 ≠ "") {k : Int64}
    (hk : e.2.instrument.count? = some k) :
    ∃ r, (fresh c).record? tick timestamp e = some r ∧
      (∀ s, e.2.instrument = .timer s → r.fields.contains "count" = true) ∧
      (∀ b, c.tracking.adapters ≠ [] → e.2.instrument = .counter b →
        r.fields.get? "relativeCount" = some (FieldValue.integer b.count).token) := by
  have hstill : c.context.still c.tracking.blank.idle e.1 e.2.instrument = false :=
    Tracking.still_blank
  by_cases hcounter : ∃ b, e.2.instrument = .counter b
  · obtain ⟨b, hb⟩ := hcounter
    rw [hb] at hstill
    obtain ⟨r, hr, hrelative⟩ :=
      relativeCount_of_moved tick timestamp hsimple.blank hname hstill
    refine ⟨r, ?_, fun s hs => ?_, fun b' hne hb' => ?_⟩
    · rw [Cycle.record?, Cycle.look, hb]
      exact hr
    · rw [hb] at hs
      cases hs
    · rw [hb] at hb'
      cases hb'
      obtain ⟨previous, hprevious⟩ := hsimple.resolve_left hne
      obtain ⟨q, hq, hnone⟩ := Tracking.blank_adapters_single e.1 hprevious
      rw [hrelative, Tracking.relative?_single hq, hnone, Option.getD_none,
        Adapter.movement_zero, Option.map_some]
  · by_cases htimer : ∃ s, e.2.instrument = .timer s
    · obtain ⟨s, hs⟩ := htimer
      rw [hs] at hstill
      obtain ⟨r, hr, hcount⟩ := record?_timer tick timestamp hsimple.blank hname s
      refine ⟨r, ?_, fun _ _ => ?_, fun b _ hb => absurd ⟨b, hb⟩ hcounter⟩
      · rw [Cycle.record?, Cycle.look, hs]
        exact hr
      · rw [hcount, hstill]
        rfl
    · obtain ⟨r, hr⟩ := record?_of_moved tick timestamp hsimple.blank hname hk hstill
      exact ⟨r, hr, fun s hs => absurd ⟨s, hs⟩ htimer, fun b _ hb => absurd ⟨b, hb⟩ hcounter⟩

/-- Whether an instrument is reported as one never seen before, whatever happened to its name. -/
theorem starts_over_iff {settings : Settings} {adapters : List Adapter}
    {transport : Transport σ} {outlet : σ} {c : Cycle σ}
    (hnew : Cycle.new settings adapters transport outlet = .ok c)
    (hskip : settings.skipIdle = true) (hadapters : adapters = [] ∨ adapters = [.relative])
    (registry : Registry) (events : List CycleEvent) (timestamp : Int64) :
    let m := (start c registry).run events
    let tick := m.registry.clock.tick
    let gathered := m.cycle.gather m.registry timestamp
    (gathered.report.aborted = false → gathered.cycle.sender = m.cycle.sender.offerAll
      ((m.registry.selection m.cycle.filter).filterMap (m.cycle.record? tick timestamp))) ∧
    ∀ e ∈ m.registry.selection m.cycle.filter,
      (m.cycle.record? tick timestamp e = (fresh m.cycle).record? tick timestamp e ↔
        (settings.naming.resolve e.1).1 = "" ∨
        (∀ k, e.2.instrument.count? = some k → outdone (m.met e.1) k = false) ∧
        (∀ b, adapters = [.relative] → e.2.instrument = .counter b →
          Adapter.movement ((lastRise (m.met e.1)).getD 0) b.count = b.count)) ∧
      ((settings.naming.resolve e.1).1 ≠ "" → ∀ k, e.2.instrument.count? = some k →
        ∃ r, (fresh m.cycle).record? tick timestamp e = some r ∧
          (∀ s, e.2.instrument = .timer s → r.fields.contains "count" = true) ∧
          (∀ b, adapters = [.relative] → e.2.instrument = .counter b →
            r.fields.get? "relativeCount" = some (FieldValue.integer b.count).token)) := by
  intro m tick gathered
  have hrecalls : m.Recalls settings.context adapters.length :=
    (recalls_start hnew hadapters registry).run hskip events
  have hsingle : adapters = [.relative] ↔ m.cycle.tracking.adapters ≠ [] := by
    rw [ne_eq, ← List.length_eq_zero_iff, hrecalls.length, List.length_eq_zero_iff]
    rcases hadapters with rfl | rfl <;> simp
  refine ⟨fun habort => ?_, fun e _ => ⟨?_, fun hname k hk => ?_⟩⟩
  · have hsender := (m.cycle.settles_gather m.registry timestamp).sender
    rwa [if_neg (by simpa using habort)] at hsender
  · have hiff : (fresh m.cycle).record? tick timestamp e = m.cycle.record? tick timestamp e ↔
        (m.cycle.context.naming.resolve e.1).1 = "" ∨
          ¬m.cycle.tracking.blank.Parts m.cycle.context e.1 e.2.instrument m.cycle.tracking :=
      record?_eq_iff_of_agree tick timestamp hrecalls.simple.blank hrecalls.simple (.refl _ _)
    rw [eq_comm, hiff, Tracking.blank_parts_iff hrecalls.simple, hrecalls.context,
      (hrecalls.recalls e.1).still_iff hskip, not_or]
    refine or_congr Iff.rfl (and_congr ?_ ?_)
    · simp
    · constructor
      · intro h b hb hcounter
        obtain ⟨previous, hprevious⟩ := hrecalls.simple.resolve_left (hsingle.1 hb)
        rw [← (hrecalls.recalls e.1).counts previous hprevious]
        by_contra hne
        exact h ⟨b, previous, hcounter, hprevious, hne⟩
      · rintro h ⟨b, previous, hcounter, hprevious, hne⟩
        have hb : adapters = [.relative] := hsingle.2 (by rw [hprevious]; simp)
        rw [(hrecalls.recalls e.1).counts previous hprevious] at hne
        exact hne (h b hb hcounter)
  · obtain ⟨r, hr, htimer, hcounter⟩ := fresh_record hrecalls.simple tick timestamp
      (hrecalls.context ▸ hname) hk
    exact ⟨r, hr, htimer, fun b hb => hcounter b (hsingle.1 hb)⟩

/-- Skips idle instruments and adds relative counts. -/
def relative : Cycle ScriptOutlet :=
  (Cycle.new { Settings.default with skipIdle := true } [.relative]
    ⟨.batch, .milliseconds, ⟨0⟩, ScriptOutlet.send⟩ ⟨[]⟩).toOption.get rfl

/-- A counter counts 100, is removed and counts 5 when registered again. -/
def removal (between : List CycleEvent) : List CycleEvent :=
  [.report 0, .change fun r => (r.remove "c").2] ++ between ++
    [.change fun r => r.place "c" (.counter ⟨5⟩)]

def hundred : Registry := (Registry.new (.starting 0)).place "c" (.counter ⟨100⟩)

def again (between : List CycleEvent) : CycleRun ScriptOutlet :=
  (start relative hundred).run (removal between)

def second : String × Registration := ("c", ⟨1, .counter ⟨5⟩⟩)

/-- Nothing is reported of the second counter, unless a report ran in between. -/
theorem starts_over_iff_again :
    Cycle.new { Settings.default with skipIdle := true } [.relative]
        ⟨.batch, .milliseconds, ⟨0⟩, ScriptOutlet.send⟩ ⟨[]⟩ = .ok relative ∧
    second ∈ (again []).registry.selection (again []).cycle.filter ∧
    second ∈ (again [.report 0]).registry.selection (again [.report 0]).cycle.filter ∧
    (again []).cycle.record? (again []).registry.clock.tick 0 second ≠
      (fresh (again []).cycle).record? (again []).registry.clock.tick 0 second ∧
    (again [.report 0]).cycle.record? (again [.report 0]).registry.clock.tick 0 second =
      (fresh (again [.report 0]).cycle).record? (again [.report 0]).registry.clock.tick 0 second := by
  have hnew : Cycle.new { Settings.default with skipIdle := true } [.relative]
      ⟨.batch, .milliseconds, ⟨0⟩, ScriptOutlet.send⟩ ⟨[]⟩ = .ok relative := rfl
  have hsoon : second ∈ (again []).registry.selection (again []).cycle.filter :=
    List.mem_of_mem_head? rfl
  have hlate : second ∈ (again [.report 0]).registry.selection (again [.report 0]).cycle.filter :=
    List.mem_of_mem_head? rfl
  have hall (between : List CycleEvent)
      (h : second ∈ (again between).registry.selection (again between).cycle.filter) :
      (again between).cycle.record? (again between).registry.clock.tick 0 second =
          (fresh (again between).cycle).record? (again between).registry.clock.tick 0 second ↔ _ :=
    ((starts_over_iff hnew rfl (.inr rfl) hundred (removal between) 0).2 second h).1
  refine ⟨hnew, hsoon, hlate, fun heq => ?_, (hall [.report 0] hlate).2 (.inr ⟨?_, ?_⟩)⟩
  · rcases (hall [] hsoon).1 heq with hname | ⟨hcounts, _⟩
    · exact absurd hname (by decide +kernel)
    · have hout : outdone ((again []).met "c") 5 = true := by decide +kernel
      exact absurd (hout.symm.trans (hcounts 5 rfl)) (by decide)
  · intro k hk
    cases hk
    have hout : outdone ((again [.report 0]).met "c") 5 = false := by decide +kernel
    exact hout
  · intro b _ hb
    cases hb
    have hrise : lastRise ((again [.report 0]).met "c") = none := by decide +kernel
    have hmovement : Adapter.movement ((lastRise ((again [.report 0]).met "c")).getD 0) 5 = 5 := by
      rw [hrise]
      exact Adapter.movement_zero 5
    exact hmovement

end CycleRun

end Telemetry
