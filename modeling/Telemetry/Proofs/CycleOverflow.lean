import Telemetry.Proofs.CycleWalk
import Telemetry.Proofs.IdleDelta
import Telemetry.Proofs.ReporterTurns
import Telemetry.Transport.Memory

/-!
# Cycles that end in an overflow

While idle instruments are skipped, a cycle asks for each counting instrument how far its count is
above the baseline. Where differences are checked, the cycle comes to an end exactly if it comes to
no instrument whose count is too far above, and then it is the cycle of wrapping differences.
-/

namespace Telemetry

open Number (Overflow WordArithmetic)

/-- The count that the context follows is too far above its baseline. -/
def Context.Far (ctx : Context) (t : IdleTracker) (name : String) (i : Instrument) : Prop :=
  ctx.skipIdle = true ∧ ∃ count, i.count? = some count ∧ t.Far name count

section Transform

variable {m : WordArithmetic} {ctx : Context} {t u : Tracking} {name : String} {i : Instrument}
  (now : UInt64) (timestamp : Int64)

lemma Context.far_congr (ctx : Context) (i : Instrument) (h : t.AgreeAt name u) :
    ctx.Far t.idle name i ↔ ctx.Far u.idle name i := by
  rw [Context.Far, Context.Far]
  simp only [IdleTracker.Far, h.idle]

lemma transformIn_of_not_far (h : m = .checked → ¬ctx.Far t.idle name i) :
    transformIn m ctx t name now timestamp i = .ok (transform ctx t name now timestamp i) := by
  unfold transformIn
  dsimp only
  split
  · rename_i count hcount
    split
    · rename_i hskip
      obtain ⟨d, hd⟩ : ∃ d, t.idle.delta m name count = .ok d := by
        cases m with
        | wrapping => exact t.idle.delta_wrapping name count
        | checked =>
          obtain ⟨d, hd⟩ := IdleTracker.delta_of_not_far fun hfar =>
            h rfl ⟨hskip, count, hcount, hfar⟩
          exact ⟨d, hd .checked⟩
      rw [hd]
      rfl
    · rfl
  · rfl

lemma transformIn_of_far (h : ctx.Far t.idle name i) :
    ∃ e, transformIn .checked ctx t name now timestamp i = .error e := by
  obtain ⟨hskip, count, hcount, before, hbefore, hfar⟩ := h
  refine ⟨⟨count, before⟩, ?_⟩
  simp only [transformIn, hcount, if_pos hskip,
    IdleTracker.delta_checked_of_far hbefore hfar]
  rfl

end Transform

namespace Walk

variable {m : WordArithmetic} {ctx : Context} {w : Walk} {name : String} {reg : Registration}
  (policy : FailurePolicy) (timestamp : Int64)

lemma visitIn_of_not_far (h : m = .checked → ¬ctx.Far w.tracking.idle name reg.instrument) :
    w.visitIn m ctx policy timestamp name reg = .ok (w.visit ctx policy timestamp name reg) := by
  rw [visitIn, transformIn_of_not_far _ _ h]
  rfl

lemma visitIn_of_far (h : ctx.Far w.tracking.idle name reg.instrument) :
    ∃ e, w.visitIn .checked ctx policy timestamp name reg = .error e := by
  obtain ⟨e, he⟩ := transformIn_of_far w.registry.clock.tick timestamp h
  refine ⟨⟨e, w.registry⟩, ?_⟩
  rw [visitIn, he]

lemma visitAllIn_wrapping (w : Walk) (es : List (String × Registration)) :
    w.visitAllIn .wrapping ctx policy timestamp es =
      .ok (w.visitAll ctx policy timestamp es) := by
  induction es generalizing w with
  | nil => rfl
  | cons e es ih =>
    have hvisit : w.visitIn .wrapping ctx policy timestamp e.1 e.2 =
        .ok (w.visit ctx policy timestamp e.1 e.2) :=
      visitIn_of_not_far policy timestamp nofun
    rw [visitAllIn, hvisit, visitAll]
    dsimp only
    split
    · rfl
    · exact ih _

end Walk

namespace Cycle

variable {σ : Type} {c : Cycle σ} {tick : UInt64}

lemma mem_reached_cons (timestamp : Int64) (e : String × Registration)
    (es : List (String × Registration)) : e ∈ c.reached tick timestamp (e :: es) := by
  rw [reached, upTo]
  split <;> exact List.mem_cons_self

/-- The instruments that are still to come are as they were before the walk. -/
lemma visitAllIn_checked (timestamp : Int64) (w : Walk) (es : List (String × Registration))
    (hw : w.aborted = false) (htick : w.registry.clock.tick = tick)
    (hnodup : (es.map (·.1)).Nodup) (hfresh : ∀ e ∈ es, w.tracking.AgreeAt e.1 c.tracking) :
    let far := ∃ e ∈ c.reached tick timestamp es,
      c.context.Far c.tracking.idle e.1 e.2.instrument
    (far → ∃ e, w.visitAllIn .checked c.context c.policy timestamp es = .error e) ∧
    (¬far → w.visitAllIn .checked c.context c.policy timestamp es =
      .ok (w.visitAll c.context c.policy timestamp es)) := by
  induction es generalizing w with
  | nil => simp [reached, upTo, Walk.visitAllIn, Walk.visitAll]
  | cons e es ih =>
    obtain ⟨_, haborted, _, hother, hregistry⟩ :=
      visit_spec timestamp htick (hfresh e List.mem_cons_self)
    rw [List.map_cons, List.nodup_cons] at hnodup
    rw [hw, Bool.false_or] at haborted
    have hfar := c.context.far_congr e.2.instrument (hfresh e List.mem_cons_self)
    rw [Walk.visitAllIn, Walk.visitAll]
    by_cases hhead : c.context.Far c.tracking.idle e.1 e.2.instrument
    · obtain ⟨overflow, he⟩ := Walk.visitIn_of_far c.policy timestamp (hfar.2 hhead)
      rw [he]
      exact ⟨fun _ => ⟨overflow, rfl⟩,
        fun h => (h ⟨e, mem_reached_cons timestamp e es, hhead⟩).elim⟩
    · rw [Walk.visitIn_of_not_far c.policy timestamp fun _ h => hhead (hfar.1 h)]
      dsimp only
      cases hstop : c.stops tick timestamp e with
      | true =>
        have hreached : c.reached tick timestamp (e :: es) = [e] := by
          rw [reached, upTo, if_pos hstop]
        rw [if_pos (haborted.trans hstop), if_pos (haborted.trans hstop), hreached]
        simp [hhead]
      | false =>
        have hreached : c.reached tick timestamp (e :: es) = e :: c.reached tick timestamp es := by
          rw [reached, upTo, if_neg (by simp [hstop])]
          rfl
        have hclock : (w.visit c.context c.policy timestamp e.1 e.2).registry.clock =
            w.registry.clock := by
          rw [hregistry, Registry.clock_putBack]
        have hgoes : ¬(w.visit c.context c.policy timestamp e.1 e.2).aborted = true := by
          simp [haborted, hstop]
        have hrest := ih _ (haborted.trans hstop) (hclock ▸ htick) hnodup.2 fun d hd => by
          have hne : d.1 ≠ e.1 := fun heq => hnodup.1 (heq ▸ List.mem_map_of_mem hd)
          exact (hother d.1 hne).trans (hfresh d (List.mem_cons_of_mem e hd))
        rw [if_neg hgoes, if_neg hgoes, hreached]
        simpa [hhead] using hrest

/-- The report comes to an instrument whose count is too far above its baseline. -/
def ReachesFar (c : Cycle σ) (r : Registry) (timestamp : Int64) : Prop :=
  ∃ e ∈ c.reached r.clock.tick timestamp (r.selection c.filter),
    c.context.Far c.tracking.idle e.1 e.2.instrument

lemma reportIn_wrapping (c : Cycle σ) (r : Registry) (timestamp : Int64) :
    c.reportIn .wrapping r timestamp = .ok (c.report r timestamp) := by
  rw [reportIn, gatherIn, Walk.visitAllIn_wrapping]
  rfl

lemma reportIn_checked (c : Cycle σ) (r : Registry) (timestamp : Int64) :
    (c.ReachesFar r timestamp → ∃ e, c.reportIn .checked r timestamp = .error e) ∧
    (¬c.ReachesFar r timestamp →
      c.reportIn .checked r timestamp = .ok (c.report r timestamp)) := by
  obtain ⟨hfar, hnear⟩ := visitAllIn_checked (c := c) timestamp (.start r c.tracking)
    (r.selection c.filter) rfl rfl Registry.nodup_selection fun e _ => .refl e.1 c.tracking
  rw [reportIn, gatherIn]
  constructor
  · intro h
    obtain ⟨e, he⟩ := hfar h
    exact ⟨e, by rw [he]; rfl⟩
  · intro h
    rw [hnear h]
    rfl

end Cycle

namespace Reporter

variable {σ : Type}

lemma crash?_wrapping (r : Reporter σ) (e : Event) : r.crash? .wrapping e = none := by
  cases e with
  | begin time =>
    simp only [crash?, Cycle.gatherIn, Walk.visitAllIn_wrapping]
    rfl
  | _ => rfl

lemma runUntilIn_of_due? {m : WordArithmetic} {r : Reporter σ} {limit : Nat} {e : Event}
    (h : r.due? limit = some e) :
    r.runUntilIn m limit = match r.crash? m e with
      | some left => .error left
      | none => (r.perform e).runUntilIn m limit := by
  rw [runUntilIn]
  split
  case h_1 e' h' =>
    obtain rfl := Option.some.inj (h.symm.trans h')
    cases r.crash? m e <;> rfl
  case h_2 h' => simp [h] at h'

lemma runUntilIn_of_resting {m : WordArithmetic} {r : Reporter σ} {limit : Nat}
    (h : r.due? limit = none) : r.runUntilIn m limit = .ok r := by
  rw [runUntilIn]
  split
  case h_1 e h' => simp [h] at h'
  case h_2 => rfl

/-- Nothing stops a reporter where differences wrap, and elsewhere it is the same up to an
overflow. -/
theorem runUntilIn_eq (r : Reporter σ) (limit : Nat) :
    r.runUntilIn .wrapping limit = .ok (r.runUntil limit) ∧
    ∀ m next, r.runUntilIn m limit = .ok next → next = r.runUntil limit := by
  induction r using runUntil.induct limit with
  | case1 r e hdue ih =>
    obtain ⟨hwrapping, hany⟩ := ih
    rw [runUntil_of_due? hdue]
    constructor
    · rw [runUntilIn_of_due? hdue, crash?_wrapping]
      exact hwrapping
    · intro m next hnext
      rw [runUntilIn_of_due? hdue] at hnext
      cases hcrash : r.crash? m e with
      | some left => simp [hcrash] at hnext
      | none => exact hany m next (by simpa [hcrash] using hnext)
  | case2 r hdue =>
    rw [runUntil_of_resting hdue]
    refine ⟨runUntilIn_of_resting hdue, fun m next hnext => ?_⟩
    rw [runUntilIn_of_resting hdue] at hnext
    exact (Except.ok.inj hnext).symm

end Reporter

/-- All differences that a word can hold are exact, and no others: where differences are checked
they are an overflow, for the delta, the check and the report, and otherwise they wrap. Any word can
be a baseline. -/
theorem exact_unless_far (t : IdleTracker) (name : String) (count : Int64) :
    (∀ m, t.delta m name count = .ok none ↔ t.previous name = none) ∧
    (∀ before, t.previous name = some before →
      (count < before → ∀ m, t.delta m name count = .ok (some 0)) ∧
      (before ≤ count → count.toInt - before.toInt < 2 ^ 63 →
        ∃ d, d.toInt = count.toInt - before.toInt ∧ 0 ≤ d ∧
          ∀ m, t.delta m name count = .ok (some d)) ∧
      (2 ^ 63 ≤ count.toInt - before.toInt →
        t.delta .checked name count = .error ⟨count, before⟩ ∧
        ∃ d, d.toInt = count.toInt - before.toInt - 2 ^ 64 ∧ d < 0 ∧
          t.delta .wrapping name count = .ok (some d))) ∧
    (∀ m, t.check m name count =
      (t.delta m name count).map fun _ => (t.idle name count, t.observe name count)) ∧
    (∀ m, IdleTracker.empty.check m name count =
        .ok (false, IdleTracker.empty.observe name count) ∧
      (IdleTracker.empty.observe name count).previous name = some count) ∧
    ∀ {σ : Type} (c : Cycle σ) (r : Registry) (timestamp : Int64),
      c.reportIn .wrapping r timestamp = .ok (c.report r timestamp) ∧
      (c.ReachesFar r timestamp → ∃ e, c.reportIn .checked r timestamp = .error e) ∧
      (¬c.ReachesFar r timestamp →
        c.reportIn .checked r timestamp = .ok (c.report r timestamp)) := by
  refine ⟨fun m => IdleTracker.delta_eq_none_iff, fun before h => ⟨?_, ?_, ?_⟩,
    fun m => t.check_eq m name count, fun m => IdleTracker.check_empty m name count,
    fun c r timestamp => ⟨c.reportIn_wrapping r timestamp, c.reportIn_checked r timestamp⟩⟩
  · exact fun hlt m => IdleTracker.delta_of_lt h hlt
  · exact IdleTracker.delta_of_near h
  · exact fun hfar => ⟨IdleTracker.delta_checked_of_far h hfar,
      IdleTracker.delta_wrapping_of_far h hfar⟩

def skipping : Cycle MemoryOutlet :=
  (Cycle.new { Settings.default with skipIdle := true } []
    (MemoryOutlet.transport .batch .seconds) .new).toOption.get rfl

/-- A counter is below zero when it is first reported and counts up to the greatest word. -/
theorem exact_unless_far_counted :
    let t := IdleTracker.empty.observe "m" (-1)
    let below := (Registry.new (.starting 0)).place "m" (.counter ⟨-1⟩)
    let above := (Registry.new (.starting 0)).place "m" (.counter ⟨Int64.maxValue⟩)
    let c := (skipping.report below 1).cycle
    t.previous "m" = some (-1) ∧ c.tracking.idle = t ∧
      t.delta .checked "m" Int64.maxValue = .error ⟨Int64.maxValue, -1⟩ ∧
      t.check .checked "m" Int64.maxValue = .error ⟨Int64.maxValue, -1⟩ ∧
      ∃ e, c.reportIn .checked above 2 = .error e := by
  intro t below above c
  obtain ⟨_, _, _, hfirst, _⟩ := exact_unless_far .empty "m" (-1)
  have hbaseline : t.previous "m" = some (-1) := (hfirst .checked).2
  have htracker : c.tracking.idle = t := by decide +kernel
  have hfar : 2 ^ 63 ≤ Int64.maxValue.toInt - (-1 : Int64).toInt := by decide
  obtain ⟨_, hdelta, hcheck, _, hreport⟩ := exact_unless_far t "m" Int64.maxValue
  obtain ⟨_, _, hover⟩ := hdelta (-1) hbaseline
  have hreaches : c.ReachesFar above 2 := by
    refine ⟨_, Cycle.mem_reached_cons 2 ("m", ⟨0, .counter ⟨Int64.maxValue⟩⟩) [], rfl, _, rfl, -1,
      ?_, hfar⟩
    rw [htracker, hbaseline]
  refine ⟨hbaseline, htracker, (hover hfar).1, ?_, (hreport c above 2).2.1 hreaches⟩
  rw [hcheck, (hover hfar).1]
  rfl

end Telemetry
