import Telemetry.Proofs.CycleWalk
import Telemetry.Proofs.TransformTracking
import Telemetry.Transport.Script

/-!
# What an aborted cycle costs

A cycle that is given up sends nothing, but it has looked at the instruments before the one that
failed. Their counts are remembered as if they had been reported, so the next report takes the same
counts for idle and measures relative counts from them.
-/

namespace Telemetry

namespace Context

variable {ctx : Context} {t : IdleTracker} {name : String} {seen : Instrument}

lemma look_of_still (hs : ctx.still t name seen = true) : ctx.look t name seen = t := by
  rw [still, Bool.and_eq_true] at hs
  rw [look, if_pos hs.1]
  cases hk : seen.count? with
  | none => rfl
  | some k =>
    have hidle : t.idle name k = true := by simpa [hk] using hs.2
    rw [Option.elim_some, IdleTracker.observe, if_pos hidle]

/-- After a look at an instrument that has moved, the counts up to its own are idle. -/
lemma still_look_of_moved (hs : ctx.still t name seen = false) (now : Instrument) :
    ctx.still (ctx.look t name seen) name now = true ↔
      ctx.still t name now = true ∨
        ctx.skipIdle = true ∧ ∃ j k, seen.count? = some j ∧ now.count? = some k ∧ k ≤ j := by
  cases hskip : ctx.skipIdle with
  | false => simp [still, hskip]
  | true =>
    rw [look, if_pos hskip]
    cases hj : seen.count? with
    | none => simp
    | some j =>
      have hidle : t.idle name j = false := by simpa [still, hskip, hj] using hs
      have hprevious : (t.observe name j).previous name = some j := by
        rw [IdleTracker.previous_observe, if_pos ⟨rfl, by simp [hidle]⟩]
      rw [Option.elim_some, IdleTracker.still_iff, IdleTracker.still_iff, hprevious]
      constructor
      · rintro ⟨_, k, b, hk, hb, hle⟩
        exact .inr ⟨rfl, j, k, rfl, hk, Option.some.inj hb ▸ hle⟩
      · rintro (⟨_, k, b, hk, hb, hle⟩ | ⟨_, _, k, hj', hk, hle⟩)
        · have hlt : b < j := by
            rw [← Int64.not_le]
            intro hjb
            have htrue := IdleTracker.idle_iff.2 ⟨b, hb, hjb⟩
            rw [hidle] at htrue
            cases htrue
          exact ⟨hskip, k, j, hk, rfl, Int64.le_trans hle (Int64.le_of_lt hlt)⟩
        · exact ⟨hskip, k, j, hk, rfl, Option.some.inj hj' ▸ hle⟩

end Context

namespace Cycle

variable {σ : Type} {c : Cycle σ} {name : String}

/-- The cycle takes the instrument for idle. -/
def Idle (c : Cycle σ) (name : String) (i : Instrument) : Prop :=
  c.context.skipIdle = true ∧
    ∃ k b, i.count? = some k ∧ c.tracking.idle.previous name = some b ∧ k ≤ b

/-- Having looked at `seen`, the cycle makes a different record of `now`. -/
def Spent (c : Cycle σ) (name : String) (seen now : Instrument) : Prop :=
  ¬c.Idle name seen ∧ ¬c.Idle name now ∧
  ((c.context.skipIdle = true ∧ ∃ j k, seen.count? = some j ∧ now.count? = some k ∧ k ≤ j) ∨
    ∃ a b previous, seen = .counter a ∧ now = .counter b ∧
      c.tracking.adapters = [.relativeCounts previous] ∧
      Adapter.movement a.count b.count ≠
        Adapter.movement ((previous.get? name).getD 0) b.count)

/-- The cycle does not treat the instrument as one that it has never seen. -/
def Stale (c : Cycle σ) (name : String) (now : Instrument) : Prop :=
  (c.context.naming.resolve name).1 ≠ "" ∧
  (c.Idle name now ∨
    ∃ b previous, now = .counter b ∧ c.tracking.adapters = [.relativeCounts previous] ∧
      Adapter.movement ((previous.get? name).getD 0) b.count ≠ b.count)

lemma idle_iff_still {i : Instrument} :
    c.Idle name i ↔ c.context.still c.tracking.idle name i = true :=
  IdleTracker.still_iff.symm

lemma not_idle_iff {i : Instrument} :
    ¬c.Idle name i ↔ c.context.still c.tracking.idle name i = false := by
  rw [idle_iff_still, Bool.not_eq_true]

lemma parts_iff_spent (hsimple : c.tracking.Simple) (tick : UInt64) (timestamp : Int64)
    (seen now : Instrument) :
    (transform c.context c.tracking name tick timestamp seen).tracking.Parts c.context name now
        c.tracking ↔ c.Spent name seen now := by
  rw [Spent, not_idle_iff, not_idle_iff, Tracking.Parts, idle_transform]
  cases hseen : c.context.still c.tracking.idle name seen with
  | true =>
    have hrelative (k : Int64) :=
      Tracking.relative?_transform_same tick timestamp (.inr hseen) k
    simp [Context.look_of_still hseen, hrelative]
  | false =>
    have hlook := Context.still_look_of_moved hseen now
    constructor
    · rintro (hne | ⟨hstill, b, rfl, hne⟩)
      · have hnow : c.context.still c.tracking.idle name now = false := by
          rw [← Bool.not_eq_true]
          intro hnow
          exact hne ((hlook.2 (.inl hnow)).trans hnow.symm)
        have hmoved := hlook.1 (by simpa [hnow] using hne)
        exact ⟨rfl, hnow, .inl (hmoved.resolve_left (by simp [hnow]))⟩
      · have hnow : c.context.still c.tracking.idle name (.counter b) = false := by
          rw [← Bool.not_eq_true]
          intro hnow
          rw [hlook.2 (.inl hnow)] at hstill
          cases hstill
        refine ⟨rfl, hnow, .inr ?_⟩
        by_cases hcounter : ∃ a, seen = .counter a
        · obtain ⟨a, rfl⟩ := hcounter
          rw [Tracking.relative?_transform_counter tick timestamp hsimple hseen] at hne
          rcases hsimple with h | ⟨previous, h⟩
          · rw [Tracking.relative?_nil h] at hne
            exact absurd rfl hne
          · rw [Tracking.relative?_single h, Option.map_some, ne_eq, Option.some_inj] at hne
            exact ⟨a, b, previous, rfl, rfl, h, hne⟩
        · rw [Tracking.relative?_transform_same tick timestamp
            (.inl fun a ha => hcounter ⟨a, ha⟩)] at hne
          exact absurd rfl hne
    · rintro ⟨_, hnow, h⟩
      cases hstill : c.context.still (c.context.look c.tracking.idle name seen) name now with
      | true => exact .inl (by simp [hnow])
      | false =>
        rcases h with h | ⟨a, b, previous, rfl, rfl, hadapters, hne⟩
        · rw [hlook.2 (.inr h)] at hstill
          cases hstill
        · refine .inr ⟨rfl, b, rfl, ?_⟩
          rw [Tracking.relative?_transform_counter tick timestamp hsimple hseen,
            Tracking.relative?_single hadapters, Option.map_some, ne_eq, Option.some_inj]
          exact hne

/-- An instrument that was looked at without an error has a name, if it moved. -/
lemma named_of_look {e : String × Registration} {tick : UInt64} {timestamp : Int64}
    (hsimple : c.tracking.Simple) (hok : (c.look tick timestamp e).outcome.isOk = true) {k : Int64}
    (hk : e.2.instrument.count? = some k) (hmoved : ¬c.Idle e.1 e.2.instrument) :
    (c.context.naming.resolve e.1).1 ≠ "" := by
  rw [not_idle_iff] at hmoved
  have hd := Reading.draft_of_moved tick timestamp hk hmoved
  intro hempty
  rw [look, outcome_of_unnamed hsimple hempty hd] at hok
  cases hok

/-- What an aborted report has left of an instrument is its count. -/
lemma count?_report (r : Registry) (timestamp : Int64) (name : String) :
    ((c.report r timestamp).registry.get? name).map (fun i => (i.kind, i.count?)) =
      (r.get? name).map fun i => (i.kind, i.count?) := by
  have hsettles := c.settles_gather r timestamp
  rw [(c.report_eq_gather r timestamp).2.1, Registry.get?_eq, Registry.get?_eq]
  by_cases hmem : name ∈ (c.reached r.clock.tick timestamp (r.selection c.filter)).map (·.1)
  · obtain ⟨e, he, rfl⟩ := List.mem_map.1 hmem
    have hget := (Registry.mem_selection.1 (upTo_sublist.subset he)).1
    rw [(hsettles.seen e he).2, hget, Option.map_some, Option.map_some, Option.map_some,
      Option.map_some, look, kind_transform, count?_transform]
  · rw [(hsettles.unseen name hmem).1]

/-- The instruments of a cycle that is given up, cut at the one that failed. -/
lemma selection_of_aborted {r : Registry} {timestamp : Int64} (hpolicy : c.policy = .abortCycle)
    (haborted : (c.gather r timestamp).report.aborted = true) :
    ∃ before failing after,
      r.selection c.filter = before ++ failing :: after ∧
      (∀ e ∈ before, (c.look r.clock.tick timestamp e).outcome.isOk = true) ∧
      (c.look r.clock.tick timestamp failing).outcome.isOk = false ∧
      c.reached r.clock.tick timestamp (r.selection c.filter) = before ++ [failing] := by
  have hsettles := c.settles_gather r timestamp
  obtain ⟨before, failing, after, hselection, hbefore, hfailing, hreached⟩ :=
    upTo_of_any (hsettles.aborted ▸ haborted)
  refine ⟨before, failing, after, hselection, fun e he => ?_, ?_, hreached⟩
  · have hstop : c.stops r.clock.tick timestamp e = false := by
      simpa using List.any_eq_false.1 hbefore e he
    simpa [stops, hpolicy] using hstop
  · simpa [stops, hpolicy] using hfailing

section Next

variable {r : Registry} {timestamp : Int64} (tick : UInt64) (later : Int64)

lemma record?_gather_iff {u : Tracking} (now : Registration) (hu : u.Simple)
    (hsimple : c.tracking.Simple) (h : (c.gather r timestamp).cycle.tracking.AgreeAt name u) :
    (c.gather r timestamp).cycle.record? tick later (name, now) =
        c.record? tick later (name, now) ↔
      (c.context.naming.resolve name).1 = "" ∨
        ¬u.Parts c.context name now.instrument c.tracking :=
  record?_eq_iff_of_agree tick later hu hsimple h

/-- An instrument that the cycle has looked at loses what is spent on it. -/
lemma record?_gather_seen {seen : Registration} (now : Registration) (hsimple : c.tracking.Simple)
    (hreached : (name, seen) ∈ c.reached r.clock.tick timestamp (r.selection c.filter))
    (hok : (c.look r.clock.tick timestamp (name, seen)).outcome.isOk = true) :
    (c.gather r timestamp).cycle.record? tick later (name, now) =
        c.record? tick later (name, now) ↔
      ¬c.Spent name seen.instrument now.instrument := by
  have hlook : (c.gather r timestamp).cycle.tracking.AgreeAt name (transform c.context
      c.tracking name r.clock.tick timestamp seen.instrument).tracking :=
    ((c.settles_gather r timestamp).seen (name, seen) hreached).1
  rw [record?_gather_iff tick later now (hsimple.transform _ _) hsimple hlook,
    parts_iff_spent hsimple]
  constructor
  · intro h hspent
    have hcount : ∃ k, seen.instrument.count? = some k := by
      rcases hspent.2.2 with ⟨_, j, _, hj, _⟩ | ⟨a, _, _, ha, _⟩
      · exact ⟨j, hj⟩
      · exact ⟨a.count, by rw [ha]; rfl⟩
    obtain ⟨k, hk⟩ := hcount
    exact h.resolve_left (named_of_look (e := (name, seen)) hsimple hok hk hspent.1) hspent
  · exact .inr

/-- An instrument that the cycle has not come to loses nothing. -/
lemma record?_gather_live (now : Registration) (hlive : name ∈ (r.selection c.filter).map (·.1))
    (hunseen : name ∉ (c.reached r.clock.tick timestamp (r.selection c.filter)).map (·.1)) :
    (c.gather r timestamp).cycle.record? tick later (name, now) =
      c.record? tick later (name, now) := by
  have hagree := ((c.settles_gather r timestamp).unseen name hunseen).2.1 hlive
  exact congrArg (·.toOption.join)
    (transform_congr c.context tick later now.instrument hagree).1

/-- A name without an instrument is forgotten. -/
lemma record?_gather_gone (now : Registration) (hsimple : c.tracking.Simple)
    (hgone : name ∉ (r.selection c.filter).map (·.1))
    (hunseen : name ∉ (c.reached r.clock.tick timestamp (r.selection c.filter)).map (·.1)) :
    (c.gather r timestamp).cycle.record? tick later (name, now) =
        c.record? tick later (name, now) ↔
      ¬c.Stale name now.instrument := by
  have hagree := ((c.settles_gather r timestamp).unseen name hunseen).2.2 hgone
  rw [record?_gather_iff tick later now hsimple.blank hsimple hagree,
    Tracking.blank_parts_iff hsimple, ← idle_iff_still, Stale, not_and_or, not_not]

end Next

/-- After a report that was given up, the records of the instruments are the same as without it
except for movement that it has used up. Otherwise it has only forgotten names that were gone. -/
theorem record?_after_abort (c : Cycle σ) (r : Registry) (timestamp : Int64)
    (hpolicy : c.policy = .abortCycle) (hsimple : c.tracking.Simple)
    (haborted : (c.report r timestamp).report.aborted = true) :
    ∃ before failing after,
      r.selection c.filter = before ++ failing :: after ∧
      (∀ e ∈ before, (c.look r.clock.tick timestamp e).outcome.isOk = true) ∧
      (c.look r.clock.tick timestamp failing).outcome.isOk = false ∧
      (c.report r timestamp).cycle.sender = c.sender ∧
      (∀ name, ((c.report r timestamp).registry.get? name).map (fun i => (i.kind, i.count?)) =
        (r.get? name).map fun i => (i.kind, i.count?)) ∧
      ∀ (next : Registry) (later : Int64),
        (∀ d ∈ [c, (c.report r timestamp).cycle],
          (d.gather next later).cycle.sender =
            c.sender.offerAll (if (d.gather next later).report.aborted then [] else
              (next.selection c.filter).filterMap (d.record? next.clock.tick later))) ∧
        ∀ e ∈ next.selection c.filter, e.1 ≠ failing.1 →
          ((c.report r timestamp).cycle.record? next.clock.tick later e =
              c.record? next.clock.tick later e ↔
            (∀ seen, (e.1, seen) ∈ before →
              ¬c.Spent e.1 seen.instrument e.2.instrument) ∧
            (e.1 ∉ (r.selection c.filter).map (·.1) → ¬c.Stale e.1 e.2.instrument)) := by
  have hgather : (c.gather r timestamp).report.aborted = true :=
    (c.report_eq_gather r timestamp).1 ▸ haborted
  obtain ⟨before, failing, after, hselection, hok, hbad, hreached⟩ :=
    selection_of_aborted hpolicy hgather
  have hsender : (c.gather r timestamp).cycle.sender = c.sender := by
    rw [(c.settles_gather r timestamp).sender, if_pos hgather]
    rfl
  have hcycle : (c.report r timestamp).cycle = (c.gather r timestamp).cycle := by
    rw [report_of_aborted c r timestamp hgather]
  refine ⟨before, failing, after, hselection, hok, hbad, by rw [hcycle, hsender],
    count?_report r timestamp, fun next later => ⟨fun d hd => ?_, fun e _ hne => ?_⟩⟩
  · have hd' : d.sender = c.sender ∧ d.filter = c.filter := by
      rcases List.mem_cons.1 hd with rfl | hd
      · exact ⟨rfl, rfl⟩
      · rw [List.mem_singleton.1 hd, hcycle]
        exact ⟨hsender, rfl⟩
    rw [(d.settles_gather next later).sender, hd'.1, hd'.2]
  · rw [hcycle]
    obtain ⟨name, now⟩ := e
    by_cases hvisited : ∃ seen, (name, seen) ∈ before
    · obtain ⟨seen, hseen⟩ := hvisited
      have hmem {other : Registration} (h : (name, other) ∈ before) :
          (name, other) ∈ r.selection c.filter := hselection ▸ List.mem_append_left _ h
      have hlive : name ∈ (r.selection c.filter).map (·.1) :=
        List.mem_map_of_mem (f := (·.1)) (hmem hseen)
      -- the names of a selection are distinct, so `seen` is the only one
      have hunique (other : Registration) (h : (name, other) ∈ before) : other = seen := by
        have hother := (Registry.mem_selection.1 (hmem h)).1
        rw [(Registry.mem_selection.1 (hmem hseen)).1] at hother
        exact (Option.some.inj hother).symm
      rw [record?_gather_seen _ _ now hsimple
        (hreached ▸ List.mem_append_left _ hseen) (hok _ hseen)]
      constructor
      · intro h
        exact ⟨fun other hother => hunique other hother ▸ h, fun hgone => absurd hlive hgone⟩
      · intro h
        exact h.1 seen hseen
    · have hunseen :
          name ∉ (c.reached r.clock.tick timestamp (r.selection c.filter)).map (·.1) := by
        rw [hreached]
        intro h
        obtain ⟨d, hd, rfl⟩ := List.mem_map.1 h
        rcases List.mem_append.1 hd with hd | hd
        · exact hvisited ⟨d.2, hd⟩
        · exact hne (congrArg (·.1) (List.mem_singleton.1 hd))
      have hnever (seen : Registration) (h : (name, seen) ∈ before) :
          ¬c.Spent name seen.instrument now.instrument := absurd ⟨seen, h⟩ hvisited
      by_cases hlive : name ∈ (r.selection c.filter).map (·.1)
      · have hsame := record?_gather_live next.clock.tick later now hlive hunseen
        exact ⟨fun _ => ⟨hnever, fun hgone => absurd hlive hgone⟩, fun _ => hsame⟩
      · rw [record?_gather_gone _ _ now hsimple hlive hunseen]
        exact ⟨fun h => ⟨hnever, fun _ => h⟩, fun h => h.2 hlive⟩

/-- Skips idle instruments and takes tags from names. -/
def keyed : Cycle ScriptOutlet :=
  (Cycle.new { Settings.default with skipIdle := true, scheme := .keyValue } []
    ⟨.batch, .milliseconds, ⟨0⟩, ScriptOutlet.send⟩ ⟨[]⟩).toOption.get rfl

/-- Two counters, the second of which has no name for its record. -/
def unnamedPair : Registry :=
  ((Registry.new (.starting 0)).place "a" (.counter ⟨5⟩)).place "x.y." (.counter ⟨1⟩)

/-- The count of the first counter is never reported, unless the second is gone from the start. -/
theorem record?_after_abort_unnamed :
    Cycle.new { Settings.default with skipIdle := true, scheme := .keyValue } []
      ⟨.batch, .milliseconds, ⟨0⟩, ScriptOutlet.send⟩ ⟨[]⟩ = .ok keyed ∧
    keyed.policy = .abortCycle ∧ keyed.tracking.Simple ∧
    (keyed.report unnamedPair 0).report.aborted = true ∧
    ∃ e ∈ (unnamedPair.remove "x.y.").2.selection keyed.filter,
      (keyed.report unnamedPair 0).cycle.record? 0 0 e ≠ keyed.record? 0 0 e := by
  have haborted : (keyed.report unnamedPair 0).report.aborted = true := rfl
  have hnext : (unnamedPair.remove "x.y.").2.selection keyed.filter =
      [("a", ⟨0, .counter ⟨5⟩⟩)] := rfl
  refine ⟨rfl, rfl, .inl rfl, haborted, ("a", ⟨0, .counter ⟨5⟩⟩), by rw [hnext]; simp, ?_⟩
  obtain ⟨before, failing, after, hselection, _, hbad, _, _, hall⟩ :=
    record?_after_abort keyed unnamedPair 0 rfl (.inl rfl) haborted
  have hpair : before ++ failing :: after =
      [("a", ⟨0, .counter ⟨5⟩⟩), ("x.y.", ⟨1, .counter ⟨1⟩⟩)] := hselection.symm
  have hfirst : (keyed.look 0 0 ("a", ⟨0, .counter ⟨5⟩⟩)).outcome.isOk = true := rfl
  have hidle : ¬keyed.Idle "a" (.counter ⟨5⟩) := by
    rintro ⟨_, _, _, _, hb, _⟩
    cases hb
  have hspent : keyed.Spent "a" (.counter ⟨5⟩) (.counter ⟨5⟩) :=
    ⟨hidle, hidle, .inl ⟨rfl, 5, 5, rfl, rfl, by decide⟩⟩
  match before with
  | [] =>
    rw [List.nil_append, List.cons.injEq] at hpair
    rw [hpair.1] at hbad
    exact absurd (hbad.symm.trans hfirst) (by decide)
  | [first] =>
    simp only [List.cons_append, List.nil_append, List.cons.injEq] at hpair
    obtain ⟨rfl, rfl, _⟩ := hpair
    intro heq
    have hcost := (hall (unnamedPair.remove "x.y.").2 0).2 ("a", ⟨0, .counter ⟨5⟩⟩)
      (by rw [hnext]; simp) (by decide)
    exact (hcost.1 heq).1 _ List.mem_cons_self hspent
  | _ :: _ :: _ => simp at hpair

end Cycle

end Telemetry
