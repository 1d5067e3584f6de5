import Telemetry.Proofs.RegistryView
import Telemetry.Proofs.TransformTracking
import Telemetry.Report.Cycle

/-!
# What a cycle makes of each instrument

A walk treats each instrument as if it were the only one: the outcome, what is remembered and what is
left in the registry follow from the instrument and from the state before the walk. A cycle that is
given up does so at the first instrument that fails.
-/

namespace Telemetry

/-- The items up to the first that fails, and that one too. -/
def upTo {α : Type} (fails : α → Bool) : List α → List α
  | [] => []
  | a :: as => if fails a then [a] else a :: upTo fails as

section UpTo

variable {α : Type} {fails : α → Bool} {as : List α}

lemma upTo_sublist : (upTo fails as).Sublist as := by
  induction as with
  | nil => exact .slnil
  | cons a as ih =>
    rw [upTo]
    split
    · exact .cons_cons a (List.nil_sublist as)
    · exact .cons_cons a ih

lemma upTo_of_none (h : as.any fails = false) : upTo fails as = as := by
  induction as with
  | nil => rfl
  | cons a as ih =>
    rw [List.any_cons, Bool.or_eq_false_iff] at h
    rw [upTo, if_neg (by simp [h.1]), ih h.2]

lemma upTo_of_any (h : as.any fails = true) :
    ∃ before a after, as = before ++ a :: after ∧ before.any fails = false ∧ fails a = true ∧
      upTo fails as = before ++ [a] := by
  induction as with
  | nil => simp at h
  | cons a as ih =>
    cases ha : fails a with
    | true => exact ⟨[], a, as, rfl, rfl, ha, by simp [upTo, ha]⟩
    | false =>
      rw [List.any_cons, ha, Bool.false_or] at h
      obtain ⟨before, b, after, rfl, hbefore, hb, hup⟩ := ih h
      exact ⟨a :: before, b, after, rfl, by simp [ha, hbefore], hb, by simp [upTo, ha, hup]⟩

end UpTo

namespace Cycle

variable {σ : Type} (c : Cycle σ) (tick : UInt64) (timestamp : Int64)

/-- What the cycle makes of an instrument by itself. -/
def look (e : String × Registration) : Transformed :=
  transform c.context c.tracking e.1 tick timestamp e.2.instrument

lemma kind_look (e : String × Registration) :
    (c.look tick timestamp e).instrument.kind = e.2.instrument.kind :=
  kind_transform tick timestamp

def record? (e : String × Registration) : Option Record :=
  (c.look tick timestamp e).record?

/-- The cycle is given up at this instrument. -/
def stops (e : String × Registration) : Bool :=
  c.policy = .abortCycle && !(c.look tick timestamp e).outcome.isOk

/-- The instruments that a walk comes to. -/
def reached (es : List (String × Registration)) : List (String × Registration) :=
  upTo (c.stops tick timestamp) es

/-- A walk from `w` over the instruments ends in `m`. -/
structure Walked (es : List (String × Registration)) (w m : Walk) : Prop where
  records : m.records = w.records ++
    (c.reached tick timestamp es).filterMap (c.record? tick timestamp)
  aborted : m.aborted = es.any (c.stops tick timestamp)
  seen : ∀ e ∈ c.reached tick timestamp es,
    m.tracking.AgreeAt e.1 (c.look tick timestamp e).tracking ∧
    m.registry.entries.get? e.1 = some ⟨e.2.serial, (c.look tick timestamp e).instrument⟩
  unseen : ∀ name, name ∉ (c.reached tick timestamp es).map (·.1) →
    m.tracking.AgreeAt name w.tracking ∧
    m.registry.entries.get? name = w.registry.entries.get? name
  clock : m.registry.clock = w.registry.clock

variable {c tick}

lemma visit_spec {w : Walk} {e : String × Registration} (htick : w.registry.clock.tick = tick)
    (hagree : w.tracking.AgreeAt e.1 c.tracking) :
    let m := w.visit c.context c.policy timestamp e.1 e.2
    m.records = w.records ++ (c.record? tick timestamp e).toList ∧
    m.aborted = (w.aborted || c.stops tick timestamp e) ∧
    m.tracking.AgreeAt e.1 (c.look tick timestamp e).tracking ∧
    (∀ other, other ≠ e.1 → m.tracking.AgreeAt other w.tracking) ∧
    m.registry = w.registry.putBack e.1 e.2.serial (c.look tick timestamp e).instrument := by
  obtain ⟨houtcome, hinstrument, _, htracking⟩ :=
    transform_congr c.context tick timestamp e.2.instrument hagree
  have hother (other : String) (h : other ≠ e.1) :=
    transform_other (t := w.tracking) c.context tick timestamp e.2.instrument h
  simp only [Walk.visit, Walk.note, htick, look, record?, Transformed.record?, stops, ← houtcome,
    ← hinstrument]
  cases (transform c.context w.tracking e.1 tick timestamp e.2.instrument).outcome with
  | error error =>
    cases c.policy with
    | abortCycle =>
      exact ⟨by simp [Except.toOption], by simp [Except.isOk, Except.toBool], htracking, hother, rfl⟩
    | skipInstrument =>
      exact ⟨by simp [Except.toOption], by simp, htracking, hother, rfl⟩
  | ok r =>
    cases r with
    | none =>
      exact ⟨by simp [Except.toOption], by simp [Except.isOk, Except.toBool], htracking, hother, rfl⟩
    | some r =>
      exact ⟨by simp [Except.toOption], by simp [Except.isOk, Except.toBool], htracking, hother, rfl⟩

/-- The instruments that are still to come are as they were before the walk. -/
theorem walked_visitAll {w : Walk} {es : List (String × Registration)} (hw : w.aborted = false)
    (htick : w.registry.clock.tick = tick) (hnodup : (es.map (·.1)).Nodup)
    (hfresh : ∀ e ∈ es, w.tracking.AgreeAt e.1 c.tracking ∧
      w.registry.entries.get? e.1 = some e.2) :
    c.Walked tick timestamp es w (w.visitAll c.context c.policy timestamp es) := by
  induction es generalizing w with
  | nil =>
    exact ⟨by simp [reached, upTo, Walk.visitAll], by simp [Walk.visitAll, hw],
      by simp [reached, upTo], fun _ _ => ⟨.refl _ _, rfl⟩, rfl⟩
  | cons e es ih =>
    obtain ⟨hagree, hget⟩ := hfresh e List.mem_cons_self
    obtain ⟨hrecords, haborted, hseen, hother, hregistry⟩ :=
      visit_spec timestamp htick hagree
    rw [List.map_cons, List.nodup_cons] at hnodup
    rw [hw, Bool.false_or] at haborted
    have hentries (q : String) :
        (w.visit c.context c.policy timestamp e.1 e.2).registry.entries.get? q =
          if e.1 = q then some ⟨e.2.serial, (c.look tick timestamp e).instrument⟩
          else w.registry.entries.get? q := by
      rw [hregistry, Registry.get?_putBack hget (c.kind_look tick timestamp e)]
    have hclock : (w.visit c.context c.policy timestamp e.1 e.2).registry.clock =
        w.registry.clock := by
      rw [hregistry, Registry.clock_putBack]
    rw [Walk.visitAll]
    cases hstop : c.stops tick timestamp e with
    | true =>
      have hreached : c.reached tick timestamp (e :: es) = [e] := by
        rw [reached, upTo, if_pos hstop]
      rw [if_pos (haborted.trans hstop)]
      refine ⟨?_, by simp [haborted, hstop], ?_, ?_, hclock⟩
      · rw [hrecords, hreached]
        cases hr : c.record? tick timestamp e <;> simp [hr]
      · rw [hreached]
        intro d hd
        rw [List.mem_singleton.1 hd]
        exact ⟨hseen, by rw [hentries, if_pos rfl]⟩
      · intro name hname
        have hne : name ≠ e.1 := by simpa [hreached] using hname
        exact ⟨hother name hne, by rw [hentries, if_neg hne.symm]⟩
    | false =>
      have hreached : c.reached tick timestamp (e :: es) =
          e :: c.reached tick timestamp es := by
        rw [reached, upTo, if_neg (by simp [hstop])]
        rfl
      have hne (d : String × Registration) (hd : d ∈ es) : d.1 ≠ e.1 := by
        intro heq
        exact hnodup.1 (heq ▸ List.mem_map_of_mem hd)
      have hrest := ih (haborted.trans hstop) (hclock ▸ htick) hnodup.2 fun d hd => by
        obtain ⟨hd1, hd2⟩ := hfresh d (List.mem_cons_of_mem e hd)
        exact ⟨(hother d.1 (hne d hd)).trans hd1, by rw [hentries, if_neg (hne d hd).symm, hd2]⟩
      rw [if_neg (by simp [haborted, hstop])]
      have hlast : e.1 ∉ (c.reached tick timestamp es).map (·.1) := by
        intro hmem
        obtain ⟨d, hd, heq⟩ := List.mem_map.1 hmem
        exact hne d (upTo_sublist.subset hd) heq
      refine ⟨?_, ?_, ?_, ?_, hrest.clock.trans hclock⟩
      · rw [hrest.records, hrecords, hreached, List.append_assoc]
        cases hr : c.record? tick timestamp e <;> simp [hr]
      · rw [hrest.aborted, List.any_cons, hstop, Bool.false_or]
      · rw [hreached]
        intro d hd
        rcases List.mem_cons.1 hd with rfl | hd
        · obtain ⟨ht, hr⟩ := hrest.unseen d.1 hlast
          exact ⟨ht.trans hseen, by rw [hr, hentries, if_pos rfl]⟩
        · exact hrest.seen d hd
      · rw [hreached]
        intro name hname
        rw [List.map_cons, List.mem_cons, not_or] at hname
        obtain ⟨ht, hr⟩ := hrest.unseen name hname.2
        exact ⟨ht.trans (hother name hname.1), by rw [hr, hentries, if_neg (Ne.symm hname.1)]⟩

/-- The walk of a report over the registry. -/
def walk (c : Cycle σ) (r : Registry) (timestamp : Int64) : Walk :=
  (Walk.start r c.tracking).visitAll c.context c.policy timestamp (r.selection c.filter)

lemma walked_walk (c : Cycle σ) (r : Registry) (timestamp : Int64) :
    c.Walked r.clock.tick timestamp (r.selection c.filter) (Walk.start r c.tracking)
      (c.walk r timestamp) :=
  walked_visitAll timestamp rfl rfl Registry.nodup_selection fun _ he =>
    ⟨.refl _ _, (Registry.mem_selection.1 he).1⟩

/-- What a cycle leaves behind, before the flush. -/
structure Settles (c : Cycle σ) (r : Registry) (timestamp : Int64) (g : Gathered σ) : Prop where
  aborted : g.report.aborted = (r.selection c.filter).any (c.stops r.clock.tick timestamp)
  sender : g.cycle.sender = c.sender.offerAll (if g.report.aborted then [] else
    (r.selection c.filter).filterMap (c.record? r.clock.tick timestamp))
  seen : ∀ e ∈ c.reached r.clock.tick timestamp (r.selection c.filter),
    g.cycle.tracking.AgreeAt e.1 (c.look r.clock.tick timestamp e).tracking ∧
    g.registry.entries.get? e.1 = some ⟨e.2.serial, (c.look r.clock.tick timestamp e).instrument⟩
  unseen : ∀ name, name ∉ (c.reached r.clock.tick timestamp (r.selection c.filter)).map (·.1) →
    g.registry.entries.get? name = r.entries.get? name ∧
    (name ∈ (r.selection c.filter).map (·.1) → g.cycle.tracking.AgreeAt name c.tracking) ∧
    (name ∉ (r.selection c.filter).map (·.1) → g.cycle.tracking.AgreeAt name c.tracking.blank)
  clock : g.registry.clock = r.clock

theorem settles_gather (c : Cycle σ) (r : Registry) (timestamp : Int64) :
    c.Settles r timestamp (c.gather r timestamp) := by
  have hwalk := c.walked_walk r timestamp
  have hlive (name : String) : ((r.selection c.filter).map (·.1)).contains name = true ↔
      name ∈ (r.selection c.filter).map (·.1) := List.contains_iff_mem
  refine ⟨hwalk.aborted, ?_, fun e he => ?_, fun name hname => ⟨?_, fun hmem => ?_, fun hmem => ?_⟩,
    hwalk.clock⟩
  · have hsender : (c.gather r timestamp).cycle.sender = c.sender.offerAll
        (if (c.walk r timestamp).aborted then [] else (c.walk r timestamp).records) := rfl
    have haborted : (c.gather r timestamp).report.aborted = (c.walk r timestamp).aborted := rfl
    rw [hsender, haborted]
    cases ha : (c.walk r timestamp).aborted with
    | true => rfl
    | false =>
      have hall : c.reached r.clock.tick timestamp (r.selection c.filter) = r.selection c.filter :=
        upTo_of_none (hwalk.aborted.symm.trans ha)
      have hrecords := hwalk.records
      rw [hall, Walk.start, List.nil_append] at hrecords
      exact congrArg c.sender.offerAll hrecords
  · obtain ⟨ht, hr⟩ := hwalk.seen e he
    have hmem := List.mem_map_of_mem (f := (·.1)) (upTo_sublist.subset he)
    exact ⟨(Tracking.retain_live ((hlive e.1).2 hmem)).trans ht, hr⟩
  · exact (hwalk.unseen name hname).2
  · exact (Tracking.retain_live ((hlive name).2 hmem)).trans (hwalk.unseen name hname).1
  · have hgone : ((r.selection c.filter).map (·.1)).contains name = false := by
      rw [← Bool.not_eq_true, hlive]
      exact hmem
    exact (Tracking.retain_gone hgone).trans (Tracking.blank_congr (hwalk.unseen name hname).1)

section Report

variable (c : Cycle σ) (r : Registry) (timestamp : Int64)

lemma report_of_aborted (h : (c.gather r timestamp).report.aborted = true) :
    c.report r timestamp = ⟨(c.gather r timestamp).cycle, (c.gather r timestamp).registry,
      (c.gather r timestamp).report, [], (c.gather r timestamp).warnings⟩ := by
  rw [report, send, if_pos h]

/-- The flush changes nothing but the sender. -/
lemma report_eq_gather :
    (c.report r timestamp).report.aborted = (c.gather r timestamp).report.aborted ∧
    (c.report r timestamp).registry = (c.gather r timestamp).registry ∧
    ∃ sender, (c.report r timestamp).cycle = { (c.gather r timestamp).cycle with sender } := by
  unfold report send
  dsimp only
  split
  · exact ⟨rfl, rfl, _, rfl⟩
  · exact ⟨rfl, rfl, _, rfl⟩

end Report

end Cycle

end Telemetry
