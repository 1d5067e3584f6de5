import Telemetry.Proofs.CycleWalk

/-!
# What a report offers

A report visits the accepted instruments by kind and name until it is given up. Unless it is given up
it offers what each instrument yields by itself, in the order of the visits.
-/

namespace Telemetry

namespace InstrumentKind

/-- The place of a kind in a report. -/
def rank : InstrumentKind → Nat
  | gauge => 0
  | counter => 1
  | histogram => 2
  | meter => 3
  | timer => 4

end InstrumentKind

namespace Registry

/-- The first instrument comes before the second one in a report. -/
def Precedes (a b : String × Registration) : Prop :=
  a.2.instrument.kind.rank < b.2.instrument.kind.rank ∨
    a.2.instrument.kind = b.2.instrument.kind ∧ a.1 < b.1

theorem precedes_selection (r : Registry) (filter : MetricFilter) :
    (r.selection filter).Pairwise Precedes := by
  rw [selection, List.pairwise_flatMap]
  constructor
  · intro kind _
    apply ((r.shelves.shelf kind).ascending.filter _).imp_of_mem
    intro a b ha hb hlt
    exact .inr ⟨(kind_of_group ha).trans (kind_of_group hb).symm, hlt⟩
  · have horder : reportOrder.Pairwise fun k l => k.rank < l.rank := by decide
    refine horder.imp ?_
    intro k l hlt a ha b hb
    left
    rw [kind_of_group ha, kind_of_group hb]
    exact hlt

end Registry

namespace Walk

variable {ctx : Context} {policy : FailurePolicy} {timestamp : Int64}

/-- Instruments that a walk has accounted for. -/
def counted (w : Walk) : Nat := w.records.length + w.skipped + w.failed

lemma counted_visit (w : Walk) (name : String) (reg : Registration) :
    (w.visit ctx policy timestamp name reg).counted = w.counted + 1 := by
  unfold counted visit note
  dsimp only
  split
  · simp only [List.length_append, List.length_singleton]
    omega
  · dsimp only
    omega
  · cases policy <;> dsimp only <;> omega

/-- With the policy to give up, a failure ends the walk. -/
lemma failed_visit (hpolicy : policy = .abortCycle) {w : Walk} (hw : w.aborted = false)
    (name : String) (reg : Registration) :
    (w.visit ctx policy timestamp name reg).failed =
      w.failed + if (w.visit ctx policy timestamp name reg).aborted then 1 else 0 := by
  simp only [visit, note, hpolicy]
  cases (transform ctx w.tracking name w.registry.clock.tick timestamp reg.instrument).outcome with
  | error e => rfl
  | ok record =>
    cases record with
    | none => simp [hw]
    | some record => simp [hw]

lemma counted_visitAll {w : Walk} (hw : w.aborted = false) {es : List (String × Registration)}
    (h : (w.visitAll ctx policy timestamp es).aborted = false) :
    (w.visitAll ctx policy timestamp es).counted = w.counted + es.length := by
  induction es generalizing w with
  | nil => rfl
  | cons e es ih =>
    rw [visitAll] at h ⊢
    by_cases ha : (w.visit ctx policy timestamp e.1 e.2).aborted = true
    · rw [if_pos ha, ha] at h
      cases h
    · rw [if_neg ha] at h ⊢
      rw [ih (by simpa using ha) h, counted_visit, List.length_cons]
      omega

lemma failed_visitAll (hpolicy : policy = .abortCycle) {w : Walk} (hw : w.aborted = false)
    {es : List (String × Registration)} :
    (w.visitAll ctx policy timestamp es).failed =
      w.failed + if (w.visitAll ctx policy timestamp es).aborted then 1 else 0 := by
  induction es generalizing w with
  | nil => simp [visitAll, hw]
  | cons e es ih =>
    have hone : (w.visit ctx policy timestamp e.1 e.2).failed =
        w.failed + if (w.visit ctx policy timestamp e.1 e.2).aborted then 1 else 0 :=
      failed_visit hpolicy hw e.1 e.2
    by_cases ha : (w.visit ctx policy timestamp e.1 e.2).aborted = true
    · have hlast : w.visitAll ctx policy timestamp (e :: es) =
          w.visit ctx policy timestamp e.1 e.2 := if_pos ha
      rw [hlast, hone]
    · have hnext : w.visitAll ctx policy timestamp (e :: es) =
          (w.visit ctx policy timestamp e.1 e.2).visitAll ctx policy timestamp es := if_neg ha
      rw [hnext, ih (by simpa using ha), hone, if_neg ha]
      rfl

end Walk

namespace Cycle

variable {σ : Type} {c : Cycle σ} {r : Registry} {timestamp : Int64}

/-- The records that a report offers to the sender. -/
def offers (c : Cycle σ) (r : Registry) (timestamp : Int64) : List Record :=
  if (c.walk r timestamp).aborted then [] else (c.walk r timestamp).records

/-- The instruments that a report comes to. -/
def visited (c : Cycle σ) (r : Registry) (timestamp : Int64) : List (String × Registration) :=
  c.reached r.clock.tick timestamp (r.selection c.filter)

lemma sender_gather (c : Cycle σ) (r : Registry) (timestamp : Int64) :
    (c.gather r timestamp).cycle.sender = c.sender.offerAll (c.offers r timestamp) := rfl

lemma report_gather (c : Cycle σ) (r : Registry) (timestamp : Int64) :
    (c.gather r timestamp).report =
      ⟨timestamp, (r.selection c.filter).length, (c.offers r timestamp).length,
        (c.walk r timestamp).skipped, (c.walk r timestamp).failed, (c.walk r timestamp).aborted,
        none⟩ := rfl

lemma offers_of_aborted (h : (c.walk r timestamp).aborted = true) : c.offers r timestamp = [] :=
  if_pos h

lemma visited_of_kept (h : (c.walk r timestamp).aborted = false) :
    c.visited r timestamp = r.selection c.filter :=
  upTo_of_none ((c.walked_walk r timestamp).aborted.symm.trans h)

lemma offers_of_kept (h : (c.walk r timestamp).aborted = false) :
    c.offers r timestamp =
      (r.selection c.filter).filterMap (c.record? r.clock.tick timestamp) := by
  have hrecords := (c.walked_walk r timestamp).records
  rw [← visited, visited_of_kept h] at hrecords
  rw [offers, if_neg (by simp [h]), hrecords]
  rfl

/-- A walk is the visits to the instruments that it comes to, one after another. -/
lemma visitAll_eq_foldl {tick : UInt64} {w : Walk} {es : List (String × Registration)}
    (hw : w.aborted = false) (htick : w.registry.clock.tick = tick) (hnodup : (es.map (·.1)).Nodup)
    (hfresh : ∀ e ∈ es, w.tracking.AgreeAt e.1 c.tracking) :
    w.visitAll c.context c.policy timestamp es =
      (c.reached tick timestamp es).foldl
        (fun w e => w.visit c.context c.policy timestamp e.1 e.2) w := by
  induction es generalizing w with
  | nil => rfl
  | cons e es ih =>
    obtain ⟨_, haborted, _, hother, hregistry⟩ :=
      visit_spec timestamp htick (hfresh e List.mem_cons_self)
    rw [List.map_cons, List.nodup_cons] at hnodup
    rw [hw, Bool.false_or] at haborted
    rw [Walk.visitAll, reached, upTo]
    cases hstop : c.stops tick timestamp e with
    | true =>
      rw [if_pos (haborted.trans hstop)]
      rfl
    | false =>
      have hkept := haborted.trans hstop
      have hclock : (w.visit c.context c.policy timestamp e.1 e.2).registry.clock.tick = tick := by
        rw [hregistry, Registry.clock_putBack, htick]
      rw [if_neg (by simp [hkept])]
      -- the names that are still to come were not touched by this visit
      refine ih hkept hclock hnodup.2 ?_
      intro d hd
      have hne : d.1 ≠ e.1 := by
        intro heq
        exact hnodup.1 (heq ▸ List.mem_map_of_mem hd)
      exact (hother d.1 hne).trans (hfresh d (List.mem_cons_of_mem e hd))

lemma walk_eq_foldl (c : Cycle σ) (r : Registry) (timestamp : Int64) :
    c.walk r timestamp = (c.visited r timestamp).foldl
      (fun w e => w.visit c.context c.policy timestamp e.1 e.2) (Walk.start r c.tracking) :=
  visitAll_eq_foldl rfl rfl Registry.nodup_selection fun _ _ => .refl _ _

lemma aborted_report (c : Cycle σ) (r : Registry) (timestamp : Int64) :
    (c.report r timestamp).report.aborted = (c.walk r timestamp).aborted :=
  (c.report_eq_gather r timestamp).1

end Cycle

end Telemetry
