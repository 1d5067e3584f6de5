import Mathlib.Data.UInt
import Mathlib.Tactic.Common
import Telemetry.Instrument.Meter

/-!
# The intervals of a meter

Marks and readings end the intervals that have passed, so a meter divides its marks among intervals.
The averages are those of a meter that ends one interval after another, each with the events of its
marks.
-/

namespace Telemetry

namespace Averages

/-- Intervals that end one after another, with these numbers of events. -/
def after (a : Averages) (counts : List UInt64) : Averages :=
  counts.foldl (fun a n => (a.mark n).ticks 1) a

lemma after_append_singleton (a : Averages) (counts : List UInt64) (n : UInt64) :
    a.after (counts ++ [n]) = ((a.after counts).mark n).ticks 1 := List.foldl_append

lemma mark_zero (a : Averages) : a.mark 0 = a := by
  simp only [mark, MovingAverage.mark, UInt64.add_zero]

lemma mark_mark (a : Averages) (n k : UInt64) : (a.mark n).mark k = a.mark (n + k) := by
  simp only [mark, MovingAverage.mark, UInt64.add_assoc]

lemma ticks_succ (a : Averages) (n : Nat) : a.ticks (n + 1) = (a.ticks 1).ticks n := by
  rw [ticks, MovingAverage.ticks_succ, MovingAverage.ticks_succ, MovingAverage.ticks_succ]
  rfl

/-- Intervals that end together are those of a count that is zero from some place on. -/
lemma ticks_after (a : Averages) {f : Nat → UInt64} {k : Nat} (hf : ∀ i, k < i → f i = 0)
    (n : Nat) : ((a.after ((List.range k).map f)).mark (f k)).ticks n =
      (a.after ((List.range (k + n)).map f)).mark (f (k + n)) := by
  induction n generalizing k with
  | zero => rfl
  | succ n ih =>
    have hone : ((a.after ((List.range k).map f)).mark (f k)).ticks 1 =
        a.after ((List.range (k + 1)).map f) := by
      rw [List.range_succ, List.map_append, List.map_singleton, after_append_singleton]
    have hzero : f (k + 1) = 0 := hf (k + 1) (Nat.lt_succ_self k)
    have hrest := ih fun i hi => hf i (Nat.lt_of_succ_lt hi)
    have hplace : k + 1 + n = k + (n + 1) := by omega
    rw [hzero, mark_zero, hplace] at hrest
    rw [ticks_succ, hone, hrest]

end Averages

namespace Meter

variable {m : Meter} {now : UInt64}

lemma toNat_interval : interval.toNat = 5000000000 := rfl

/-- Nanoseconds since the meter was made. -/
def elapsed (m : Meter) (now : UInt64) : Nat := now.toNat - m.startTick.toNat

/-- Intervals that the meter has ended. -/
def ended (m : Meter) : Nat := (m.lastTick.toNat - m.startTick.toNat) / interval.toNat

/-- The current interval began a whole number of intervals after the start. -/
def Aligned (m : Meter) : Prop :=
  m.lastTick.toNat = m.startTick.toNat + m.ended * interval.toNat

lemma ended_of_lastTick {k : Nat}
    (h : m.lastTick.toNat = m.startTick.toNat + k * interval.toNat) : m.ended = k := by
  rw [ended, h, toNat_interval]
  omega

lemma catchUp_of_young (h : (Clock.since now m.lastTick) ≤ interval) : m.catchUp now = m :=
  if_pos h

/-- A call ends the intervals that are over, but leaves the current one open at its very end. -/
lemma catchUp_spec (h : m.Aligned) (hnow : m.lastTick ≤ now) :
    (m.catchUp now).ended =
        (if (m.elapsed now - 1) / interval.toNat ≤ m.ended then m.ended
          else m.elapsed now / interval.toNat) ∧
      (m.catchUp now).Aligned ∧ (m.catchUp now).lastTick ≤ now ∧
      (m.catchUp now).averages = m.averages.ticks ((m.catchUp now).ended - m.ended) := by
  have hle := UInt64.le_iff_toNat_le.1 hnow
  have hage : (Clock.since now m.lastTick).toNat = now.toNat - m.lastTick.toNat := by
    rw [Clock.since, if_pos hnow, UInt64.toNat_sub_of_le _ _ hnow]
  have hlast : m.lastTick.toNat = m.startTick.toNat + m.ended * 5000000000 := h
  by_cases hyoung : Clock.since now m.lastTick ≤ interval
  · have hover : now.toNat - m.lastTick.toNat ≤ 5000000000 := by
      rw [← hage]
      exact UInt64.le_iff_toNat_le.1 hyoung
    have hopen : (m.elapsed now - 1) / interval.toNat ≤ m.ended := by
      rw [elapsed, toNat_interval]
      omega
    rw [catchUp_of_young hyoung, if_pos hopen, Nat.sub_self]
    exact ⟨rfl, h, hnow, rfl⟩
  · have hover : 5000000000 < now.toNat - m.lastTick.toNat := by
      rw [← hage]
      exact UInt64.lt_iff_toNat_lt.1 (UInt64.not_le.1 hyoung)
    have hrest : (Clock.since now m.lastTick % interval).toNat =
        (now.toNat - m.lastTick.toNat) % 5000000000 := by
      rw [UInt64.toNat_mod, hage, toNat_interval]
    have hpassed : (Clock.since now m.lastTick / interval).toNat =
        (now.toNat - m.lastTick.toNat) / 5000000000 := by
      rw [UInt64.toNat_div, hage, toNat_interval]
    have hback : Clock.since now m.lastTick % interval ≤ now := by
      rw [UInt64.le_iff_toNat_le, hrest]
      omega
    have hcatch : m.catchUp now = { m with
        lastTick := now - Clock.since now m.lastTick % interval
        averages := m.averages.ticks (Clock.since now m.lastTick / interval).toNat } :=
      if_neg hyoung
    have hstart : (m.catchUp now).lastTick.toNat =
        now.toNat - (now.toNat - m.lastTick.toNat) % 5000000000 := by
      rw [hcatch, UInt64.toNat_sub_of_le _ _ hback, hrest]
    have hsame : (m.catchUp now).startTick = m.startTick := by rw [hcatch]
    have hover' : ¬(m.elapsed now - 1) / interval.toNat ≤ m.ended := by
      rw [elapsed, toNat_interval]
      omega
    have haligned : (m.catchUp now).lastTick.toNat = (m.catchUp now).startTick.toNat +
        m.elapsed now / interval.toNat * interval.toNat := by
      rw [hstart, hsame, elapsed, toNat_interval]
      omega
    have hended := ended_of_lastTick haligned
    rw [if_neg hover']
    refine ⟨hended, ?_, ?_, ?_⟩
    · rw [Aligned, hended]
      exact haligned
    · rw [UInt64.le_iff_toNat_le, hstart]
      omega
    · have hticks : m.elapsed now / interval.toNat - m.ended =
          (now.toNat - m.lastTick.toNat) / 5000000000 := by
        rw [elapsed, toNat_interval]
        omega
      rw [hended, hticks, ← hpassed, hcatch]

/-- A number of events at a tick of the clock. -/
structure Mark where
  now : UInt64
  n : UInt64
  deriving DecidableEq

inductive Call where
  | mark (e : Mark)
  | read (now : UInt64)

def Call.time : Call → UInt64
  | mark e => e.now
  | read now => now

def Call.mark? : Call → Option Mark
  | mark e => some e
  | read _ => none

def call (m : Meter) : Call → Meter
  | .mark e => m.mark e.now e.n
  | .read now => (m.rates now).2

def run (m : Meter) (calls : List Call) : Meter := calls.foldl call m

/-- The marks with the numbers of the intervals that they fall into. -/
def placed (m : Meter) : List Call → List (Nat × Mark)
  | [] => []
  | .mark e :: calls => ((m.call (.mark e)).ended, e) :: (m.call (.mark e)).placed calls
  | .read now :: calls => (m.call (.read now)).placed calls

lemma run_append (m : Meter) (calls later : List Call) :
    m.run (calls ++ later) = (m.run calls).run later := List.foldl_append

lemma placed_append (m : Meter) (calls later : List Call) :
    m.placed (calls ++ later) = m.placed calls ++ (m.run calls).placed later := by
  induction calls generalizing m with
  | nil => rfl
  | cons c calls ih =>
    cases c with
    | mark e => exact congrArg (((m.call (.mark e)).ended, e) :: ·) (ih _)
    | read now => exact ih _

lemma map_snd_placed (m : Meter) (calls : List Call) :
    (m.placed calls).map (·.2) = calls.filterMap Call.mark? := by
  induction calls generalizing m with
  | nil => rfl
  | cons c calls ih =>
    cases c with
    | mark e => exact congrArg (e :: ·) (ih _)
    | read now => exact ih _

/-- The events of an interval. -/
def tally (ps : List (Nat × Mark)) (k : Nat) : UInt64 :=
  ((ps.filter (·.1 = k)).map (·.2.n)).sum

/-- The events of each interval that has ended. -/
def counts (ps : List (Nat × Mark)) (ended : Nat) : List UInt64 := (List.range ended).map (tally ps)

lemma tally_append (ps qs : List (Nat × Mark)) (k : Nat) :
    tally (ps ++ qs) k = tally ps k + tally qs k := by
  simp [tally]

lemma tally_of_lt {ps : List (Nat × Mark)} {k : Nat} (h : ∀ p ∈ ps, p.1 < k) : tally ps k = 0 := by
  have hnone : ps.filter (·.1 = k) = [] := by
    rw [List.filter_eq_nil_iff]
    intro p hp heq
    have hlt := h p hp
    have hk := of_decide_eq_true heq
    omega
  rw [tally, hnone]
  rfl

/-- A meter that was made at `start` has divided these marks among intervals. -/
structure Tallies (m : Meter) (start : UInt64) (ps : List (Nat × Mark)) : Prop where
  start : m.startTick = start
  aligned : m.Aligned
  bound : ∀ p ∈ ps, p.1 ≤ m.ended
  count : m.count = (ps.map (·.2.n)).sum
  averages : m.averages = (Averages.new.after (counts ps m.ended)).mark (tally ps m.ended)

variable {start : UInt64} {ps : List (Nat × Mark)}

lemma tallies_new (start : UInt64) : (new start).Tallies start [] := by
  have hended : (new start).ended = 0 := by
    rw [ended, new, Nat.sub_self, Nat.zero_div]
  refine ⟨rfl, ?_, ?_, rfl, ?_⟩
  · rw [Aligned, hended, Nat.zero_mul]
    rfl
  · intro p hp
    cases hp
  · rw [hended]
    exact (Averages.mark_zero _).symm

lemma Tallies.catchUp (h : m.Tallies start ps) (hnow : m.lastTick ≤ now) :
    (m.catchUp now).Tallies start ps := by
  obtain ⟨hended, haligned, _, haverages⟩ := catchUp_spec h.aligned hnow
  have hle : m.ended ≤ (m.catchUp now).ended := by
    rw [hended]
    split
    · exact Nat.le_refl _
    · rename_i hover
      have hdiv := Nat.div_le_div_right (c := interval.toNat) (Nat.sub_le (m.elapsed now) 1)
      omega
  have hlater : ∀ i, m.ended < i → tally ps i = 0 := by
    intro i hi
    exact tally_of_lt fun p hp => Nat.lt_of_le_of_lt (h.bound p hp) hi
  have hticks := Averages.ticks_after Averages.new hlater ((m.catchUp now).ended - m.ended)
  rw [Nat.add_sub_cancel' hle] at hticks
  have hfixed : (m.catchUp now).startTick = m.startTick ∧ (m.catchUp now).count = m.count := by
    unfold Meter.catchUp
    dsimp only
    split <;> exact ⟨rfl, rfl⟩
  refine ⟨hfixed.1.trans h.start, haligned, ?_, hfixed.2.trans h.count, ?_⟩
  · intro p hp
    exact Nat.le_trans (h.bound p hp) hle
  · rw [haverages, h.averages]
    exact hticks

lemma Tallies.call (h : m.Tallies start ps) {c : Call} (hnow : m.lastTick ≤ c.time) :
    (m.call c).Tallies start (ps ++ m.placed [c]) := by
  cases c with
  | read now =>
    have hplaced : ps ++ m.placed [.read now] = ps := List.append_nil ps
    rw [hplaced]
    exact h.catchUp hnow
  | mark e =>
    have hcaught : (m.catchUp e.now).Tallies start ps := h.catchUp hnow
    generalize hk : (m.catchUp e.now).ended = k at hcaught
    have hended : (m.call (.mark e)).ended = k := hk
    have hplaced : m.placed [.mark e] = [(k, e)] := by
      rw [placed, hended]
      rfl
    have htally : tally [(k, e)] k = e.n := by
      simp [tally]
    have hbefore : counts (ps ++ [(k, e)]) k = counts ps k := by
      apply List.map_congr_left
      intro i hi
      have hne : k ≠ i := Nat.ne_of_gt (List.mem_range.1 hi)
      simp [tally, hne]
    have haverages := hcaught.averages
    rw [hk] at haverages
    rw [hplaced]
    refine ⟨hcaught.start, ?_, ?_, ?_, ?_⟩
    · exact hcaught.aligned
    · intro p hp
      rw [hended]
      rcases List.mem_append.1 hp with hp | hp
      · exact hk ▸ hcaught.bound p hp
      · exact Nat.le_of_eq (congrArg Prod.fst (List.mem_singleton.1 hp))
    · rw [List.map_append, List.sum_append, ← hcaught.count]
      simp [Meter.call, Meter.mark]
    · have hcall : (m.call (.mark e)).averages = (m.catchUp e.now).averages.mark e.n := rfl
      rw [hcall, hended, hbefore, tally_append, htally, ← Averages.mark_mark, ← haverages]

end Meter

end Telemetry
