import Mathlib.Algebra.Ring.Nat
import Mathlib.Data.List.Chain
import Mathlib.Tactic.Common
import Telemetry.Report.Ticker

/-!
# Timetables

The deadlines of a ticker are served one after another, each as soon as it has come and the turn
before it is over. Turns are disjoint then and never early, and a turn that begins late is followed
by a deadline that is still to come.
-/

namespace Telemetry

/-- A cycle of a reporter with the deadline that it serves. -/
structure Turn where
  deadline : Nat
  begun : Nat
  /-- Nothing while the cycle is under way. -/
  ended : Option Nat
  deriving DecidableEq, Repr

namespace Turn

/-- What is known of a turn from its begin. -/
def start (t : Turn) : Nat × Nat := (t.deadline, t.begun)

def lag (t : Turn) : Nat := t.begun - t.deadline

def close (t : Turn) (ended : Nat) : Turn := { t with ended := some ended }

end Turn

namespace Ticker

lemma add_le_nextDeadline (period deadline now : Nat) :
    deadline + period ≤ nextDeadline period deadline now := by
  unfold nextDeadline
  dsimp only
  split
  · exact Nat.le_refl _
  · rw [Nat.mul_add]
    omega

lemma dvd_nextDeadline {period deadline : Nat} (h : period ∣ deadline) (now : Nat) :
    period ∣ nextDeadline period deadline now := by
  unfold nextDeadline
  dsimp only
  split
  · exact Nat.dvd_add h (Nat.dvd_refl period)
  · exact Nat.dvd_add h (Nat.dvd_mul_right period _)

/-- The deadlines that have passed by a late tick are skipped. -/
lemma lt_nextDeadline_of_late {period deadline now : Nat} (hp : 0 < period)
    (h : tolerance < now - deadline) : now < nextDeadline period deadline now := by
  have hlag : now - deadline < period * ((now - deadline) / period + 1) := by
    rw [Nat.mul_add, Nat.mul_one]
    exact Nat.lt_mul_div_succ _ hp
  unfold nextDeadline
  rw [if_neg (Nat.not_le.2 h)]
  omega

end Ticker

/-- The turns of a ticker, the latest first, the time since when it is free, if it is, and the
deadline that it serves next. -/
inductive Timetable (period : Nat) : List Turn → Option Nat → Nat → Prop where
  | start : Timetable period [] (some 0) period
  | begin {turns : List Turn} {free deadline : Nat}
      (h : Timetable period turns (some free) deadline) :
      Timetable period (⟨deadline, max deadline free, none⟩ :: turns) none
        (Ticker.nextDeadline period deadline (max deadline free))
  | close {t : Turn} {turns : List Turn} {deadline ended : Nat}
      (h : Timetable period (t :: turns) none deadline) (hb : t.begun ≤ ended) :
      Timetable period (t.close ended :: turns) (some ended) deadline

/-- The turn `a` is over when the turn `b` begins. -/
def Turn.Precedes (b a : Turn) : Prop := ∃ e, a.ended = some e ∧ a.begun ≤ e ∧ e ≤ b.begun

lemma Turn.Precedes.trans {a b c : Turn} (hcb : c.Precedes b) (hba : b.Precedes a) :
    c.Precedes a := by
  obtain ⟨e, he, hae, heb⟩ := hba
  obtain ⟨f, _, hbf, hfc⟩ := hcb
  exact ⟨e, he, hae, heb.trans (hbf.trans hfc)⟩

instance : Trans Turn.Precedes Turn.Precedes Turn.Precedes := ⟨Turn.Precedes.trans⟩

/-- What becomes of the deadlines: the turns, the latest first, and the deadline that comes next,
which is the first in every list of deadlines. -/
structure Punctual (period : Nat) (turns : List Turn) (next : Nat) : Prop where
  first : ∀ t ∈ turns.getLast?, t.begun = t.deadline
  /-- A turn begins at its deadline or, if that is later, at the end of the turn before. -/
  later : turns.IsChain fun b a => ∃ e, a.ended = some e ∧ a.begun ≤ e ∧ b.begun = max b.deadline e
  disjoint : turns.Pairwise Turn.Precedes
  deadlines : ∃ ns : List Nat,
    next :: turns.map Turn.deadline = ns.map (· * period) ∧ ns.Pairwise (· > ·) ∧ ∀ n ∈ ns, 0 < n
  /-- A deadline follows from the one before and from when that was served. -/
  follows : ∀ p ∈ turns.zip (next :: turns.map Turn.deadline),
    p.2 = Ticker.nextDeadline period p.1.deadline p.1.begun
  /-- There is no burst of turns after a late one. -/
  skips : ∀ p ∈ turns.zip (next :: turns.map Turn.deadline),
    Ticker.tolerance < p.1.lag → p.1.begun < p.2
  count : ∀ time, turns.countP (·.begun ≤ time) ≤ time / period

namespace Timetable

variable {period : Nat} {turns : List Turn} {free : Option Nat} {next : Nat}

lemma ended_head {t : Turn} (h : Timetable period (t :: turns) free next) : t.ended = free := by
  cases h <;> rfl

lemma begun_head {t : Turn} {e : Nat} (h : Timetable period (t :: turns) (some e) next) :
    t.begun ≤ e := by
  cases h with
  | close h hb => exact hb

lemma free_eq {e : Nat} (h : Timetable period turns (some e) next) :
    (turns.head?.bind Turn.ended).getD 0 = e := by
  cases turns with
  | nil =>
    cases h
    rfl
  | cons t older => simp [h.ended_head]

lemma begun_getLast (h : Timetable period turns free next) :
    ∀ t ∈ turns.getLast?, t.begun = t.deadline := by
  induction h with
  | start => simp
  | @begin turns free deadline h ih =>
    cases turns with
    | nil =>
      cases h
      simp
    | cons t turns => simpa using ih
  | @close t turns deadline ended h hb ih =>
    cases turns with
    | nil => simpa [Turn.close] using ih
    | cons u turns => simpa using ih

lemma chain (h : Timetable period turns free next) :
    turns.IsChain fun b a =>
      ∃ e, a.ended = some e ∧ a.begun ≤ e ∧ b.begun = max b.deadline e := by
  induction h with
  | start => exact .nil
  | begin h ih =>
    refine List.isChain_cons.2 ⟨fun t ht => ?_, ih⟩
    obtain ⟨rest, rfl⟩ := List.head?_eq_some_iff.1 ht
    exact ⟨_, h.ended_head, h.begun_head, rfl⟩
  | close h hb ih =>
    obtain ⟨hhead, htail⟩ := List.isChain_cons.1 ih
    exact List.isChain_cons.2 ⟨hhead, htail⟩

lemma disjoint (h : Timetable period turns free next) : turns.Pairwise Turn.Precedes := by
  refine (h.chain.imp fun b a => ?_).pairwise
  rintro ⟨e, he, hae, hbe⟩
  exact ⟨e, he, hae, hbe ▸ Nat.le_max_right _ _⟩

/-- Only the latest turn can be under way. -/
lemma ended_ne_none {e : Nat} (h : Timetable period turns (some e) next) :
    ∀ t ∈ turns, t.ended ≠ none := by
  intro t ht
  cases turns with
  | nil => simp at ht
  | cons u older =>
    rcases List.mem_cons.1 ht with rfl | ht
    · simp [h.ended_head]
    · obtain ⟨f, hf, _⟩ := List.rel_of_pairwise_cons h.disjoint ht
      simp [hf]

lemma multiples (hp : 0 < period) (h : Timetable period turns free next) : ∃ ns : List Nat,
    next :: turns.map Turn.deadline = ns.map (· * period) ∧ ns.Pairwise (· > ·) ∧
      ∀ n ∈ ns, 0 < n := by
  induction h with
  | start => exact ⟨[1], by simp, by simp, by simp⟩
  | @begin turns free deadline h ih =>
    obtain ⟨ns, hns, hlt, hpos⟩ := ih
    cases ns with
    | nil => simp at hns
    | cons n ns =>
      have hn : deadline = n * period := (List.cons.inj hns).1
      obtain ⟨m, hm⟩ := Ticker.dvd_nextDeadline (hn ▸ Nat.dvd_mul_left period n) (max deadline free)
      have hle := Ticker.add_le_nextDeadline period deadline (max deadline free)
      have hnm : n < m := by
        rw [hm, hn, Nat.mul_comm period m, ← Nat.succ_mul] at hle
        exact Nat.le_of_mul_le_mul_right hle hp
      refine ⟨m :: n :: ns, ?_, ?_, ?_⟩
      · rw [List.map_cons, List.map_cons, hns, hm, Nat.mul_comm period m]
      · refine List.pairwise_cons.2 ⟨fun k hk => ?_, hlt⟩
        rcases List.mem_cons.1 hk with rfl | hk
        · exact hnm
        · exact Nat.lt_trans (List.rel_of_pairwise_cons hlt hk) hnm
      · intro k hk
        rcases List.mem_cons.1 hk with rfl | hk
        · exact Nat.zero_lt_of_lt hnm
        · exact hpos k hk
  | close h hb ih => exact ih

lemma follows (h : Timetable period turns free next) :
    ∀ p ∈ turns.zip (next :: turns.map Turn.deadline),
      p.2 = Ticker.nextDeadline period p.1.deadline p.1.begun := by
  induction h with
  | start => simp
  | begin h ih =>
    intro p hp
    rcases List.mem_cons.1 hp with rfl | hp
    · rfl
    · exact ih p hp
  | @close t turns deadline ended h hb ih =>
    intro p hp
    rcases List.mem_cons.1 hp with rfl | hp
    · exact ih (t, deadline) List.mem_cons_self
    · exact ih p (List.mem_cons_of_mem _ hp)

/-- There is a period for every turn before the next deadline. -/
lemma length_le (h : Timetable period turns free next) : (turns.length + 1) * period ≤ next := by
  induction h with
  | start => simp
  | @begin turns free deadline h ih =>
    calc (turns.length + 1 + 1) * period = (turns.length + 1) * period + period := Nat.succ_mul _ _
      _ ≤ deadline + period := Nat.add_le_add_right ih period
      _ ≤ _ := Ticker.add_le_nextDeadline period deadline _
  | close h hb ih => exact ih

lemma count_le (hp : 0 < period) (h : Timetable period turns free next) (time : Nat) :
    turns.countP (·.begun ≤ time) ≤ time / period := by
  induction h with
  | start => simp
  | @begin turns free deadline h ih =>
    rw [List.countP_cons]
    by_cases hb : max deadline free ≤ time
    · have hlen : (turns.length + 1) * period ≤ time :=
        h.length_le.trans ((Nat.le_max_left _ _).trans hb)
      calc turns.countP (·.begun ≤ time) + _ ≤ turns.length + 1 :=
            Nat.add_le_add List.countP_le_length (by simp [hb])
        _ ≤ time / period := (Nat.le_div_iff_mul_le hp).2 hlen
    · simpa [hb] using ih
  | close h hb ih => exact ih

theorem punctual (hp : 0 < period) (h : Timetable period turns free next) :
    Punctual period turns next where
  first := h.begun_getLast
  later := h.chain
  disjoint := h.disjoint
  deadlines := h.multiples hp
  follows := h.follows
  skips p hmem hlate := h.follows p hmem ▸ Ticker.lt_nextDeadline_of_late hp hlate
  count := h.count_le hp

end Timetable

end Telemetry
