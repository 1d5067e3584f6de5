import Mathlib.Tactic.Common
import Telemetry.Proofs.Timetable
import Telemetry.Report.Reporter

/-!
# The turns of a reporter

A reporter is watched while its owner moves it through time, cancels it and changes what it reads.
Whatever the sends take, its turns follow the timetable of its ticker. Once it is cancelled no turn
begins.
-/

namespace Telemetry

namespace Reporter

variable {σ : Type} {r : Reporter σ} {limit : Nat} {e : Event}

/-- The events that are due before the limit. -/
inductive Due (r : Reporter σ) (limit : Nat) : Event → Prop where
  | begin (hp : r.phase = .waiting) (hc : r.cancelled = false)
      (hl : max r.now r.ticker.deadline < limit) :
      Due r limit (.begin (max r.now r.ticker.deadline))
  | answer {flight : Flight} {wake : Nat} {p : String} {rest : List String}
      (hp : r.phase = .flushing flight wake) (hw : flight.waiting = p :: rest) (hl : wake < limit) :
      Due r limit (.answer wake flight p rest)
  | land {flight : Flight} {wake : Nat} (hp : r.phase = .flushing flight wake)
      (hw : flight.waiting = []) : Due r limit (.land flight)
  | finish (hp : r.phase = .waiting) (hc : r.cancelled = true) : Due r limit .finish

/-- Why nothing is due before the limit. -/
inductive Resting (r : Reporter σ) (limit : Nat) : Prop where
  | waiting (hp : r.phase = .waiting) (hc : r.cancelled = false)
      (hl : limit ≤ max r.now r.ticker.deadline)
  | flushing {flight : Flight} {wake : Nat} (hp : r.phase = .flushing flight wake)
      (hl : limit ≤ wake)
  | stopped (hp : r.phase = .stopped)

lemma due_of_due? (h : r.due? limit = some e) : r.Due limit e := by
  unfold due? at h
  split at h
  case h_1 => simp at h
  case h_2 flight wake hp =>
    split at h
    case h_1 hw =>
      cases h
      exact .land hp hw
    case h_2 p rest hw =>
      split at h
      case isTrue hl =>
        cases h
        exact .answer hp hw hl
      case isFalse => simp at h
  case h_3 hp =>
    split at h
    case isTrue hc =>
      cases h
      exact .finish hp hc
    case isFalse hc =>
      dsimp only at h
      split at h
      case isTrue hl =>
        cases h
        exact .begin hp (Bool.not_eq_true _ ▸ hc) hl
      case isFalse => simp at h

lemma resting_of_due? (h : r.due? limit = none) : r.Resting limit := by
  unfold due? at h
  split at h
  case h_1 hp => exact .stopped hp
  case h_2 flight wake hp =>
    split at h
    case h_1 => simp at h
    case h_2 =>
      split at h
      case isTrue => simp at h
      case isFalse hl => exact .flushing hp (Nat.not_lt.1 hl)
  case h_3 hp =>
    split at h
    case isTrue => simp at h
    case isFalse hc =>
      dsimp only at h
      split at h
      case isTrue => simp at h
      case isFalse hl => exact .waiting hp (Bool.not_eq_true _ ▸ hc) (Nat.not_lt.1 hl)

lemma phase_begin (r : Reporter σ) :
    r.begin.phase = .waiting ∨ ∃ flight, r.begin.phase = .flushing flight r.wake := by
  unfold begin
  dsimp only
  split
  · exact .inl rfl
  · split
    · exact .inl rfl
    · exact .inr ⟨_, rfl⟩

lemma cancelled_perform (r : Reporter σ) (e : Event) : (r.perform e).cancelled = r.cancelled := by
  cases e <;> rfl

lemma now_perform_le (hd : r.Due limit e) (h : r.now ≤ limit) : (r.perform e).now ≤ limit := by
  cases hd with
  | begin hp hc hl => exact hl.le
  | answer hp hw hl => exact hl.le
  | land => exact h
  | finish => exact h

lemma runUntil_of_due? (h : r.due? limit = some e) :
    r.runUntil limit = (r.perform e).runUntil limit := by
  rw [runUntil]
  split
  case h_1 e' h' => rw [Option.some.inj (h.symm.trans h')]
  case h_2 h' => simp [h] at h'

lemma runUntil_of_resting (h : r.due? limit = none) : r.runUntil limit = r := by
  rw [runUntil]
  split
  case h_1 e h' => simp [h] at h'
  case h_2 => rfl

lemma due?_runUntil (r : Reporter σ) (limit : Nat) : (r.runUntil limit).due? limit = none := by
  induction r using runUntil.induct limit with
  | case1 r e h ih => rw [runUntil_of_due? h, ih]
  | case2 r h => rw [runUntil_of_resting h, h]

lemma now_runUntil_le (h : r.now ≤ limit) : (r.runUntil limit).now ≤ limit := by
  induction r using runUntil.induct limit with
  | case1 r e hd ih =>
    rw [runUntil_of_due? hd]
    exact ih (now_perform_le (due_of_due? hd) h)
  | case2 r hd => rwa [runUntil_of_resting hd]

lemma cancelled_runUntil (r : Reporter σ) (limit : Nat) :
    (r.runUntil limit).cancelled = r.cancelled := by
  induction r using runUntil.induct limit with
  | case1 r e hd ih => rw [runUntil_of_due? hd, ih, cancelled_perform]
  | case2 r hd => rw [runUntil_of_resting hd]

end Reporter

/-- A reporter and the turns that it has had, the latest first. -/
structure Watched (σ : Type) where
  reporter : Reporter σ
  turns : List Turn

/-- What the owner of a reporter may do, and what may happen around it. -/
inductive Move (σ : Type) where
  | sleep (d : Duration)
  /-- One event happens, if one is due before the limit, and whatever else is due waits. -/
  | event (limit : Nat)
  | cancel
  | collect
  | registry (f : Registry → Registry)
  | outlet (f : σ → σ)

namespace Reporter

variable {σ : Type}

def move (r : Reporter σ) : Move σ → Reporter σ
  | .sleep d => r.sleep d
  | .event limit => ((r.due? limit).map r.perform).getD r
  | .cancel => r.cancel
  | .collect => r.collect.2
  | .registry f => { r with registry := f r.registry }
  | .outlet f =>
    let sender := { r.cycle.sender with outlet := f r.cycle.sender.outlet }
    { r with cycle := { r.cycle with sender } }

end Reporter

namespace Watched

variable {σ : Type}

/-- Closes the latest turn. -/
def close (ended : Nat) : List Turn → List Turn
  | [] => []
  | t :: older => t.close ended :: older

/-- A turn lasts from the begin of a cycle to the end of its flush, if it comes to a flush. -/
def perform (w : Watched σ) (e : Event) : Watched σ :=
  let next := w.reporter.perform e
  let turns := match e with
    | .begin time =>
      let turns := ⟨w.reporter.ticker.deadline, time, none⟩ :: w.turns
      if next.phase = .waiting then close next.now turns else turns
    | .land _ => close next.now w.turns
    | .answer .. | .finish => w.turns
  ⟨next, turns⟩

def runUntil (w : Watched σ) (limit : Nat) : Watched σ :=
  match _due : w.reporter.due? limit with
  | some e => (w.perform e).runUntil limit
  | none => w
termination_by (limit - w.reporter.ticker.deadline, w.reporter.phase.rank)
decreasing_by exact Reporter.perform_decreases (by assumption)

/-- The reporter makes the move, and the turns of it are noted. -/
def move (w : Watched σ) (m : Move σ) : Watched σ :=
  let turns := match m with
    | .sleep d => if d.nanos = 0 then w.turns else (w.runUntil (w.reporter.now + d.nanos)).turns
    | .event limit => (((w.reporter.due? limit).map w.perform).getD w).turns
    | _ => w.turns
  ⟨w.reporter.move m, turns⟩

def run (w : Watched σ) (moves : List (Move σ)) : Watched σ := moves.foldl move w

/-- How the turns stand in every phase. -/
inductive Stage (period : Nat) (w : Watched σ) : Prop where
  | waiting {free : Nat} (hp : w.reporter.phase = .waiting)
      (ht : Timetable period w.turns (some free) w.reporter.ticker.deadline)
      (hf : free ≤ w.reporter.now) (hn : w.reporter.now ≤ max w.reporter.ticker.deadline free)
  | flushing {flight : Flight} {wake : Nat} (hp : w.reporter.phase = .flushing flight wake)
      (ht : Timetable period w.turns none w.reporter.ticker.deadline)
      (hb : ∀ t ∈ w.turns.head?, t.begun ≤ w.reporter.now) (hn : w.reporter.now ≤ wake)
  | stopped {free : Nat} (hp : w.reporter.phase = .stopped)
      (ht : Timetable period w.turns (some free) w.reporter.ticker.deadline)
      (he : w.reporter.cycle.sender.pending = 0)

/-- What holds of a watched reporter at all times. -/
structure Kept (period : Nat) (w : Watched σ) : Prop where
  period_eq : w.reporter.ticker.period = period
  stage : Stage period w

section Steps

variable {period limit : Nat} {v w : Watched σ} {e : Event}

@[simp] lemma reporter_perform (w : Watched σ) (e : Event) :
    (w.perform e).reporter = w.reporter.perform e := rfl

@[simp] lemma reporter_move (w : Watched σ) (m : Move σ) :
    (w.move m).reporter = w.reporter.move m := rfl

lemma runUntil_of_due? (h : w.reporter.due? limit = some e) :
    w.runUntil limit = (w.perform e).runUntil limit := by
  rw [runUntil]
  split
  case h_1 e' h' => rw [Option.some.inj (h.symm.trans h')]
  case h_2 h' => simp [h] at h'

lemma runUntil_of_resting (h : w.reporter.due? limit = none) : w.runUntil limit = w := by
  rw [runUntil]
  split
  case h_1 e h' => simp [h] at h'
  case h_2 => rfl

/-- Watching changes nothing. -/
lemma reporter_runUntil (w : Watched σ) (limit : Nat) :
    (w.runUntil limit).reporter = w.reporter.runUntil limit := by
  induction w using runUntil.induct limit with
  | case1 w e h ih => rw [runUntil_of_due? h, Reporter.runUntil_of_due? h, ih, reporter_perform]
  | case2 w h => rw [runUntil_of_resting h, Reporter.runUntil_of_resting h]

/-- What does not touch the phase, the time, the ticker, the turns and the queue breaks nothing. -/
lemma Kept.congr (h : Kept period w) (hphase : v.reporter.phase = w.reporter.phase)
    (hnow : v.reporter.now = w.reporter.now) (hticker : v.reporter.ticker = w.reporter.ticker)
    (hpending : v.reporter.cycle.sender.pending = w.reporter.cycle.sender.pending)
    (hturns : v.turns = w.turns) : Kept period v := by
  refine ⟨hticker ▸ h.period_eq, ?_⟩
  cases h.stage with
  | waiting hp ht hf hn =>
    rw [← hphase] at hp
    rw [← hnow] at hf hn
    rw [← hticker] at ht hn
    exact .waiting hp (hturns ▸ ht) hf hn
  | flushing hp ht hb hn =>
    rw [← hphase] at hp
    rw [← hnow] at hb hn
    rw [← hticker] at ht
    exact .flushing hp (hturns ▸ ht) (hturns ▸ hb) hn
  | stopped hp ht he =>
    rw [← hphase] at hp
    rw [← hticker] at ht
    exact .stopped hp (hturns ▸ ht) (hpending ▸ he)

/-- A turn begins as soon as its deadline has come and the reporter is free. -/
lemma Kept.begin (h : Kept period w) (hw : w.reporter.phase = .waiting) :
    Kept period (w.perform (.begin (max w.reporter.now w.reporter.ticker.deadline))) := by
  refine ⟨h.period_eq, ?_⟩
  cases h.stage with
  | flushing hp => simp [hp] at hw
  | stopped hp => simp [hp] at hw
  | @waiting free hp ht hf hn =>
    -- time has not passed both the deadline and the end of the turn before, so none was lost
    have htime : max w.reporter.now w.reporter.ticker.deadline =
        max w.reporter.ticker.deadline free := by omega
    rw [htime]
    have hbegin := ht.begin
    rw [← h.period_eq] at hbegin ⊢
    rcases (w.reporter.setNow (max w.reporter.ticker.deadline free)).phase_begin with
      hphase | ⟨flight, hphase⟩
    · refine .waiting hphase ?_ (Nat.le_refl _) (Nat.le_max_right _ _)
      have hturns : (w.perform (.begin (max w.reporter.ticker.deadline free))).turns =
          close (max w.reporter.ticker.deadline free) (_ :: w.turns) := if_pos hphase
      rw [hturns]
      exact hbegin.close (Nat.le_refl _)
    · have hturns : (w.perform (.begin (max w.reporter.ticker.deadline free))).turns =
          _ :: w.turns := if_neg (by rw [Reporter.perform, hphase]; simp)
      refine .flushing hphase (hturns ▸ hbegin) ?_ (Nat.le_add_right _ _)
      intro t hmem
      rw [hturns, List.head?_cons, Option.mem_some_iff] at hmem
      rw [← hmem]
      exact Nat.le_refl _

lemma Kept.answer {flight : Flight} {wake : Nat} (h : Kept period w)
    (hw : w.reporter.phase = .flushing flight wake) (p : String) (rest : List String) :
    Kept period (w.perform (.answer wake flight p rest)) := by
  refine ⟨h.period_eq, ?_⟩
  cases h.stage with
  | waiting hp => simp [hp] at hw
  | stopped hp => simp [hp] at hw
  | flushing hp ht hb hn =>
    cases hp.symm.trans hw
    exact .flushing rfl ht (fun t hmem => (hb t hmem).trans hn) (Nat.le_add_right _ _)

lemma Kept.land {flight : Flight} {wake : Nat} (h : Kept period w)
    (hw : w.reporter.phase = .flushing flight wake) : Kept period (w.perform (.land flight)) := by
  refine ⟨h.period_eq, ?_⟩
  cases h.stage with
  | waiting hp => simp [hp] at hw
  | stopped hp => simp [hp] at hw
  | flushing hp ht hb hn =>
    refine .waiting rfl ?_ (Nat.le_refl _) (Nat.le_max_right _ _)
    obtain ⟨r, turns⟩ := w
    cases turns with
    | nil => cases ht
    | cons t older => exact ht.close (hb t rfl)

lemma Kept.finish (h : Kept period w) (hw : w.reporter.phase = .waiting) :
    Kept period (w.perform .finish) := by
  refine ⟨h.period_eq, ?_⟩
  cases h.stage with
  | flushing hp => simp [hp] at hw
  | stopped hp => simp [hp] at hw
  | waiting hp ht hf hn => exact .stopped rfl ht rfl

lemma Kept.perform (h : Kept period w) (hd : w.reporter.Due limit e) :
    Kept period (w.perform e) := by
  cases hd with
  | begin hp hc hl => exact h.begin hp
  | answer hp hw hl => exact h.answer hp _ _
  | land hp hw => exact h.land hp
  | finish hp hc => exact h.finish hp

lemma Kept.runUntil (h : Kept period w) (limit : Nat) : Kept period (w.runUntil limit) := by
  induction w using runUntil.induct limit with
  | case1 w e hd ih =>
    rw [runUntil_of_due? hd]
    exact ih (h.perform (Reporter.due_of_due? hd))
  | case2 w hd => rwa [runUntil_of_resting hd]

/-- Time may pass as long as nothing is due. -/
lemma Kept.setNow (h : Kept period w) (hrest : w.reporter.Resting limit)
    (hn : w.reporter.now ≤ limit) : Kept period ⟨w.reporter.setNow limit, w.turns⟩ := by
  refine ⟨h.period_eq, ?_⟩
  cases h.stage with
  | @waiting free hp ht hf hm =>
    cases hrest with
    | waiting _ _ hl => exact .waiting hp ht (hf.trans hn) (by simp only [Reporter.setNow]; omega)
    | flushing hp' => simp [hp] at hp'
    | stopped hp' => simp [hp] at hp'
  | flushing hp ht hb hm =>
    cases hrest with
    | waiting hp' => simp [hp] at hp'
    | flushing hp' hl =>
      cases hp.symm.trans hp'
      exact .flushing hp ht (fun t hmem => (hb t hmem).trans hn) hl
    | stopped hp' => simp [hp] at hp'
  | stopped hp ht he => exact .stopped hp ht he

lemma Kept.sleep (h : Kept period w) (d : Duration) : Kept period (w.move (.sleep d)) := by
  by_cases hd : d.nanos = 0
  · refine h.congr ?_ ?_ ?_ ?_ ?_ <;> simp [move, Reporter.move, Reporter.sleep, hd]
  · have hkept := h.runUntil (w.reporter.now + d.nanos)
    have hrest := Reporter.resting_of_due? (w.reporter.due?_runUntil (w.reporter.now + d.nanos))
    have hnow := Reporter.now_runUntil_le (Nat.le_add_right w.reporter.now d.nanos)
    rw [← reporter_runUntil] at hrest hnow
    simpa [move, Reporter.move, Reporter.sleep, hd, reporter_runUntil] using hkept.setNow hrest hnow

lemma move_event (hd : w.reporter.due? limit = some e) :
    w.move (.event limit) = w.perform e := by
  simp only [move, Reporter.move, hd, Option.map_some, Option.getD_some]
  rfl

lemma Kept.move (h : Kept period w) (m : Move σ) : Kept period (w.move m) := by
  cases m with
  | sleep d => exact h.sleep d
  | event limit =>
    cases hd : w.reporter.due? limit with
    | none => simpa [Watched.move, Reporter.move, hd] using h
    | some e => exact move_event hd ▸ h.perform (Reporter.due_of_due? hd)
  | cancel => exact h.congr rfl rfl rfl rfl rfl
  | collect => exact h.congr rfl rfl rfl rfl rfl
  | registry f => exact h.congr rfl rfl rfl rfl rfl
  | outlet f => exact h.congr rfl rfl rfl rfl rfl

lemma Kept.run (h : Kept period w) (moves : List (Move σ)) : Kept period (w.run moves) := by
  induction moves generalizing w with
  | nil => exact h
  | cons m moves ih => exact ih (h.move m)

end Steps

section Cancelled

variable {limit : Nat} {w : Watched σ}

lemma map_start_close (ended : Nat) (turns : List Turn) :
    (close ended turns).map Turn.start = turns.map Turn.start := by
  cases turns <;> rfl

lemma starts_perform {e : Event} (hc : w.reporter.cancelled = true)
    (hd : w.reporter.Due limit e) :
    (w.perform e).turns.map Turn.start = w.turns.map Turn.start := by
  cases hd with
  | begin hp hc' hl => simp [hc] at hc'
  | answer hp hw hl => rfl
  | land hp hw => exact map_start_close _ _
  | finish hp hc => rfl

lemma starts_runUntil (hc : w.reporter.cancelled = true) (limit : Nat) :
    (w.runUntil limit).turns.map Turn.start = w.turns.map Turn.start := by
  induction w using runUntil.induct limit with
  | case1 w e hd ih =>
    rw [runUntil_of_due? hd, ih ((w.reporter.cancelled_perform e).trans hc)]
    exact starts_perform hc (Reporter.due_of_due? hd)
  | case2 w hd => rw [runUntil_of_resting hd]

lemma cancelled_move (hc : w.reporter.cancelled = true) (m : Move σ) :
    (w.move m).reporter.cancelled = true := by
  cases m with
  | sleep d =>
    simp only [reporter_move, Reporter.move, Reporter.sleep]
    split
    · exact hc
    · exact (Reporter.cancelled_runUntil _ _).trans hc
  | event limit =>
    cases hd : w.reporter.due? limit with
    | none => simpa [Reporter.move, hd] using hc
    | some e => simpa [Reporter.move, hd] using (w.reporter.cancelled_perform e).trans hc
  | cancel => rfl
  | collect => exact hc
  | registry f => exact hc
  | outlet f => exact hc

lemma starts_move (hc : w.reporter.cancelled = true) (m : Move σ) :
    (w.move m).turns.map Turn.start = w.turns.map Turn.start := by
  cases m with
  | sleep d =>
    simp only [move]
    split
    · rfl
    · exact starts_runUntil hc _
  | event limit =>
    cases hd : w.reporter.due? limit with
    | none => simp [move, hd]
    | some e => exact move_event hd ▸ starts_perform hc (Reporter.due_of_due? hd)
  | cancel => rfl
  | collect => rfl
  | registry f => rfl
  | outlet f => rfl

/-- A cancelled reporter begins no turn, whatever is done with it. -/
lemma starts_run (hc : w.reporter.cancelled = true) (moves : List (Move σ)) :
    (w.run moves).turns.map Turn.start = w.turns.map Turn.start := by
  induction moves generalizing w with
  | nil => rfl
  | cons m moves ih => exact (ih (cancelled_move hc m)).trans (starts_move hc m)

end Cancelled

end Watched

end Telemetry
