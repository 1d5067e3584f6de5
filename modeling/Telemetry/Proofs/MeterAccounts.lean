import Mathlib.Algebra.Ring.Nat
import Telemetry.Proofs.MeterIntervals

/-!
# The books of a meter

Every tick of an average takes the events that have come since the one before. In any run of marks
and readings, also with a clock that goes back, the three averages tick together, no event is lost,
and the current interval began as many intervals after the start as there were ticks.
-/

namespace Telemetry

/-- A moving average that keeps account of its events. -/
structure Account where
  average : MovingAverage
  /-- The events that each tick took, the first tick first. -/
  taken : List UInt64

namespace Account

def ofMinutes (minutes : Float) : Account := ⟨.ofMinutes minutes, []⟩

def mark (a : Account) (n : UInt64) : Account := { a with average := a.average.mark n }

def tick (a : Account) : Account := ⟨a.average.tick, a.taken ++ [a.average.pending]⟩

/-- Ticks one after another. -/
def ticks (a : Account) : Nat → Account
  | 0 => a
  | n + 1 => a.tick.ticks n

/-- What was taken, and what waits for the next tick. -/
def book (a : Account) : List UInt64 × UInt64 := (a.taken, a.average.pending)

/-- All events of the account. -/
def events (a : Account) : Nat := (a.taken.map UInt64.toNat).sum + a.average.pending.toNat

variable {a b : Account}

lemma book_ofMinutes (minutes : Float) : (ofMinutes minutes).book = ([], 0) := rfl

lemma average_ticks (a : Account) (n : Nat) : (a.ticks n).average = a.average.ticks n := by
  induction n generalizing a with
  | zero => rfl
  | succ n ih => exact (ih a.tick).trans (MovingAverage.ticks_succ a.average n).symm

lemma length_taken_ticks (a : Account) (n : Nat) :
    (a.ticks n).taken.length = a.taken.length + n := by
  induction n generalizing a with
  | zero => rfl
  | succ n ih =>
    rw [ticks, ih, tick, List.length_append, List.length_singleton]
    omega

lemma events_tick (a : Account) : a.tick.events = a.events := by
  have hpending : a.tick.average.pending.toNat = 0 := rfl
  rw [events, hpending, tick, List.map_append, List.sum_append, List.map_singleton,
    List.sum_singleton, events]
  omega

/-- A tick moves events within the account. -/
lemma events_ticks (a : Account) (n : Nat) : (a.ticks n).events = a.events := by
  induction n generalizing a with
  | zero => rfl
  | succ n ih => exact (ih a.tick).trans (events_tick a)

lemma events_mark {n : UInt64} (h : a.events + n.toNat < 2 ^ 64) :
    (a.mark n).events = a.events + n.toNat := by
  have hle : a.average.pending.toNat ≤ a.events := Nat.le_add_left _ _
  have hsum : (a.average.pending + n).toNat = a.average.pending.toNat + n.toNat := by
    rw [UInt64.toNat_add]
    exact Nat.mod_eq_of_lt (by omega)
  have hevents : (a.mark n).events =
      (a.taken.map UInt64.toNat).sum + (a.average.pending + n).toNat := rfl
  rw [hevents, hsum, events]
  omega

lemma book_tick (h : a.book = b.book) : a.tick.book = b.tick.book := by
  obtain ⟨htaken, hpending⟩ := Prod.mk.inj h
  rw [book, book, tick, tick, htaken, hpending]
  rfl

lemma book_ticks (h : a.book = b.book) (n : Nat) : (a.ticks n).book = (b.ticks n).book := by
  induction n generalizing a b with
  | zero => exact h
  | succ n ih => exact ih (book_tick h)

lemma book_mark (h : a.book = b.book) (n : UInt64) : (a.mark n).book = (b.mark n).book := by
  obtain ⟨htaken, hpending⟩ := Prod.mk.inj h
  rw [book, book, mark, mark, MovingAverage.mark, MovingAverage.mark, htaken, hpending]

lemma events_eq_of_book (h : a.book = b.book) : a.events = b.events := by
  obtain ⟨htaken, hpending⟩ := Prod.mk.inj h
  rw [events, events, htaken, hpending]

end Account

/-- The accounts of the three averages. -/
structure Accounts where
  one : Account
  five : Account
  fifteen : Account

namespace Accounts

def new : Accounts := ⟨.ofMinutes 1, .ofMinutes 5, .ofMinutes 15⟩

def mark (b : Accounts) (n : UInt64) : Accounts := ⟨b.one.mark n, b.five.mark n, b.fifteen.mark n⟩

def ticks (b : Accounts) (n : Nat) : Accounts := ⟨b.one.ticks n, b.five.ticks n, b.fifteen.ticks n⟩

def averages (b : Accounts) : Averages := ⟨b.one.average, b.five.average, b.fifteen.average⟩

/-- What the ticks of the three averages took. -/
def taken (b : Accounts) : List (List UInt64) := [b.one.taken, b.five.taken, b.fifteen.taken]

lemma averages_ticks (b : Accounts) (n : Nat) : (b.ticks n).averages = b.averages.ticks n := by
  rw [averages, ticks, averages, Averages.ticks, Account.average_ticks, Account.average_ticks,
    Account.average_ticks]

end Accounts

namespace Meter

variable {m : Meter} {start now : UInt64} {b : Accounts} {total : Nat}

/-- The ticks that a call at this time makes up for. -/
def due (m : Meter) (now : UInt64) : Nat :=
  if Clock.since now m.lastTick ≤ interval then 0 else (Clock.since now m.lastTick / interval).toNat

lemma averages_catchUp (m : Meter) (now : UInt64) :
    (m.catchUp now).averages = m.averages.ticks (m.due now) := by
  unfold catchUp due
  dsimp only
  split <;> rfl

lemma count_catchUp (m : Meter) (now : UInt64) : (m.catchUp now).count = m.count := by
  unfold catchUp
  dsimp only
  split <;> rfl

lemma toNat_since (now earlier : UInt64) :
    (Clock.since now earlier).toNat = now.toNat - earlier.toNat := by
  unfold Clock.since
  split
  · rename_i h
    rw [UInt64.toNat_sub_of_le _ _ h]
  · rename_i h
    have hlt := UInt64.lt_iff_toNat_lt.1 (UInt64.not_le.1 h)
    rw [Nat.sub_eq_zero_of_le (Nat.le_of_lt hlt)]
    rfl

/-- What is taken off the time to find the beginning of the interval does not exceed it. -/
lemma rest_le (m : Meter) (now : UInt64) : Clock.since now m.lastTick % interval ≤ now := by
  rw [UInt64.le_iff_toNat_le, UInt64.toNat_mod, toNat_since]
  have hmod := Nat.mod_le (now.toNat - m.lastTick.toNat) interval.toNat
  omega

/-- The current interval moves on by one interval for each tick. -/
lemma lastTick_catchUp (m : Meter) (now : UInt64) :
    (m.catchUp now).lastTick.toNat = m.lastTick.toNat + m.due now * interval.toNat := by
  by_cases hyoung : Clock.since now m.lastTick ≤ interval
  · rw [catchUp_of_young hyoung, due, if_pos hyoung, Nat.zero_mul, Nat.add_zero]
  · have hlast : (m.catchUp now).lastTick = now - Clock.since now m.lastTick % interval :=
      congrArg Meter.lastTick (if_neg hyoung)
    have hover := UInt64.lt_iff_toNat_lt.1 (UInt64.not_le.1 hyoung)
    rw [hlast, UInt64.toNat_sub_of_le _ _ (m.rest_le now), due, if_neg hyoung, UInt64.toNat_mod,
      UInt64.toNat_div]
    rw [toNat_since, toNat_interval] at *
    omega

/-- No ticks are due while the clock has not passed the beginning of the current interval. -/
lemma due_of_le (h : now ≤ m.lastTick) : m.due now = 0 := by
  refine if_pos ?_
  rw [UInt64.le_iff_toNat_le, toNat_since]
  have hle := UInt64.le_iff_toNat_le.1 h
  omega

/-- After a call no more than one interval is under way. -/
lemma age_catchUp (h : m.lastTick ≤ now) : (m.catchUp now).lastTick ≤ now ∧
    now.toNat - (m.catchUp now).lastTick.toNat ≤ interval.toNat := by
  have hle := UInt64.le_iff_toNat_le.1 h
  have hlast := m.lastTick_catchUp now
  rw [UInt64.le_iff_toNat_le]
  unfold due at hlast
  split at hlast
  · rename_i hyoung
    have hage := UInt64.le_iff_toNat_le.1 hyoung
    rw [toNat_since] at hage
    omega
  · rw [UInt64.toNat_div, toNat_since, toNat_interval] at hlast
    rw [toNat_interval]
    omega

lemma lastTick_call (m : Meter) (c : Call) :
    (m.call c).lastTick = (m.catchUp c.time).lastTick := by
  cases c <;> rfl

def Call.events : Call → Nat
  | mark e => e.n.toNat
  | read _ => 0

/-- The accounts after a call: they tick as often as is due and then take the mark. -/
def note (m : Meter) (b : Accounts) : Call → Accounts
  | .mark e => (b.ticks (m.due e.now)).mark e.n
  | .read now => b.ticks (m.due now)

/-- The accounts after a run of calls. -/
def accounts (m : Meter) (b : Accounts) : List Call → Accounts
  | [] => b
  | c :: calls => (m.call c).accounts (m.note b c) calls

lemma taken_note (m : Meter) (b : Accounts) (c : Call) :
    (m.note b c).taken = (b.ticks (m.due c.time)).taken := by
  cases c <;> rfl

/-- The accounts are those of the meter's averages, agree with each other and hold all events. -/
structure Balances (m : Meter) (b : Accounts) (start : UInt64) (total : Nat) : Prop where
  averages : b.averages = m.averages
  five : b.five.book = b.one.book
  fifteen : b.fifteen.book = b.one.book
  lastTick : m.lastTick.toNat = start.toNat + b.one.taken.length * interval.toNat
  count : m.count.toNat = total
  events : b.one.events = total

lemma balances_new (start : UInt64) : (new start).Balances .new start 0 := by
  have hfive : Accounts.new.five.book = Accounts.new.one.book :=
    (Account.book_ofMinutes 5).trans (Account.book_ofMinutes 1).symm
  have hfifteen : Accounts.new.fifteen.book = Accounts.new.one.book :=
    (Account.book_ofMinutes 15).trans (Account.book_ofMinutes 1).symm
  have hnone : Accounts.new.one.taken.length = 0 := rfl
  refine ⟨rfl, hfive, hfifteen, ?_, rfl, rfl⟩
  rw [hnone, Nat.zero_mul]
  rfl

lemma Balances.catchUp (h : m.Balances b start total) (now : UInt64) :
    (m.catchUp now).Balances (b.ticks (m.due now)) start total := by
  have haverages := m.averages_catchUp now
  have hlast := m.lastTick_catchUp now
  generalize m.due now = n at haverages hlast ⊢
  refine ⟨?_, Account.book_ticks h.five n, Account.book_ticks h.fifteen n, ?_, ?_, ?_⟩
  · rw [Accounts.averages_ticks, h.averages, haverages]
  · have hlength : (b.ticks n).one.taken.length = b.one.taken.length + n :=
      Account.length_taken_ticks b.one n
    rw [hlast, h.lastTick, hlength, Nat.add_mul, Nat.add_assoc]
  · rw [count_catchUp]
    exact h.count
  · exact (Account.events_ticks b.one n).trans h.events

lemma Balances.call (h : m.Balances b start total) {c : Call}
    (hfew : total + c.events < 2 ^ 64) :
    (m.call c).Balances (m.note b c) start (total + c.events) := by
  cases c with
  | read now => exact h.catchUp now
  | mark e =>
    have hcaught := h.catchUp e.now
    have hevents : (b.ticks (m.due e.now)).one.events + e.n.toNat < 2 ^ 64 := by
      rw [hcaught.events]
      exact hfew
    refine ⟨?_, Account.book_mark hcaught.five _, Account.book_mark hcaught.fifteen _,
      hcaught.lastTick, ?_, ?_⟩
    · exact congrArg (Averages.mark · e.n) hcaught.averages
    · have hsum : (m.call (.mark e)).count = (m.catchUp e.now).count + e.n := rfl
      rw [hsum, UInt64.toNat_add, hcaught.count]
      exact Nat.mod_eq_of_lt hfew
    · exact (Account.events_mark hevents).trans (congrArg (· + e.n.toNat) hcaught.events)

/-- Any run, whatever the clock shows. -/
lemma Balances.run (h : m.Balances b start total) {calls : List Call}
    (hfew : total + (calls.map Call.events).sum < 2 ^ 64) :
    (m.run calls).Balances (m.accounts b calls) start (total + (calls.map Call.events).sum) := by
  induction calls generalizing m b total with
  | nil => exact h
  | cons c calls ih =>
    rw [List.map_cons, List.sum_cons, ← Nat.add_assoc] at hfew ⊢
    exact ih (h.call (by omega)) hfew

/-- A clock that has gone back makes nothing tick. -/
lemma taken_of_early {calls : List Call} (hearly : ∀ c ∈ calls, c.time ≤ m.lastTick) :
    (m.run calls).lastTick = m.lastTick ∧ (m.accounts b calls).taken = b.taken := by
  induction calls generalizing m b with
  | nil => exact ⟨rfl, rfl⟩
  | cons c calls ih =>
    have hdue : m.due c.time = 0 := due_of_le (hearly c List.mem_cons_self)
    have hlast : (m.call c).lastTick = m.lastTick := by
      rw [← UInt64.toNat_inj, lastTick_call, lastTick_catchUp, hdue, Nat.zero_mul, Nat.add_zero]
    have hlater : ∀ d ∈ calls, d.time ≤ (m.call c).lastTick := by
      rw [hlast]
      exact fun d hd => hearly d (List.mem_cons_of_mem c hd)
    obtain ⟨hrun, htaken⟩ := ih (b := m.note b c) hlater
    refine ⟨hrun.trans hlast, htaken.trans ?_⟩
    rw [taken_note, hdue]
    rfl

/-- The books of a meter after any run of marks and readings, and what the next calls do to them. -/
theorem books_run (start : UInt64) (calls : List Call)
    (hfew : (calls.map Call.events).sum < 2 ^ 64) :
    let m := (new start).run calls
    let b := (new start).accounts .new calls
    b.averages = m.averages ∧
    (b.five.taken = b.one.taken ∧ b.fifteen.taken = b.one.taken) ∧
    m.lastTick.toNat = start.toNat + b.one.taken.length * interval.toNat ∧
    (∀ a ∈ [b.one, b.five, b.fifteen], a.events = m.count.toNat) ∧
    m.count.toNat = (calls.map Call.events).sum ∧
    (∀ c : Call, m.lastTick ≤ (m.call c).lastTick ∧
      Clock.since c.time m.lastTick % interval ≤ c.time ∧
      (m.lastTick ≤ c.time → (m.call c).lastTick ≤ c.time ∧
        c.time.toNat - (m.call c).lastTick.toNat ≤ interval.toNat)) ∧
    ∀ later, (∀ c ∈ later, c.time ≤ m.lastTick) →
      (m.run later).lastTick = m.lastTick ∧ (m.accounts b later).taken = b.taken := by
  intro m b
  have hfits : 0 + (calls.map Call.events).sum < 2 ^ 64 := by rwa [Nat.zero_add]
  have h : m.Balances b start (0 + (calls.map Call.events).sum) := (balances_new start).run hfits
  rw [Nat.zero_add] at h
  have htaken := (Prod.mk.inj h.five).1
  have htaken' := (Prod.mk.inj h.fifteen).1
  refine ⟨h.averages, ⟨htaken, htaken'⟩, h.lastTick, ?_, h.count, ?_, ?_⟩
  · have hone : b.one.events = m.count.toNat := h.events.trans h.count.symm
    intro a ha
    simp only [List.mem_cons, List.not_mem_nil, or_false] at ha
    rcases ha with rfl | rfl | rfl
    · exact hone
    · exact (Account.events_eq_of_book h.five).trans hone
    · exact (Account.events_eq_of_book h.fifteen).trans hone
  · intro c
    rw [lastTick_call]
    refine ⟨?_, m.rest_le c.time, age_catchUp⟩
    rw [UInt64.le_iff_toNat_le, lastTick_catchUp]
    exact Nat.le_add_right _ _
  · intro later hearly
    exact taken_of_early hearly

/-- The clock goes back for the second mark, which the first tick after that takes too. -/
theorem books_run_back :
    let calls : List Call := [.mark ⟨5000001001, 7⟩, .mark ⟨2000, 3⟩, .read 15000001000]
    (calls.map Call.events).sum < 2 ^ 64 ∧
    ((new 1000).accounts .new calls).fifteen.taken = [0, 10, 0] ∧
    ((new 1000).run calls).lastTick.toNat = 1000 + 3 * 5000000000 := by
  intro calls
  have hfew : (calls.map Call.events).sum < 2 ^ 64 := by decide
  have htaken : ((new 1000).accounts .new calls).one.taken = [0, 10, 0] := by decide
  obtain ⟨_, ⟨_, hfifteen⟩, hlast, _⟩ := books_run 1000 calls hfew
  refine ⟨hfew, hfifteen.trans htaken, ?_⟩
  rw [hlast, htaken]
  rfl

end Meter

end Telemetry
