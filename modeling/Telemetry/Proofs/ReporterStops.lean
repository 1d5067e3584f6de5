import Telemetry.Proofs.ReporterTurns
import Telemetry.Transport.Script

/-!
# Stopping a reporter

To stop a reporter is to cancel it and to let it come to its end: the flush under way gets its
answers, what is still pending is dropped without a send, and the figures of the sender are told.
-/

namespace Telemetry

namespace Sender

variable {σ : Type}

/-- A flush ends the same whatever it says of the payloads that are left. -/
lemma land_waiting (s : Sender σ) (f : Flight) (ps : List String) :
    s.land { f with waiting := ps } = s.land f := rfl

lemma carry_waiting (s : Sender σ) (f : Flight) (ps : List String) (p : String) :
    s.carry { f with waiting := ps } p =
      ((s.carry f p).1, { (s.carry f p).2 with waiting := ps }) := by
  unfold carry
  cases s.transport.send s.outlet p with
  | mk answer outlet => cases answer <;> rfl

lemma carryAll_waiting (s : Sender σ) (f : Flight) (qs ps : List String) :
    s.carryAll { f with waiting := qs } ps =
      ((s.carryAll f ps).1, { (s.carryAll f ps).2 with waiting := qs }) := by
  induction ps generalizing s f with
  | nil => rfl
  | cons p ps ih =>
    rw [carryAll, carry_waiting]
    exact ih _ _

lemma close_of_pending {s : Sender σ} (h : s.pending = 0) : s.close.2 = s := by
  have hitems : s.queue.items = [] := List.length_eq_zero_iff.1 h
  have hclear : s.queue.clear = s.queue := by
    unfold Queue.clear
    congr 1
    exact hitems.symm
  rw [close, hclear]

end Sender

namespace Reporter

variable {σ : Type} {r : Reporter σ} {limit wake : Nat} {flight : Flight}

/-- The sender when the flush under way, if there is one, is over. -/
def settled (r : Reporter σ) : Sender σ :=
  match r.phase with
  | .flushing flight _ =>
    let (sender, flight) := r.cycle.sender.carryAll flight flight.waiting
    (sender.land flight).1
  | .waiting | .stopped => r.cycle.sender

/-- A turn that is let finish does to the sender what a report does. -/
theorem settled_begin (r : Reporter σ) :
    r.begin.settled = (r.cycle.report r.registry r.registry.clock.millis).cycle.sender := by
  unfold settled begin Cycle.report Cycle.send
  dsimp only
  generalize r.cycle.gather r.registry r.registry.clock.millis = g
  cases haborted : g.report.aborted with
  | true => rfl
  | false =>
    cases hlaunch : g.cycle.sender.launch with
    | none => simp [Sender.flush, hlaunch]
    | some flight => simp [Sender.flush, hlaunch]

/-- What stopping a reporter does. -/
structure Stops (r : Reporter σ) : Prop where
  /-- A cancelled reporter comes by itself to where stopping leaves it. -/
  completes : ∀ limit, r.stop.now < limit → r.cancel.runUntil limit = r.stop
  finished : r.stop.finished = true
  told : (ReporterHandle.on r).stop = (some r.settled.stats, .stopped r.stop)
  /-- Dropping what is pending changes no figure. -/
  stats : r.stop.cycle.sender.stats = r.settled.stats
  unsent : r.stop.cycle.sender.outlet = r.settled.outlet
  dropped : r.stop.cycle.sender.pending = 0

lemma phase_answer (r : Reporter σ) (flight : Flight) (p : String) (rest : List String) :
    (r.answer flight p rest).1.phase =
      .flushing (r.answer flight p rest).2 (r.answer flight p rest).1.wake := rfl

lemma waiting_answer (r : Reporter σ) (flight : Flight) (p : String) (rest : List String) :
    (r.answer flight p rest).2.waiting = rest := note_waiting _ _ _

lemma complete_cons (r : Reporter σ) (flight : Flight) (wake : Nat) (p : String)
    (rest : List String) :
    r.complete flight wake (p :: rest) =
      ((r.setNow wake).answer flight p rest).1.complete ((r.setNow wake).answer flight p rest).2
        ((r.setNow wake).answer flight p rest).1.wake rest := rfl

lemma now_le_complete (h : r.now ≤ wake) (ps : List String) :
    r.now ≤ (r.complete flight wake ps).1.now := by
  induction ps generalizing r flight wake with
  | nil => exact Nat.le_refl _
  | cons p ps ih =>
    rw [complete_cons]
    exact h.trans (ih (r := ((r.setNow wake).answer flight p ps).1) (Nat.le_add_right _ _))

lemma wake_le_complete (r : Reporter σ) (flight : Flight) (wake : Nat) (p : String)
    (ps : List String) : wake ≤ (r.complete flight wake (p :: ps)).1.now := by
  rw [complete_cons]
  exact now_le_complete (r := ((r.setNow wake).answer flight p ps).1) (Nat.le_add_right _ _) ps

lemma runUntil_of_stopped (h : r.phase = .stopped) (limit : Nat) : r.runUntil limit = r :=
  runUntil_of_resting (by simp [due?, h])

lemma runUntil_of_finishing (hc : r.cancelled = true) (h : r.phase = .waiting) (limit : Nat) :
    r.runUntil limit = r.finish := by
  have hd : r.due? limit = some .finish := by simp [due?, h, hc]
  rw [runUntil_of_due? hd]
  exact runUntil_of_stopped rfl limit

/-- A cancelled reporter hands over what is left of the flush, lands it and ends. -/
lemma runUntil_of_flushing {ps : List String} (hc : r.cancelled = true)
    (h : r.phase = .flushing flight wake) (hw : flight.waiting = ps)
    (hl : (r.complete flight wake ps).1.now < limit) :
    r.runUntil limit =
      ((r.complete flight wake ps).1.land (r.complete flight wake ps).2).finish := by
  induction ps generalizing r flight wake with
  | nil =>
    have hd : r.due? limit = some (.land flight) := by simp [due?, h, hw]
    rw [runUntil_of_due? hd]
    exact runUntil_of_finishing (r := r.land flight) hc rfl limit
  | cons p ps ih =>
    -- the flush does not end before this answer, so the answer comes before the limit
    have hwake : wake < limit := Nat.lt_of_le_of_lt (r.wake_le_complete flight wake p ps) hl
    have hd : r.due? limit = some (.answer wake flight p ps) := by simp [due?, h, hw, hwake]
    rw [complete_cons] at hl ⊢
    rw [runUntil_of_due? hd]
    exact ih hc (phase_answer _ _ _ _) (waiting_answer _ _ _ _) hl

lemma stop_of_stopped (h : r.phase = .stopped) : r.stop = r.cancel := by
  simp [stop, cancel, h]

lemma stop_of_waiting (h : r.phase = .waiting) : r.stop = r.cancel.finish := by
  simp [stop, cancel, h]

lemma stop_of_flushing (h : r.phase = .flushing flight wake) :
    r.stop = ((r.cancel.complete flight wake flight.waiting).1.land
      (r.cancel.complete flight wake flight.waiting).2).finish := by
  simp [stop, cancel, h]

theorem runUntil_cancel (h : r.stop.now < limit) : r.cancel.runUntil limit = r.stop := by
  cases hp : r.phase with
  | stopped =>
    rw [stop_of_stopped hp]
    exact runUntil_of_stopped (r := r.cancel) hp limit
  | waiting =>
    rw [stop_of_waiting hp]
    exact runUntil_of_finishing (r := r.cancel) rfl hp limit
  | flushing flight wake =>
    rw [stop_of_flushing hp] at h ⊢
    exact runUntil_of_flushing (r := r.cancel) rfl hp rfl h

lemma carry_answer (r : Reporter σ) (flight : Flight) (p : String) (rest : List String) :
    ((r.answer flight p rest).1.cycle.sender, (r.answer flight p rest).2) =
      r.cycle.sender.carry { flight with waiting := rest } p := rfl

/-- To complete a flush is to hand over all that is left of it. -/
lemma complete_eq (r : Reporter σ) (flight : Flight) (wake : Nat) (ps : List String) :
    ∃ qs, ((r.complete flight wake ps).1.cycle.sender, (r.complete flight wake ps).2) =
      r.cycle.sender.carryAll { flight with waiting := qs } ps := by
  induction ps generalizing r flight wake with
  | nil => exact ⟨flight.waiting, rfl⟩
  | cons p ps ih =>
    obtain ⟨qs, hqs⟩ := ih ((r.setNow wake).answer flight p ps).1
      ((r.setNow wake).answer flight p ps).2 ((r.setNow wake).answer flight p ps).1.wake
    refine ⟨qs, hqs.trans ?_⟩
    have hcarry := (r.setNow wake).carry_answer flight p ps
    rw [Sender.carry_waiting] at hcarry
    obtain ⟨hsender, hflight⟩ := Prod.mk.inj hcarry
    rw [Sender.carryAll, Sender.carry_waiting, hsender, hflight]
    rfl

/-- A flush that is completed ends as one that went through at once. -/
lemma sender_land_complete (h : r.phase = .flushing flight wake) :
    ((r.complete flight wake flight.waiting).1.land
      (r.complete flight wake flight.waiting).2).cycle.sender = r.settled := by
  obtain ⟨qs, hqs⟩ := r.complete_eq flight wake flight.waiting
  rw [Sender.carryAll_waiting] at hqs
  obtain ⟨hsender, hflight⟩ := Prod.mk.inj hqs
  have hland : ((r.complete flight wake flight.waiting).1.land
      (r.complete flight wake flight.waiting).2).cycle.sender =
      ((r.complete flight wake flight.waiting).1.cycle.sender.land
        (r.complete flight wake flight.waiting).2).1 := rfl
  rw [hland, hsender, hflight, Sender.land_waiting, settled, h]

/-- Stopping closes the sender once the flush under way is over. -/
lemma sender_stop (h : r.phase = .stopped → r.cycle.sender.pending = 0) :
    r.stop.cycle.sender = r.settled.close.2 := by
  cases hp : r.phase with
  | stopped =>
    rw [stop_of_stopped hp, settled, hp]
    exact (Sender.close_of_pending (h hp)).symm
  | waiting =>
    rw [stop_of_waiting hp, settled, hp]
    rfl
  | flushing flight wake =>
    have hsettled : _ = r.settled := sender_land_complete (r := r.cancel) hp
    rw [stop_of_flushing hp, ← hsettled]
    rfl

lemma phase_stop (r : Reporter σ) : r.stop.phase = .stopped := by
  cases hp : r.phase with
  | stopped =>
    rw [stop_of_stopped hp]
    exact hp
  | waiting =>
    rw [stop_of_waiting hp]
    rfl
  | flushing flight wake =>
    rw [stop_of_flushing hp]
    rfl

theorem stops (h : r.phase = .stopped → r.cycle.sender.pending = 0) : r.Stops := by
  have hsender := sender_stop h
  have hstats : r.stop.cycle.sender.stats = r.settled.stats := by rw [hsender]; rfl
  exact
    { completes := fun limit hl => runUntil_cancel hl
      finished := by simp [finished, phase_stop]
      told := by rw [ReporterHandle.stop, hstats]
      stats := hstats
      unsent := by rw [hsender]; rfl
      dropped := by rw [hsender]; rfl }

end Reporter

namespace Watched

variable {σ : Type}

/-- When the latest turn ended. -/
def freeSince (w : Watched σ) : Nat := (w.turns.head?.bind Turn.ended).getD 0

section Kept

variable {period : Nat} {w : Watched σ}

lemma Kept.punctual (h : Kept period w) (hp : 0 < period) :
    Punctual period w.turns w.reporter.ticker.deadline := by
  cases h.stage with
  | waiting _ ht => exact ht.punctual hp
  | flushing _ ht => exact ht.punctual hp
  | stopped _ ht => exact ht.punctual hp

lemma Kept.prompt (h : Kept period w) (hw : w.reporter.phase = .waiting) :
    w.reporter.now ≤ max w.reporter.ticker.deadline w.freeSince := by
  cases h.stage with
  | waiting hp ht hf hn => rwa [freeSince, ht.free_eq]
  | flushing hp => simp [hp] at hw
  | stopped hp => simp [hp] at hw

lemma Kept.flushing_of_open (h : Kept period w) {t : Turn} (ht : t ∈ w.turns)
    (ho : t.ended = none) : ∃ flight wake, w.reporter.phase = .flushing flight wake := by
  cases h.stage with
  | waiting hp htable => exact absurd ho (htable.ended_ne_none t ht)
  | flushing hp => exact ⟨_, _, hp⟩
  | stopped hp htable => exact absurd ho (htable.ended_ne_none t ht)

lemma Kept.pending (h : Kept period w) (hw : w.reporter.phase = .stopped) :
    w.reporter.cycle.sender.pending = 0 := by
  cases h.stage with
  | waiting hp => simp [hp] at hw
  | flushing hp => simp [hp] at hw
  | stopped hp ht he => exact he

end Kept

lemma kept_spawn {delays : Nat → Duration} {cycle : Cycle σ} {registry : Registry}
    {period : Duration} {startMillis : Int64} {r : Reporter σ}
    (h : Reporter.spawn delays cycle registry period startMillis = some r) :
    Kept period.nanos ⟨r, []⟩ := by
  unfold Reporter.spawn at h
  split at h
  case isTrue hp =>
    cases h
    refine ⟨rfl, .waiting rfl ?_ (Nat.le_refl _) (Nat.zero_le _)⟩
    simpa [Ticker.starting] using @Timetable.start period.nanos
  case isFalse => simp at h

/-- However long the sends take and whatever is done with a reporter in the meantime, its turns keep
to the timetable until it is cancelled, and stopping it lets only the flush under way finish. -/
theorem punctual_until_stopped (delays : Nat → Duration) (cycle : Cycle σ) (registry : Registry)
    {period : Duration} (hp : 0 < period.nanos) (startMillis : Int64) :
    ∃ r, Reporter.spawn delays cycle registry period startMillis = some r ∧
      ∀ moves : List (Move σ),
        let w := run ⟨r, []⟩ moves
        Punctual period.nanos w.turns w.reporter.ticker.deadline ∧
        (w.reporter.phase = .waiting →
          w.reporter.now ≤ max w.reporter.ticker.deadline w.freeSince) ∧
        (∀ t ∈ w.turns, t.ended = none →
          ∃ flight wake, w.reporter.phase = .flushing flight wake) ∧
        (∀ later, (w.run (.cancel :: later)).turns.map Turn.start = w.turns.map Turn.start) ∧
        w.reporter.Stops := by
  refine ⟨_, dif_pos hp, fun moves => ?_⟩
  intro w
  have hkept : Kept period.nanos w := (kept_spawn (dif_pos hp)).run moves
  refine ⟨hkept.punctual hp, hkept.prompt, fun t => hkept.flushing_of_open, ?_, ?_⟩
  · intro later
    exact starts_run (w := w.move .cancel) rfl later
  · exact Reporter.stops hkept.pending

def single : Cycle ScriptOutlet :=
  (Cycle.new Settings.default [] ⟨.batch, .seconds, ⟨0⟩, ScriptOutlet.send⟩ ⟨[]⟩).toOption.get rfl

/-- Every send takes two and a half periods. The second turn begins late and skips a deadline, and
its flush is finished after the cancellation. -/
theorem punctual_until_stopped_slow :
    let lone := (Registry.new (.starting 0)).place "a" (.counter ⟨1⟩)
    let moves := List.replicate 4 (.event (Duration.ofSeconds 1).nanos) ++ [.cancel]
    0 < (Duration.ofMillis 10).nanos ∧
    ∃ r, Reporter.spawn (fun _ => .ofMillis 25) single lone (.ofMillis 10) 0 = some r ∧
      let w := run ⟨r, []⟩ moves
      w.turns = [⟨20000000, 35000000, none⟩, ⟨10000000, 10000000, some 35000000⟩] ∧
      w.reporter.ticker.deadline = 40000000 ∧
      Punctual (Duration.ofMillis 10).nanos w.turns w.reporter.ticker.deadline ∧
      w.reporter.settled.stats = ⟨2, 0, 2, 0, 24⟩ ∧
      (ReporterHandle.on w.reporter).stop =
        (some w.reporter.settled.stats, .stopped w.reporter.stop) := by
  intro lone moves
  have hp : 0 < (Duration.ofMillis 10).nanos := by decide
  obtain ⟨r, hr, h⟩ := punctual_until_stopped (fun _ => .ofMillis 25) single lone hp 0
  obtain ⟨hpunctual, _, _, _, hstops⟩ := h moves
  refine ⟨hp, r, hr, ?_, ?_, hpunctual, ?_, hstops.told⟩
  all_goals
    cases hr
    decide +kernel

end Watched

end Telemetry
