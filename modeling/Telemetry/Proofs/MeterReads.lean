import Telemetry.Proofs.MeterIntervals

/-!
# Readings between marks

What a meter shows follows from the intervals that its marks fall into. A reading in between makes no
difference to these, but for a call at the very end of an interval: that interval stays open if the
meter has caught up with its beginning, and ends otherwise.
-/

namespace Telemetry.Meter

/-- The calls come in the order of time, from `start` to `stop`. -/
def Ordered (start : UInt64) (calls : List Call) (stop : UInt64) : Prop :=
  (start :: (calls.map Call.time ++ [stop])).Pairwise (· ≤ ·)

section Ordered

variable {start early stop : UInt64} {c : Call} {calls later : List Call}

lemma Ordered.le (h : Ordered start calls stop) : start ≤ stop :=
  (List.pairwise_cons.1 h).1 stop (List.mem_append_right _ List.mem_cons_self)

lemma Ordered.mono (h : Ordered start calls stop) (hle : early ≤ start) :
    Ordered early calls stop := by
  obtain ⟨hfirst, hrest⟩ := List.pairwise_cons.1 h
  refine List.pairwise_cons.2 ⟨?_, hrest⟩
  intro u hu
  exact UInt64.le_trans hle (hfirst u hu)

lemma Ordered.cons (hle : start ≤ c.time) (h : Ordered c.time calls stop) :
    Ordered start (c :: calls) stop := by
  refine List.pairwise_cons.2 ⟨?_, h⟩
  intro u hu
  rcases List.mem_cons.1 hu with rfl | hu
  · exact hle
  · exact UInt64.le_trans hle ((List.pairwise_cons.1 h).1 u hu)

lemma Ordered.tail (h : Ordered start (c :: calls) stop) :
    start ≤ c.time ∧ Ordered c.time calls stop := by
  obtain ⟨hfirst, hrest⟩ := List.pairwise_cons.1 h
  exact ⟨hfirst c.time List.mem_cons_self, hrest⟩

lemma Ordered.split (h : Ordered start (calls ++ c :: later) stop) :
    Ordered start calls c.time ∧ Ordered c.time later stop := by
  rw [Ordered, List.map_append, List.map_cons, List.append_assoc, List.cons_append,
    ← List.cons_append, List.pairwise_append] at h
  obtain ⟨hbefore, hafter, hacross⟩ := h
  refine ⟨?_, hafter⟩
  rw [Ordered, ← List.cons_append, List.pairwise_append]
  refine ⟨hbefore, List.pairwise_singleton _ _, ?_⟩
  intro u hu v hv
  rw [List.mem_singleton.1 hv]
  exact hacross u hu c.time List.mem_cons_self

lemma Ordered.between (h : Ordered start calls stop) (hc : c ∈ calls) :
    start ≤ c.time ∧ c.time ≤ stop := by
  obtain ⟨before, after, rfl⟩ := List.append_of_mem hc
  obtain ⟨hbefore, hafter⟩ := h.split
  exact ⟨hbefore.le, hafter.le⟩

end Ordered

variable {m : Meter} {start stop : UInt64} {ps : List (Nat × Mark)} {c : Call} {calls : List Call}

lemma Tallies.ended_call (h : m.Tallies start ps) (hnow : m.lastTick ≤ c.time) :
    (m.call c).ended =
      if (c.time.toNat - start.toNat - 1) / interval.toNat ≤ m.ended then m.ended
      else (c.time.toNat - start.toNat) / interval.toNat := by
  have hended := (catchUp_spec h.aligned hnow).1
  rw [elapsed, h.start] at hended
  cases c with
  | mark e => exact hended
  | read now => exact hended

lemma Tallies.lastTick_call (h : m.Tallies start ps) (hnow : m.lastTick ≤ c.time) :
    (m.call c).lastTick ≤ c.time := by
  have hle := (catchUp_spec h.aligned hnow).2.2.1
  cases c with
  | mark e => exact hle
  | read now => exact hle

/-- No more intervals have ended than have passed. -/
lemma Tallies.ended_le (h : m.Tallies start ps) (hnow : m.lastTick ≤ stop) :
    m.ended ≤ (stop.toNat - start.toNat) / interval.toNat := by
  have haligned : m.lastTick.toNat = m.startTick.toNat + m.ended * interval.toNat := h.aligned
  have hle := UInt64.le_iff_toNat_le.1 hnow
  rw [h.start, toNat_interval] at haligned
  rw [toNat_interval]
  omega

lemma Tallies.run (h : m.Tallies start ps) (hordered : Ordered m.lastTick calls stop) :
    (m.run calls).Tallies start (ps ++ m.placed calls) ∧ (m.run calls).lastTick ≤ stop := by
  induction calls generalizing m ps with
  | nil =>
    have hplaced : ps ++ m.placed [] = ps := List.append_nil ps
    rw [hplaced]
    exact ⟨h, hordered.le⟩
  | cons c calls ih =>
    obtain ⟨hnow, hrest⟩ := hordered.tail
    have hplaced : m.placed (c :: calls) = m.placed [c] ++ (m.call c).placed calls :=
      placed_append m [c] calls
    rw [hplaced, ← List.append_assoc]
    exact ih (h.call hnow) (hrest.mono (h.lastTick_call hnow))

/-- An interval that has begun stays open up to its very end. -/
lemma Tallies.ended_run_of_still (h : m.Tallies start ps) (hordered : Ordered m.lastTick calls stop)
    (hstop : stop.toNat ≤ start.toNat + (m.ended + 1) * interval.toNat) :
    (m.run calls).ended = m.ended := by
  induction calls generalizing m ps with
  | nil => rfl
  | cons c calls ih =>
    obtain ⟨hnow, hrest⟩ := hordered.tail
    have hle := UInt64.le_iff_toNat_le.1 hrest.le
    have hopen : (c.time.toNat - start.toNat - 1) / interval.toNat ≤ m.ended := by
      rw [toNat_interval] at hstop ⊢
      omega
    have hone : (m.call c).ended = m.ended := by
      rw [h.ended_call hnow, if_pos hopen]
    have hcalls := ih (h.call hnow) (hrest.mono (h.lastTick_call hnow)) (by rw [hone]; exact hstop)
    rw [← hone]
    exact hcalls

/-- The call is within an interval, after its beginning and before its end. -/
def Call.Inside (start : UInt64) (c : Call) (k : Nat) : Prop :=
  start.toNat + k * interval.toNat < c.time.toNat ∧
    c.time.toNat < start.toNat + (k + 1) * interval.toNat

lemma Tallies.ended_call_of_inside (h : m.Tallies start ps) (hnow : m.lastTick ≤ c.time) {k : Nat}
    (hc : c.Inside start k) : (m.call c).ended = k := by
  obtain ⟨hbegun, hopen⟩ := hc
  have hle := h.ended_le hnow
  rw [h.ended_call hnow]
  rw [toNat_interval] at hbegun hopen hle ⊢
  split <;> omega

/-- After a call within an interval, a call at its end finds it open. -/
lemma ended_of_inside (hordered : Ordered start calls stop) (hc : c ∈ calls) {k : Nat}
    (hinside : c.Inside start k) (hstop : stop.toNat ≤ start.toNat + (k + 1) * interval.toNat) :
    ((new start).run calls).ended = k := by
  obtain ⟨before, after, rfl⟩ := List.append_of_mem hc
  obtain ⟨hbefore, hafter⟩ := hordered.split
  obtain ⟨htallies, hnow⟩ := (tallies_new start).run hbefore
  have hone := htallies.ended_call_of_inside hnow hinside
  have hrest := (htallies.call hnow).ended_run_of_still (hafter.mono (htallies.lastTick_call hnow))
    (by rw [hone]; exact hstop)
  rw [run_append]
  exact hrest.trans hone

/-- The number of the interval that a call at this time falls into, after other calls. -/
def place (start : UInt64) (calls : List Call) (now : UInt64) : Nat :=
  (((new start).run calls).catchUp now).ended

lemma place_eq (hordered : Ordered start calls stop) :
    place start calls stop =
      if (stop.toNat - start.toNat - 1) / interval.toNat ≤ ((new start).run calls).ended then
        ((new start).run calls).ended
      else (stop.toNat - start.toNat) / interval.toNat := by
  obtain ⟨htallies, hnow⟩ := (tallies_new start).run hordered
  exact htallies.ended_call (c := .read stop) hnow

/-- A call at this time falls into the same interval whatever readings came before: it is not at the
end of an interval, or a mark is within that interval. The first interval is open at its end. -/
def Settled (start : UInt64) (marks : List Mark) (now : UInt64) : Prop :=
  ∀ k, now.toNat = start.toNat + (k + 2) * interval.toNat →
    ∃ e ∈ marks, (Call.mark e).Inside start (k + 1)

lemma place_of_settled {marks : List Mark} (hordered : Ordered start calls stop)
    (hmarks : ∀ e ∈ marks, e.now < stop → .mark e ∈ calls) (hsettled : Settled start marks stop) :
    place start calls stop = (stop.toNat - start.toNat - 1) / interval.toNat := by
  obtain ⟨htallies, hnow⟩ := (tallies_new start).run hordered
  have hle := htallies.ended_le hnow
  have hstart := UInt64.le_iff_toNat_le.1 hordered.le
  rw [place_eq hordered]
  by_cases hend : ∃ k, stop.toNat = start.toNat + (k + 2) * interval.toNat
  · obtain ⟨k, hk⟩ := hend
    obtain ⟨e, he, hinside⟩ := hsettled k hk
    have hearly : e.now < stop := by
      rw [UInt64.lt_iff_toNat_lt, hk]
      exact hinside.2
    have hopen := ended_of_inside hordered (hmarks e he hearly) hinside (Nat.le_of_eq hk)
    rw [hopen, hk, toNat_interval]
    split <;> omega
  · by_cases hfirst : stop.toNat ≤ start.toNat + interval.toNat
    · have hzero : ((new start).run calls).ended = (new start).ended := by
        refine (tallies_new start).ended_run_of_still hordered ?_
        rw [toNat_interval] at hfirst ⊢
        omega
      have hnone : (new start).ended = 0 := by
        rw [ended, new, Nat.sub_self, Nat.zero_div]
      rw [hzero, hnone]
      rw [toNat_interval] at hfirst ⊢
      split <;> omega
    · have hapart : (stop.toNat - start.toNat) % interval.toNat ≠ 0 := by
        intro hmod
        have hdiv := Nat.div_add_mod (stop.toNat - start.toNat) interval.toNat
        rw [toNat_interval] at hfirst hmod hdiv
        refine hend ⟨(stop.toNat - start.toNat) / 5000000000 - 2, ?_⟩
        rw [toNat_interval]
        omega
      rw [toNat_interval] at hle hapart hfirst ⊢
      split <;> omega

lemma place_of_inside (hordered : Ordered start calls stop) (hc : c ∈ calls) {k : Nat}
    (hinside : c.Inside start k) (hstop : stop.toNat = start.toNat + (k + 1) * interval.toNat) :
    place start calls stop = k := by
  rw [place_eq hordered, ended_of_inside hordered hc hinside (Nat.le_of_eq hstop), hstop,
    toNat_interval]
  split <;> omega

/-- Between the beginning and the end of an interval nothing happens, so the meter passes from the
interval before to the one after. -/
lemma Tallies.ended_run_of_outside (h : m.Tallies start ps)
    (hordered : Ordered m.lastTick calls stop) {k : Nat}
    (hstop : stop.toNat = start.toNat + (k + 2) * interval.toNat)
    (hout : ∀ c ∈ calls, c.time.toNat ≤ start.toNat + (k + 1) * interval.toNat ∨ c.time = stop)
    (hm : m.ended = k ∨ m.ended = k + 2) :
    (m.run calls).ended = k ∨ (m.run calls).ended = k + 2 := by
  induction calls generalizing m ps with
  | nil => exact hm
  | cons c calls ih =>
    obtain ⟨hnow, hrest⟩ := hordered.tail
    have hone : (m.call c).ended = k ∨ (m.call c).ended = k + 2 := by
      rw [h.ended_call hnow]
      rw [toNat_interval] at hstop ⊢
      rcases hout c List.mem_cons_self with hearly | hlate
      · rw [toNat_interval] at hearly
        split <;> omega
      · rw [hlate, hstop]
        split <;> omega
    exact ih (h.call hnow) (hrest.mono (h.lastTick_call hnow))
      (fun d hd => hout d (List.mem_cons_of_mem c hd)) hone

lemma place_of_outside (hordered : Ordered start calls stop) (hc : c ∈ calls) {k : Nat}
    (hinside : c.Inside start k) (hstop : stop.toNat = start.toNat + (k + 2) * interval.toNat)
    (hout : ∀ c ∈ calls, c.time.toNat ≤ start.toNat + (k + 1) * interval.toNat ∨ c.time = stop) :
    place start calls stop = k + 2 := by
  have hended : ((new start).run calls).ended = k ∨ ((new start).run calls).ended = k + 2 := by
    obtain ⟨before, after, rfl⟩ := List.append_of_mem hc
    obtain ⟨hbefore, hafter⟩ := hordered.split
    obtain ⟨htallies, hnow⟩ := (tallies_new start).run hbefore
    have hone := htallies.ended_call_of_inside hnow hinside
    rw [run_append]
    refine (htallies.call hnow).ended_run_of_outside
      (hafter.mono (htallies.lastTick_call hnow)) hstop ?_ (.inl hone)
    intro d hd
    exact hout d (List.mem_append_right _ (List.mem_cons_of_mem c hd))
  rw [place_eq hordered, hstop, toNat_interval]
  split <;> omega

/-- The marks come in this order, with readings in between. -/
structure Schedule (start : UInt64) (marks : List Mark) (stop : UInt64) (calls : List Call) :
    Prop where
  marks : calls.filterMap Call.mark? = marks
  ordered : Ordered start calls stop

section Schedule

variable {marks : List Mark}

lemma Schedule.mem (h : Schedule start marks stop calls) {e : Mark} (he : e ∈ marks) :
    .mark e ∈ calls := by
  rw [← h.marks] at he
  obtain ⟨c, hc, hmark⟩ := List.mem_filterMap.1 he
  cases c with
  | read now => cases hmark
  | mark d =>
    cases hmark
    exact hc

lemma exists_of_mem_placed {p : Nat × Mark} (hp : p ∈ m.placed calls) :
    ∃ before later, calls = before ++ .mark p.2 :: later ∧
      p.1 = ((m.run before).call (.mark p.2)).ended := by
  induction calls generalizing m with
  | nil => cases hp
  | cons c calls ih =>
    have hlater (hp : p ∈ (m.call c).placed calls) : ∃ before later,
        c :: calls = before ++ .mark p.2 :: later ∧
          p.1 = ((m.run before).call (.mark p.2)).ended := by
      obtain ⟨before, later, hcalls, hplace⟩ := ih hp
      exact ⟨c :: before, later, congrArg (c :: ·) hcalls, hplace⟩
    cases c with
    | read now => exact hlater hp
    | mark e =>
      rcases List.mem_cons.1 hp with rfl | hp
      · exact ⟨[], calls, rfl, rfl⟩
      · exact hlater hp

/-- A mark of a schedule is placed by the calls before it. -/
lemma Schedule.place_of_mem (h : Schedule start marks stop calls) {p : Nat × Mark}
    (hp : p ∈ (new start).placed calls) :
    ∃ before, Ordered start before p.2.now ∧ p.1 = place start before p.2.now ∧
      (∀ c ∈ calls, c.time < p.2.now → c ∈ before) ∧ ∀ c ∈ before, c ∈ calls := by
  obtain ⟨before, later, rfl, hplace⟩ := exists_of_mem_placed hp
  obtain ⟨hbefore, hafter⟩ := h.ordered.split
  refine ⟨before, hbefore, hplace, ?_, ?_⟩
  · intro c hc hearly
    have hearly := UInt64.not_le.2 hearly
    rcases List.mem_append.1 hc with hc | hc
    · exact hc
    · rcases List.mem_cons.1 hc with rfl | hc
      · exact absurd (UInt64.le_refl _) hearly
      · exact absurd (hafter.between hc).1 hearly
  · intro c hc
    exact List.mem_append_left _ hc

/-- The marks with their intervals, and the number of the interval that the last reading falls into. -/
def division (start : UInt64) (calls : List Call) (stop : UInt64) : List (Nat × Mark) × Nat :=
  ((new start).placed calls, place start calls stop)

lemma Schedule.division_of_settled (h : Schedule start marks stop calls)
    (hsettled : ∀ u ∈ marks.map Mark.now ++ [stop], Settled start marks u) :
    division start calls stop =
      (marks.map fun e => ((e.now.toNat - start.toNat - 1) / interval.toNat, e),
        (stop.toNat - start.toNat - 1) / interval.toNat) := by
  have hlast := place_of_settled h.ordered (fun e he _ => h.mem he)
    (hsettled stop (List.mem_append_right _ List.mem_cons_self))
  have hmarks : (new start).placed calls =
      marks.map fun e => ((e.now.toNat - start.toNat - 1) / interval.toNat, e) := by
    have hsnd := map_snd_placed (new start) calls
    rw [h.marks] at hsnd
    rw [← hsnd, List.map_map]
    refine (List.map_id _).symm.trans (List.map_congr_left ?_)
    intro p hp
    obtain ⟨before, hordered, hplace, hearly, _⟩ := h.place_of_mem hp
    have hmem : p.2 ∈ marks := hsnd ▸ List.mem_map_of_mem hp
    have hnow := hsettled p.2.now (List.mem_append_left _ (List.mem_map_of_mem hmem))
    have heq := place_of_settled hordered (fun e he hlt => hearly _ (h.mem he) hlt) hnow
    exact Prod.ext (hplace.trans heq) rfl
  exact Prod.ext hmarks hlast

/-- A schedule with a single reading. -/
lemma exists_schedule (hordered : Ordered start (marks.map .mark) stop) {now : UInt64}
    (hstart : start ≤ now) (hstop : now ≤ stop) :
    ∃ calls, Schedule start marks stop calls ∧ .read now ∈ calls ∧
      ∀ c ∈ calls, c = .read now ∨ ∃ e ∈ marks, c = .mark e := by
  induction marks generalizing start with
  | nil =>
    have hlast : Ordered now [] stop :=
      List.pairwise_cons.2 ⟨fun u hu => (List.mem_singleton.1 hu) ▸ hstop,
        List.pairwise_singleton _ _⟩
    refine ⟨[.read now], ⟨rfl, .cons hstart hlast⟩, List.mem_cons_self, ?_⟩
    intro c hc
    exact .inl (List.mem_singleton.1 hc)
  | cons e marks ih =>
    obtain ⟨he, hrest⟩ := hordered.tail
    by_cases hlate : now ≤ e.now
    · refine ⟨.read now :: .mark e :: marks.map .mark, ⟨?_, .cons hstart (.cons hlate hrest)⟩,
        List.mem_cons_self, ?_⟩
      · have hmarks : (marks.map Call.mark).filterMap Call.mark? = marks := by
          rw [List.filterMap_map]
          exact List.filterMap_some
        exact congrArg (e :: ·) hmarks
      · intro c hc
        rcases List.mem_cons.1 hc with rfl | hc
        · exact .inl rfl
        · obtain ⟨d, hd, rfl⟩ := List.mem_map.1 (show c ∈ (e :: marks).map Call.mark from hc)
          exact .inr ⟨d, hd, rfl⟩
    · obtain ⟨calls, hschedule, hread, hall⟩ := ih hrest (UInt64.le_of_lt (UInt64.not_le.1 hlate))
      refine ⟨.mark e :: calls, ⟨congrArg (e :: ·) hschedule.marks, .cons he hschedule.ordered⟩,
        List.mem_cons_of_mem _ hread, ?_⟩
      intro c hc
      rcases List.mem_cons.1 hc with rfl | hc
      · exact .inr ⟨e, List.mem_cons_self, rfl⟩
      · rcases hall c hc with rfl | ⟨d, hd, rfl⟩
        · exact .inl rfl
        · exact .inr ⟨d, List.mem_cons_of_mem e hd, rfl⟩

/-- Whatever a schedule has at this time, a mark or the last reading, falls into this interval. -/
structure FallsInto (start : UInt64) (calls : List Call) (stop u : UInt64) (k : Nat) : Prop where
  last : u = stop → (division start calls stop).2 = k
  mark : ∀ p ∈ (division start calls stop).1, p.2.now = u → p.1 = k

lemma Schedule.fallsInto (h : Schedule start marks stop calls) {u : UInt64} {k : Nat}
    (hplace : ∀ before, Ordered start before u → (∀ c ∈ calls, c.time < u → c ∈ before) →
      (∀ c ∈ before, c ∈ calls) → place start before u = k) :
    FallsInto start calls stop u k := by
  constructor
  · rintro rfl
    exact hplace calls h.ordered (fun c hc _ => hc) fun c hc => hc
  · rintro p hp rfl
    obtain ⟨before, hordered, heq, hearly, hbefore⟩ := h.place_of_mem hp
    exact heq.trans (hplace before hordered hearly hbefore)

/-- Times before another one are times of the clock too, so a schedule can have its reading there. -/
lemma exists_schedule_at (hordered : Ordered start (marks.map .mark) stop) {u : UInt64} {x : Nat}
    (hu : u ≤ stop) (hfirst : start.toNat ≤ x) (hx : x < u.toNat) :
    ∃ (w : UInt64) (calls : List Call), w.toNat = x ∧ w < u ∧ Schedule start marks stop calls ∧
      .read w ∈ calls ∧ ∀ c ∈ calls, c = .read w ∨ ∃ e ∈ marks, c = .mark e := by
  have hw : (UInt64.ofNat x).toNat = x := UInt64.toNat_ofNat_of_lt' (hx.trans u.toNat_lt)
  have hearly : UInt64.ofNat x < u := by rwa [UInt64.lt_iff_toNat_lt, hw]
  have hstart : start ≤ UInt64.ofNat x := by rwa [UInt64.le_iff_toNat_le, hw]
  obtain ⟨calls, hcalls⟩ :=
    exists_schedule hordered hstart (UInt64.le_trans (UInt64.le_of_lt hearly) hu)
  exact ⟨_, calls, hw, hearly, hcalls⟩

/-- At the end of an interval without marks a reading within it tells, and so does one before it. -/
lemma exists_fallsInto (hordered : Ordered start (marks.map .mark) stop) {u : UInt64}
    (hstop : u ≤ stop) (hu : ¬Settled start marks u) :
    ∃ A B k, Schedule start marks stop A ∧ Schedule start marks stop B ∧
      FallsInto start A stop u k ∧ FallsInto start B stop u (k + 1) := by
  rw [Settled] at hu
  push Not at hu
  obtain ⟨k, hend, hnone⟩ := hu
  rw [toNat_interval] at hend
  obtain ⟨within, A, hwithin, hearly, hA, hreadA, _⟩ := exists_schedule_at hordered hstop
    (x := u.toNat - 1) (by omega) (by omega)
  obtain ⟨ahead, B, hahead, hearly', hB, hreadB, hallB⟩ := exists_schedule_at hordered hstop
    (x := start.toNat + (k + 1) * 5000000000 - 1) (by omega) (by omega)
  have hinside : (Call.read within).Inside start (k + 1) := by
    rw [Call.Inside, Call.time, toNat_interval]
    omega
  have houtside : (Call.read ahead).Inside start k := by
    rw [Call.Inside, Call.time, toNat_interval]
    omega
  refine ⟨A, B, k + 1, hA, hB, hA.fallsInto ?_, hB.fallsInto ?_⟩
  · intro before hbefore hmem _
    exact place_of_inside hbefore (hmem _ hreadA hearly) hinside hend
  · intro before hbefore hmem hsub
    refine place_of_outside hbefore (hmem _ hreadB hearly') houtside hend ?_
    intro c hc
    have hu := UInt64.le_iff_toNat_le.1 (hbefore.between hc).2
    rcases hallB c (hsub c hc) with rfl | ⟨e, he, rfl⟩
    · left
      rw [Call.time, toNat_interval]
      omega
    · have hout := hnone e he
      rw [Call.Inside, toNat_interval] at hout
      rw [← UInt64.toNat_inj, toNat_interval]
      omega

/-- What a reading shows: how many intervals have ended with how many events, and the rates. -/
structure Shown where
  ended : Nat
  counts : List UInt64
  rates : Rates

def shown (start : UInt64) (calls : List Call) (stop : UInt64) : Shown where
  ended := (division start calls stop).2
  counts := counts (division start calls stop).1 (division start calls stop).2
  rates := (((new start).run calls).rates stop).1

lemma Schedule.tallies (h : Schedule start marks stop calls) :
    (((new start).run calls).catchUp stop).Tallies start (division start calls stop).1 := by
  obtain ⟨htallies, hnow⟩ := (tallies_new start).run h.ordered
  exact htallies.catchUp hnow

/-- The division of the marks tells what a reading shows. -/
lemma Schedule.shown_congr {A B : List Call} (hA : Schedule start marks stop A)
    (hB : Schedule start marks stop B) (heq : division start A stop = division start B stop) :
    shown start A stop = shown start B stop := by
  have hended : (((new start).run A).catchUp stop).ended =
      (((new start).run B).catchUp stop).ended := congrArg Prod.snd heq
  have haverages := hA.tallies.averages
  have hcount := hA.tallies.count
  rw [heq, hended, ← hB.tallies.averages] at haverages
  rw [heq, ← hB.tallies.count] at hcount
  have hstart := hA.tallies.start.trans hB.tallies.start.symm
  rw [shown, shown, heq, rates, rates, meanRate, meanRate, haverages, hcount, hstart]

lemma settled_of_same_ended (hordered : Ordered start (marks.map .mark) stop)
    (hsame : ∀ A B, Schedule start marks stop A → Schedule start marks stop B →
      (shown start A stop).ended = (shown start B stop).ended) : Settled start marks stop := by
  by_contra hnot
  obtain ⟨A, B, k, hA, hB, hfallsA, hfallsB⟩ :=
    exists_fallsInto hordered (UInt64.le_refl stop) hnot
  have heq : (division start A stop).2 = (division start B stop).2 := hsame A B hA hB
  rw [hfallsA.last rfl, hfallsB.last rfl] at heq
  omega

lemma settled_of_same_division (hordered : Ordered start (marks.map .mark) stop)
    (hsame : ∀ A B, Schedule start marks stop A → Schedule start marks stop B →
      division start A stop = division start B stop) :
    ∀ u ∈ marks.map Mark.now ++ [stop], Settled start marks u := by
  intro u hu
  by_contra hnot
  have hstop : u ≤ stop := by
    rcases List.mem_append.1 hu with hu | hu
    · obtain ⟨e, he, rfl⟩ := List.mem_map.1 hu
      exact (hordered.between (List.mem_map_of_mem he)).2
    · rw [List.mem_singleton.1 hu]
      exact UInt64.le_refl stop
  obtain ⟨A, B, k, hA, hB, hfallsA, hfallsB⟩ := exists_fallsInto hordered hstop hnot
  have heq := hsame A B hA hB
  rcases List.mem_append.1 hu with hu | hu
  · obtain ⟨e, he, rfl⟩ := List.mem_map.1 hu
    have hplaced := map_snd_placed (new start) A
    rw [hA.marks] at hplaced
    rw [← hplaced] at he
    obtain ⟨p, hp, rfl⟩ := List.mem_map.1 he
    have hA' := hfallsA.mark p hp rfl
    have hB' := hfallsB.mark p (heq ▸ hp) rfl
    omega
  · have hA' := hfallsA.last (List.mem_singleton.1 hu)
    have hB' := hfallsB.last (List.mem_singleton.1 hu)
    rw [heq, hB'] at hA'
    omega

/-- Which readings between marks can make a difference. -/
theorem reads_unseen_iff (hordered : Ordered start (marks.map .mark) stop) :
    (∀ A, Schedule start marks stop A → ∃ pending,
      (((new start).run A).catchUp stop).averages =
        (Averages.new.after (shown start A stop).counts).mark pending) ∧
    (∀ A B, Schedule start marks stop A → Schedule start marks stop B →
      division start A stop = division start B stop → shown start A stop = shown start B stop) ∧
    ((∀ A B, Schedule start marks stop A → Schedule start marks stop B →
      (shown start A stop).ended = (shown start B stop).ended) ↔ Settled start marks stop) ∧
    ((∀ A B, Schedule start marks stop A → Schedule start marks stop B →
      division start A stop = division start B stop) ↔
      ∀ u ∈ marks.map Mark.now ++ [stop], Settled start marks u) := by
  refine ⟨?_, ?_, ⟨settled_of_same_ended hordered, ?_⟩, settled_of_same_division hordered, ?_⟩
  · intro A hA
    exact ⟨_, hA.tallies.averages⟩
  · intro A B hA hB heq
    exact hA.shown_congr hB heq
  · intro hsettled A B hA hB
    have hplaceA := place_of_settled hA.ordered (fun e he _ => hA.mem he) hsettled
    have hplaceB := place_of_settled hB.ordered (fun e he _ => hB.mem he) hsettled
    exact hplaceA.trans hplaceB.symm
  · intro hsettled A B hA hB
    exact (hA.division_of_settled hsettled).trans (hB.division_of_settled hsettled).symm

/-- Ten events at once. A reading within the second interval keeps it open at its end. -/
theorem reads_unseen_iff_boundary :
    ∃ (marks : List Mark) (A B : List Call) (stop later : UInt64),
      Ordered 0 (marks.map .mark) stop ∧ Schedule 0 marks stop A ∧ Schedule 0 marks stop B ∧
      (shown 0 A stop).ended = 2 ∧ (shown 0 B stop).ended = 1 ∧
      ¬Settled 0 marks stop ∧ (∃ pending,
        (((new 0).run B).catchUp stop).averages = (Averages.new.after [10]).mark pending) ∧
      Ordered 0 (marks.map .mark) later ∧ Schedule 0 marks later A ∧ Schedule 0 marks later B ∧
      shown 0 A later = shown 0 B later := by
  let marks : List Mark := [⟨0, 10⟩]
  let A : List Call := [.mark ⟨0, 10⟩]
  let B : List Call := [.mark ⟨0, 10⟩, .read 5000000001]
  have hstop : Ordered 0 (marks.map .mark) 10000000000 := by
    unfold Ordered
    decide
  have hlater : Ordered 0 (marks.map .mark) 10000000001 := by
    unfold Ordered
    decide
  have hA : Schedule 0 marks 10000000000 A := ⟨rfl, hstop⟩
  have hB : Schedule 0 marks 10000000000 B := by
    refine ⟨rfl, ?_⟩
    unfold Ordered
    decide
  have hA' : Schedule 0 marks 10000000001 A := ⟨rfl, hlater⟩
  have hB' : Schedule 0 marks 10000000001 B := by
    refine ⟨rfl, ?_⟩
    unfold Ordered
    decide
  have htwo : (shown 0 A 10000000000).ended = 2 := by decide
  have hone : (shown 0 B 10000000000).ended = 1 := by decide
  have hunsettled : ¬Settled 0 marks 10000000000 := by
    intro hsettled
    have hsame := (reads_unseen_iff hstop).2.2.1.2 hsettled A B hA hB
    rw [htwo, hone] at hsame
    cases hsame
  have hsettled : ∀ u ∈ marks.map Mark.now ++ [10000000001], Settled 0 marks u := by
    intro u hu k hk
    rw [toNat_interval] at hk
    rcases List.mem_cons.1 hu with rfl | hu
    · have hbegin : 0 = 0 + (k + 2) * 5000000000 := hk
      omega
    · rw [List.mem_singleton.1 hu] at hk
      have hend : 10000000001 = 0 + (k + 2) * 5000000000 := hk
      omega
  have hdivision := (reads_unseen_iff hlater).2.2.2.2 hsettled A B hA' hB'
  refine ⟨marks, A, B, 10000000000, 10000000001, hstop, hA, hB, htwo, hone, hunsettled, ?_,
    hlater, hA', hB', ?_⟩
  · have hcounts : (shown 0 B 10000000000).counts = [10] := by decide
    rw [← hcounts]
    exact (reads_unseen_iff hstop).1 B hB
  · exact (reads_unseen_iff hlater).2.1 A B hA' hB' hdivision

end Schedule

end Telemetry.Meter
