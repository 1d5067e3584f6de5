import Telemetry.Proofs.QueueWindow

/-!
# What a queue was offered

A queue that is offered items, cleared and drained in any order behaves as a plain list of all items
offered since it was last emptied: it shows the end of that list, and has pushed out the rest of it
in order.
-/

namespace Telemetry.Queue

variable {α : Type}

inductive Call (α : Type) where
  | offer (a : α)
  | offerAll (as : List α)
  | clear
  | drain

def call (q : Queue α) : Call α → Queue α
  | .offer a => (q.offer a).2
  | .offerAll as => (q.offerAll as).2
  | .clear => q.clear
  | .drain => q.drain.2

/-- A queue with what happened to it. -/
structure History (α : Type) where
  queue : Queue α
  /-- Offered since the queue was last emptied. -/
  offered : List α
  /-- Pushed out since the queue was last emptied. -/
  out : List α
  /-- Pushed out since the queue was made. -/
  lost : List α

namespace History

def start (q : Queue α) : History α := ⟨q, [], [], []⟩

def offer (h : History α) (a : α) : History α :=
  let (out, queue) := h.queue.offer a
  ⟨queue, h.offered ++ [a], h.out ++ out.toList, h.lost ++ out.toList⟩

def step (h : History α) : Call α → History α
  | .offer a => h.offer a
  | .offerAll as => as.foldl offer h
  | .clear => ⟨h.queue.clear, [], [], h.lost⟩
  | .drain => ⟨h.queue.drain.2, [], [], h.lost⟩

def run (h : History α) (calls : List (Call α)) : History α :=
  calls.foldl step h

/-- The queue goes by the list of what it was offered. -/
structure Refines (h : History α) (n : Nat) : Prop where
  capacity : h.queue.capacity = n
  items : h.queue.items = h.offered.rtake n
  complete : h.out ++ h.queue.items = h.offered
  evicted : h.queue.evicted = h.lost.length

lemma foldl_offer (h : History α) (as : List α) :
    (as.foldl offer h).queue = (h.queue.offerAll as).2 ∧
    ∃ out, (as.foldl offer h).out = h.out ++ out ∧ out.length = (h.queue.offerAll as).1 := by
  induction as generalizing h with
  | nil => exact ⟨rfl, [], by simp [offerAll]⟩
  | cons a as ih =>
    obtain ⟨hqueue, out, hout, hlength⟩ := ih (h.offer a)
    refine ⟨hqueue, (h.queue.offer a).1.toList ++ out, ?_, ?_⟩
    · rw [List.foldl_cons, hout]
      simp [offer]
    · have hone : (h.queue.offer a).1.toList.length =
          if (h.queue.offer a).1.isSome then 1 else 0 := by
        cases (h.queue.offer a).1 <;> rfl
      rw [List.length_append, hone, hlength, Nat.add_comm]
      rfl

lemma queue_step (h : History α) (call : Call α) : (h.step call).queue = h.queue.call call := by
  cases call with
  | offerAll as => exact (h.foldl_offer as).1
  | _ => rfl

lemma queue_run (h : History α) (calls : List (Call α)) :
    (h.run calls).queue = calls.foldl call h.queue := by
  induction calls generalizing h with
  | nil => rfl
  | cons c calls ih => exact (ih (h.step c)).trans (by rw [queue_step]; rfl)

namespace Refines

variable {h : History α} {n : Nat}

lemma offer (hr : h.Refines n) (a : α) : (h.offer a).Refines n := by
  have hcapacity : (h.queue.offer a).2.capacity = n := by simp [hr.capacity]
  refine ⟨hcapacity, ?_, ?_, ?_⟩
  · have hitems := h.queue.items_offer a
    rw [hr.capacity, hr.items, rtake_rtake_append] at hitems
    exact hitems
  · have hall := h.queue.toList_offer a
    simp only [History.offer, List.append_assoc, hall, ← hr.complete]
  · have hevicted := h.queue.evicted_offer a
    simp [History.offer, hevicted, hr.evicted]

lemma step (hr : h.Refines n) (call : Call α) : (h.step call).Refines n := by
  cases call with
  | offer a => exact hr.offer a
  | offerAll as =>
    induction as generalizing h with
    | nil => exact hr
    | cons a as ih => exact ih (hr.offer a)
  | clear => exact ⟨hr.capacity, List.rtake_nil n |>.symm, rfl, hr.evicted⟩
  | drain => exact ⟨hr.capacity, List.rtake_nil n |>.symm, rfl, hr.evicted⟩

lemma run (hr : h.Refines n) (calls : List (Call α)) : (h.run calls).Refines n := by
  induction calls generalizing h with
  | nil => exact hr
  | cons call calls ih => exact ih (hr.step call)

lemma size (hr : h.Refines n) : h.queue.size = min n h.offered.length := by
  rw [Queue.size, hr.items, List.rtake, List.length_drop]
  omega

/-- What a full queue gives back was offered as many items ago as the queue holds. -/
lemma offer_fst (hr : h.Refines n) (a : α) :
    (h.queue.offer a).1 =
      if n ≤ h.offered.length then h.offered[h.offered.length - n]? else none := by
  have hsize := hr.size
  have hcapacity := hr.capacity
  have hhead : h.queue.items.head? = h.offered[h.offered.length - n]? := by
    rw [hr.items, List.rtake, List.head?_drop]
  unfold Queue.size at hsize
  unfold Queue.offer
  split
  · rw [if_neg (by omega)]
  · rw [if_pos (by omega)]
    exact hhead

end Refines

/-- Whatever the calls, the queue shows the last items offered since it was last emptied. The others
were pushed out in order, and are counted. -/
theorem keeps_latest {n : Nat} (hpos : 0 < n) (hle : n ≤ maxCapacity) :
    ∃ q : Queue α, new n = .ok q ∧ ∀ calls : List (Call α),
      let h := (start q).run calls
      h.queue = calls.foldl call q ∧
      h.queue.items = h.offered.rtake n ∧ h.queue.drain.1 = h.offered.rtake n ∧
      h.queue.size = min n h.offered.length ∧
      (h.queue.isFull = true ↔ h.queue.size = n) ∧
      h.out ++ h.queue.items = h.offered ∧
      h.queue.evicted = h.lost.length ∧
      (∀ a, (h.queue.offer a).1 =
        if n ≤ h.offered.length then h.offered[h.offered.length - n]? else none) ∧
      ∀ as, ∃ out, (h.step (.offerAll as)).out = h.out ++ out ∧
        (h.queue.offerAll as).1 = out.length := by
  let q : Queue α := ⟨[], n, 0, hpos, hle, Nat.zero_le n⟩
  have hnew : new n = .ok q := dif_pos ⟨hpos, hle⟩
  have hstart : (start q).Refines n := ⟨rfl, List.rtake_nil n |>.symm, rfl, rfl⟩
  refine ⟨q, hnew, fun calls => ?_⟩
  intro h
  have hrun : h.Refines n := hstart.run calls
  have hfull : h.queue.isFull = true ↔ h.queue.size = n := by
    rw [isFull_iff, hrun.capacity]
    rfl
  refine ⟨(start q).queue_run calls, hrun.items, hrun.items, hrun.size, hfull, hrun.complete,
    hrun.evicted, hrun.offer_fst, fun as => ?_⟩
  obtain ⟨_, out, hout, hlength⟩ := h.foldl_offer as
  exact ⟨out, hout, hlength.symm⟩

/-- Items of one batch push out each other, and a drain in between starts a new list. -/
theorem keeps_latest_drained :
    0 < 2 ∧ 2 ≤ maxCapacity ∧ ∃ q : Queue Nat, new 2 = .ok q ∧
      let h := (start q).run [.offerAll [1, 2, 3, 4], .drain, .offerAll [5, 6], .offer 7]
      h.offered = [5, 6, 7] ∧ h.queue.items = [6, 7] ∧ h.out = [5] ∧ h.lost = [1, 2, 5] ∧
      h.queue.evicted = 3 ∧ (h.queue.offer 8).1 = some 6 := by
  refine ⟨by decide, by decide, ?_⟩
  obtain ⟨q, hq, hall⟩ := keeps_latest (α := Nat) (n := 2) (by decide) (by decide)
  refine ⟨q, hq, ?_⟩
  obtain ⟨_, hitems, _, _, _, _, hevicted, hoffer, _⟩ :=
    hall [.offerAll [1, 2, 3, 4], .drain, .offerAll [5, 6], .offer 7]
  cases hq
  exact ⟨rfl, hitems, rfl, rfl, hevicted, hoffer 8⟩

end History

end Telemetry.Queue
