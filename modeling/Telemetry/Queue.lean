import Telemetry.Text.Decimal

/-!
# Bounded queues

A queue holds at most as many items as its capacity. An item offered to a full queue pushes out the
oldest one, so the queue always holds the last items offered, oldest first.
-/

namespace Telemetry

/-- The largest capacity of a queue. -/
def Queue.maxCapacity : Nat := 100000000

structure Queue (α : Type) where
  items : List α
  capacity : Nat
  /-- Items pushed out since the queue was made. It stands for an unsigned word, as long as there
  are fewer than `2 ^ 64`. -/
  evicted : Nat
  capacity_pos : 0 < capacity
  capacity_le : capacity ≤ Queue.maxCapacity
  bounded : items.length ≤ capacity

/-- Neither zero nor above the largest capacity is accepted. -/
structure CapacityError where
  capacity : Nat
  deriving DecidableEq, Repr

namespace CapacityError

def message (e : CapacityError) : String :=
  "Invalid buffer capacity: " ++ Text.natText e.capacity

/-- Trying again with the same capacity may help. -/
def recoverable (_ : CapacityError) : Bool := false

end CapacityError

namespace Queue

variable {α : Type}

def new (capacity : Nat) : Except CapacityError (Queue α) :=
  if h : 0 < capacity ∧ capacity ≤ maxCapacity then
    .ok ⟨[], capacity, 0, h.1, h.2, Nat.zero_le _⟩
  else .error ⟨capacity⟩

def size (q : Queue α) : Nat := q.items.length

def isEmpty (q : Queue α) : Bool := q.items.isEmpty

def isFull (q : Queue α) : Bool := q.capacity ≤ q.size

/-- Puts an item at the end and gives back the item that was pushed out for it. -/
def offer (q : Queue α) (a : α) : Option α × Queue α :=
  if h : q.items.length < q.capacity then
    (none,
      { q with
        items := q.items ++ [a]
        bounded := by
          simp only [List.length_append, List.length_singleton]
          omega })
  else
    (q.items.head?,
      { q with
        items := q.items.tail ++ [a]
        evicted := q.evicted + 1
        bounded := by
          have := q.bounded
          have := q.capacity_pos
          simp only [List.length_append, List.length_tail, List.length_singleton]
          omega })

/-- Offers the items one by one and counts those pushed out. -/
def offerAll (q : Queue α) : List α → Nat × Queue α
  | [] => (0, q)
  | a :: as =>
    let (out, q) := q.offer a
    let (n, q) := q.offerAll as
    (n + if out.isSome then 1 else 0, q)

def clear (q : Queue α) : Queue α :=
  { q with items := [], bounded := Nat.zero_le _ }

/-- All items, oldest first, and the emptied queue. -/
def drain (q : Queue α) : List α × Queue α :=
  (q.items, q.clear)

/-- The figures of a queue in one line. -/
def summary (q : Queue α) : String :=
  "BoundedBatchQueue \x7b capacity: " ++ Text.natText q.capacity ++ ", len: " ++ Text.natText q.size ++
    ", evicted: " ++ Text.natText q.evicted ++ " \x7d"

theorem isFull_iff {q : Queue α} : q.isFull = true ↔ q.items.length = q.capacity := by
  have := q.bounded
  rw [isFull, decide_eq_true_iff, size]
  omega

/-- A queue without room holds an item. -/
theorem items_of_no_room {q : Queue α} (h : ¬q.items.length < q.capacity) :
    ∃ b r, q.items = b :: r := by
  refine List.exists_cons_of_ne_nil fun hn => h ?_
  rw [hn]
  exact q.capacity_pos

@[simp] theorem capacity_offer (q : Queue α) (a : α) : (q.offer a).2.capacity = q.capacity := by
  unfold offer
  split <;> rfl

/-- What is pushed out and what stays are all items in their order. -/
theorem toList_offer (q : Queue α) (a : α) :
    (q.offer a).1.toList ++ (q.offer a).2.items = q.items ++ [a] := by
  unfold offer
  split
  · rfl
  · rename_i h
    obtain ⟨b, r, hi⟩ := items_of_no_room h
    simp [hi]

theorem evicted_offer (q : Queue α) (a : α) :
    (q.offer a).2.evicted = q.evicted + (q.offer a).1.toList.length := by
  unfold offer
  split
  · rfl
  · rename_i h
    obtain ⟨b, r, hi⟩ := items_of_no_room h
    simp [hi]

/-- An item is pushed out exactly when there is no room. -/
theorem offer_isSome (q : Queue α) (a : α) : (q.offer a).1.isSome = q.isFull := by
  unfold offer
  split
  · rename_i h
    exact (decide_eq_false (Nat.not_le.2 h)).symm
  · rename_i h
    obtain ⟨b, r, hi⟩ := items_of_no_room h
    simp only [hi, List.head?_cons, Option.isSome_some]
    exact (decide_eq_true (Nat.not_lt.1 h)).symm

@[simp] theorem items_clear (q : Queue α) : q.clear.items = [] := rfl

@[simp] theorem capacity_clear (q : Queue α) : q.clear.capacity = q.capacity := rfl

@[simp] theorem evicted_clear (q : Queue α) : q.clear.evicted = q.evicted := rfl

end Queue

end Telemetry
