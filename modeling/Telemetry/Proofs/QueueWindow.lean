import Mathlib.Data.List.DropRight
import Mathlib.Tactic.Common
import Telemetry.Sender

/-!
# The window of a queue

A queue of capacity `n` shows the last `n` of all items that it was offered since it was last empty.
A sender that packs its queue into one payload either gets all of them through or keeps them.
-/

namespace Telemetry

section Rtake

variable {α : Type} {n : Nat}

lemma rtake_of_length_le {as : List α} (h : as.length ≤ n) : as.rtake n = as := by
  rw [List.rtake, Nat.sub_eq_zero_of_le h, List.drop_zero]

/-- What has left the window does not come back. -/
lemma rtake_rtake_append (as bs : List α) :
    (as.rtake n ++ bs).rtake n = (as ++ bs).rtake n := by
  -- read from the back a window is a `take`, and what the inner one cuts off so would the outer one
  have hcut : n - bs.length ≤ n := Nat.sub_le _ _
  rw [List.rtake_eq_reverse_take_reverse, List.rtake_eq_reverse_take_reverse,
    List.rtake_eq_reverse_take_reverse]
  congr 1
  rw [List.reverse_append, List.reverse_append, List.reverse_reverse, List.take_append,
    List.take_append, List.take_take, List.length_reverse, Nat.min_eq_left hcut]

lemma rtake_eq_nil_iff (hn : 0 < n) {as : List α} : as.rtake n = [] ↔ as = [] := by
  rw [List.rtake, List.drop_eq_nil_iff, ← List.length_eq_zero_iff]
  omega

end Rtake

namespace Queue

variable {α : Type} (q : Queue α)

lemma items_offer (a : α) : (q.offer a).2.items = (q.items ++ [a]).rtake q.capacity := by
  have hbounded := q.bounded
  have hpos := q.capacity_pos
  unfold offer
  split
  · rename_i hroom
    have hfits : (q.items ++ [a]).length ≤ q.capacity := by
      rw [List.length_append, List.length_singleton]
      omega
    exact (rtake_of_length_le hfits).symm
  · rename_i hfull
    obtain ⟨b, rest, hitems⟩ := items_of_no_room hfull
    have hover : (q.items ++ [a]).length - q.capacity = 1 := by
      rw [List.length_append, List.length_singleton]
      omega
    have hnext : q.items.tail ++ [a] = (q.items ++ [a]).drop 1 := by
      rw [hitems]
      rfl
    rw [List.rtake, hover]
    exact hnext

end Queue

namespace Sender

variable {σ : Type} {s : Sender σ}

lemma items_offerAll (s : Sender σ) (rs : List Record) :
    (s.offerAll rs).queue.items = (s.queue.items ++ rs).rtake s.queue.capacity := by
  unfold offerAll
  induction rs generalizing s with
  | nil => rw [List.append_nil, rtake_of_length_le s.queue.bounded, List.foldl_nil]
  | cons r rs ih =>
    have hitems : (s.offer r).queue.items = (s.queue.items ++ [r]).rtake s.queue.capacity :=
      s.queue.items_offer r
    have hcapacity : (s.offer r).queue.capacity = s.queue.capacity := Queue.capacity_offer _ _
    rw [List.foldl_cons, ih, hcapacity, hitems, rtake_rtake_append, List.append_assoc,
      List.singleton_append]

section Batch

variable (hbatch : s.transport.framing = .batch) (hitems : s.queue.items ≠ [])

include hbatch hitems

lemma launch_of_batch :
    s.launch = some ⟨s.queue.items.length,
      [Line.writeAll s.transport.precision s.queue.items], [], none⟩ := by
  have hpending : s.queue.isEmpty = false := by
    rw [Queue.isEmpty, List.isEmpty_eq_false_iff]
    exact hitems
  rw [launch, hpending, payloads, hbatch]
  rfl

/-- The payload is accepted, and then the queue is empty, or refused, and then it stays. -/
lemma flush_of_batch :
    let payload := Line.writeAll s.transport.precision s.queue.items
    let answer := s.transport.send s.outlet payload
    s.flush.1.outlet = answer.2 ∧
    (answer.1 = .ok () → s.flush.2.accepted = [payload] ∧ s.flush.1.queue.items = [] ∧
      s.flush.2.outcome = .sent s.queue.items.length payload.utf8ByteSize) ∧
    ∀ e, answer.1 = .error e → s.flush.2.accepted = [] ∧
      s.flush.1.queue.items = s.queue.items ∧
      s.flush.2.outcome = .retained s.queue.items.length e := by
  intro payload answer
  have hflight : s.flush = ({ s with outlet := answer.2 } : Sender σ).land
      (Flight.note ⟨s.queue.items.length, [payload], [], none⟩ payload answer.1) := by
    rw [flush, launch_of_batch hbatch hitems]
    rfl
  have hbytes : 0 + payload.utf8ByteSize = payload.utf8ByteSize := Nat.zero_add _
  rw [hflight]
  cases answer.1 with
  | ok _ => exact ⟨rfl, fun _ => ⟨rfl, rfl, congrArg (FlushOutcome.sent _) hbytes⟩, nofun⟩
  | error e =>
    refine ⟨rfl, nofun, ?_⟩
    intro e' he
    cases he
    exact ⟨rfl, rfl, rfl⟩

end Batch

end Sender

end Telemetry
