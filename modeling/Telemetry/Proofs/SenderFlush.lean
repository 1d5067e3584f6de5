import Mathlib.Algebra.Ring.Nat
import Mathlib.Tactic.Common
import Telemetry.Sender

/-!
# What a flush does

The transport answers the payloads of a flush one after another. If it accepts any of them the flush
succeeds and empties the queue, otherwise only the count of failed flushes changes.
-/

namespace Telemetry

/-- Whether each of the payloads would be accepted, sent in this order. -/
def Transport.answers {σ : Type} (t : Transport σ) : σ → List String → List Bool
  | _, [] => []
  | o, p :: ps => (t.send o p).1.isOk :: t.answers (t.send o p).2 ps

/-- The items at the places where the list says yes. -/
def kept {α : Type} (as : List α) (bs : List Bool) : List α :=
  ((as.zip bs).filter (·.2)).map (·.1)

section Kept

variable {α β : Type}

@[simp] lemma kept_nil (bs : List Bool) : kept ([] : List α) bs = [] := rfl

lemma kept_cons (a : α) (as : List α) (b : Bool) (bs : List Bool) :
    kept (a :: as) (b :: bs) = (if b then [a] else []) ++ kept as bs := by
  cases b <;> rfl

lemma kept_map (f : α → β) (as : List α) (bs : List Bool) :
    kept (as.map f) bs = (kept as bs).map f := by
  induction as generalizing bs with
  | nil => rfl
  | cons a as ih =>
    cases bs with
    | nil => rfl
    | cons b bs =>
      rw [List.map_cons, kept_cons, kept_cons, ih, List.map_append]
      cases b <;> rfl

lemma kept_eq_nil_iff {as : List α} {bs : List Bool} (h : as.length = bs.length) :
    kept as bs = [] ↔ true ∉ bs := by
  induction as generalizing bs with
  | nil =>
    have hb : bs = [] := List.length_eq_zero_iff.1 h.symm
    simp [hb]
  | cons a as ih =>
    cases bs with
    | nil => simp at h
    | cons b bs =>
      have hl : as.length = bs.length := by simpa using h
      rw [kept_cons]
      cases b <;> simp [ih hl]

end Kept

namespace Flight

/-- A flight lost everything so far: every answer was an error. -/
def Lost (f : Flight) : Prop := f.accepted = [] ∧ f.lastError ≠ none

lemma bytes_eq (f : Flight) : f.bytes = (f.accepted.map String.utf8ByteSize).sum := by
  rw [bytes, List.sum_eq_foldl, List.foldl_map]

lemma outcome_of_accepted {f : Flight} (h : f.accepted ≠ []) :
    f.outcome = .sent f.records f.bytes := by
  unfold outcome
  split
  · rename_i ha
    exact absurd ha h
  · rfl

lemma outcome_of_lost {f : Flight} (h : f.Lost) : ∃ e, f.outcome = .retained f.records e := by
  obtain ⟨e, he⟩ := Option.ne_none_iff_exists'.1 h.2
  refine ⟨e, ?_⟩
  rw [outcome, he, h.1]

end Flight

namespace Sender

variable {σ : Type}

/-- The pending records as they are grouped into payloads. -/
def parcels (s : Sender σ) : List (List Record) :=
  match s.transport.framing with
  | .batch => [s.queue.items]
  | .perRecord => s.queue.items.map fun r => [r]

/-- The answers that a flush will get. -/
def answers (s : Sender σ) : List Bool :=
  s.transport.answers s.outlet s.payloads

lemma payloads_eq (s : Sender σ) :
    s.payloads = s.parcels.map (Line.writeAll s.transport.precision) := by
  unfold payloads parcels
  cases s.transport.framing with
  | batch => rfl
  | perRecord =>
    rw [List.map_map]
    congr 1

lemma flatten_parcels (s : Sender σ) : s.parcels.flatten = s.queue.items := by
  unfold parcels
  cases s.transport.framing with
  | batch => simp
  | perRecord => induction s.queue.items <;> simp_all

lemma length_transport_answers (t : Transport σ) (o : σ) (ps : List String) :
    (t.answers o ps).length = ps.length := by
  induction ps generalizing o with
  | nil => rfl
  | cons p ps ih => rw [Transport.answers, List.length_cons, List.length_cons, ih]

lemma length_answers (s : Sender σ) : s.answers.length = s.parcels.length := by
  rw [answers, length_transport_answers, payloads_eq, List.length_map]

lemma payloads_ne_nil {s : Sender σ} (h : s.queue.items ≠ []) : s.payloads ≠ [] := by
  unfold payloads
  cases s.transport.framing with
  | batch => simp
  | perRecord => simpa using h

/-- Sending the payloads touches nothing but the outlet and the flight. -/
lemma carryAll_eq (s : Sender σ) (f : Flight) (ps : List String) :
    ∃ outlet lastError,
      s.carryAll f ps = ({ s with outlet },
        { f with accepted := f.accepted ++ kept ps (s.transport.answers s.outlet ps), lastError }) ∧
      (lastError = none → f.lastError = none ∧ false ∉ s.transport.answers s.outlet ps) := by
  induction ps generalizing s f with
  | nil => exact ⟨s.outlet, f.lastError, by simp [carryAll], by simp [Transport.answers]⟩
  | cons p ps ih =>
    rw [carryAll, carry, Transport.answers]
    cases hsend : s.transport.send s.outlet p with
    | mk answer next =>
      obtain ⟨outlet, lastError, hrun, herror⟩ := ih { s with outlet := next } (f.note p answer)
      refine ⟨outlet, lastError, ?_, fun hnone => ?_⟩
      · dsimp only at hrun ⊢
        rw [hrun, kept_cons]
        cases answer <;> simp [Flight.note, Except.isOk, Except.toBool]
      · obtain ⟨hf, hall⟩ := herror hnone
        cases answer with
        | ok _ => exact ⟨hf, by simpa [Except.isOk, Except.toBool] using hall⟩
        | error e => simp [Flight.note] at hf

lemma land_of_accepted (s : Sender σ) {f : Flight} (h : f.accepted ≠ []) :
    s.land f = ({ s with
        queue := s.queue.clear
        flushesSucceeded := s.flushesSucceeded + 1
        recordsSent := s.recordsSent + f.records
        bytesSent := s.bytesSent + (f.accepted.map String.utf8ByteSize).sum },
      ⟨.sent f.records (f.accepted.map String.utf8ByteSize).sum, f.accepted, []⟩) := by
  rw [land, Flight.outcome_of_accepted h, Flight.bytes_eq]

lemma land_of_lost (s : Sender σ) {f : Flight} (h : f.Lost) :
    ∃ e, s.land f = ({ s with flushesFailed := s.flushesFailed + 1 },
      ⟨.retained f.records e, [], [.flushFailed f.records e]⟩) := by
  obtain ⟨e, he⟩ := f.outcome_of_lost h
  refine ⟨e, ?_⟩
  rw [land, he, h.1]

lemma flush_of_empty {s : Sender σ} (h : s.queue.items = []) : s.flush = (s, ⟨.empty, [], []⟩) := by
  have hl : s.launch = none := if_pos (by rw [Queue.isEmpty, h]; rfl)
  rw [flush, hl]

/-- A flush ends with the records sent, and then the queue is empty, or with the records kept, and
then nothing but the count of failed flushes and the outlet has changed. -/
lemma flush_of_pending {s : Sender σ} (h : s.queue.items ≠ []) :
    (true ∈ s.answers ∧ ∃ outlet bytes,
      bytes = ((kept s.payloads s.answers).map String.utf8ByteSize).sum ∧
      s.flush = ({ s with
          outlet
          queue := s.queue.clear
          flushesSucceeded := s.flushesSucceeded + 1
          recordsSent := s.recordsSent + s.queue.items.length
          bytesSent := s.bytesSent + bytes },
        ⟨.sent s.queue.items.length bytes, kept s.payloads s.answers, []⟩)) ∨
    (true ∉ s.answers ∧ ∃ outlet e,
      s.flush = ({ s with outlet, flushesFailed := s.flushesFailed + 1 },
        ⟨.retained s.queue.items.length e, [], [.flushFailed s.queue.items.length e]⟩)) := by
  have hl : s.launch = some ⟨s.queue.items.length, s.payloads, [], none⟩ :=
    if_neg (by rw [Queue.isEmpty, List.isEmpty_iff]; exact h)
  obtain ⟨outlet, lastError, hrun, herror⟩ :=
    s.carryAll_eq ⟨s.queue.items.length, s.payloads, [], none⟩ s.payloads
  have hlen : s.payloads.length = s.answers.length := (length_transport_answers ..).symm
  have hflush := congrArg (fun p => p.1.land p.2) hrun
  dsimp only at hflush
  rw [List.nil_append] at hflush
  rw [flush, hl]
  by_cases hacc : true ∈ s.answers
  · have hne : kept s.payloads s.answers ≠ [] := fun hk => (kept_eq_nil_iff hlen).1 hk hacc
    exact .inl ⟨hacc, outlet, _, rfl, hflush.trans (land_of_accepted _ hne)⟩
  · have hnil : kept s.payloads s.answers = [] := (kept_eq_nil_iff hlen).2 hacc
    have hlost : lastError ≠ none := by
      intro hnone
      have hall : false ∉ s.answers := (herror hnone).2
      obtain ⟨b, bs, hb⟩ : ∃ b bs, s.answers = b :: bs := by
        apply List.exists_cons_of_ne_nil
        intro hb
        rw [hb, List.length_nil, List.length_eq_zero_iff] at hlen
        exact payloads_ne_nil h hlen
      rw [hb] at hall hacc
      cases b <;> simp at hall hacc
    obtain ⟨e, he⟩ := land_of_lost { s with outlet }
      (f := ⟨s.queue.items.length, s.payloads, kept s.payloads s.answers, lastError⟩) ⟨hnil, hlost⟩
    exact .inr ⟨hacc, outlet, e, hflush.trans he⟩

end Sender

end Telemetry
