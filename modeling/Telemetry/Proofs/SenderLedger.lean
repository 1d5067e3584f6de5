import Telemetry.Proofs.SenderFlush

/-!
# A ledger of offered records

A ledger follows the calls on a sender and writes down, in the order of the offers, what became of
each record: the queue pushed it out, a close dropped it, a flush that succeeded removed it, or it is
still pending.
-/

namespace Telemetry

/-- What became of an offered record. Closes and flushes are numbered from zero. -/
inductive Fate where
  | pending
  | evicted
  | dropped (close : Nat)
  | sent (flush : Nat) (accepted : Bool)
  deriving DecidableEq, Repr

namespace Fate

def isSent : Fate → Bool
  | sent .. => true
  | _ => false

def isDropped : Fate → Bool
  | dropped _ => true
  | _ => false

/-- The transport accepted a payload that held the record. -/
def isAccepted : Fate → Bool
  | sent _ accepted => accepted
  | _ => false

end Fate

namespace Sender

variable {σ : Type}

inductive Call where
  | offer (r : Record)
  | offerAll (rs : List Record)
  | flush
  | close

def call (s : Sender σ) : Call → Sender σ
  | .offer r => s.offer r
  | .offerAll rs => s.offerAll rs
  | .flush => s.flush.1
  | .close => s.close.2

/-- All records that the calls offer, in order. -/
def offered (calls : List Call) : List Record :=
  calls.flatMap fun
    | .offer r => [r]
    | .offerAll rs => rs
    | _ => []

/-- The pending records with the fates that a flush of this number gives them if it succeeds. -/
def stamped (s : Sender σ) (flush : Nat) : List (Record × Fate) :=
  (s.parcels.zip s.answers).flatMap fun p => p.1.map (·, .sent flush p.2)

lemma map_fst_stamped (s : Sender σ) (flush : Nat) :
    (s.stamped flush).map (·.1) = s.queue.items := by
  have hl : s.parcels.length ≤ s.answers.length := Nat.le_of_eq s.length_answers.symm
  have hone (p : List Record × Bool) :
      (p.1.map (·, Fate.sent flush p.2)).map (·.1) = p.1 := by
    rw [List.map_map]
    exact List.map_id _
  rw [stamped, List.map_flatMap]
  simp only [hone]
  rw [List.flatMap_def, List.map_fst_zip hl, flatten_parcels]

lemma accepted_stamped (s : Sender σ) (flush : Nat) :
    ((s.stamped flush).filter (·.2.isAccepted)).map (·.1) = (kept s.parcels s.answers).flatten := by
  rw [stamped, kept]
  induction s.parcels.zip s.answers with
  | nil => rfl
  | cons p ps ih =>
    obtain ⟨records, accepted⟩ := p
    rw [List.flatMap_cons, List.filter_append, List.map_append, ih]
    cases accepted <;> simp [List.filter_map, Function.comp_def, Fate.isAccepted]

/-- A batch gets one answer. -/
lemma mem_stamped {s : Sender σ} {flush : Nat} {e : Record × Fate} (h : e ∈ s.stamped flush) :
    ∃ b ∈ s.answers, e.2 = .sent flush b ∧ (s.transport.framing = .batch → s.answers = [b]) := by
  obtain ⟨p, hp, he⟩ := List.mem_flatMap.1 h
  obtain ⟨r, _, rfl⟩ := List.mem_map.1 he
  refine ⟨p.2, (List.of_mem_zip hp).2, rfl, fun hb => ?_⟩
  have hlen : s.answers.length = 1 := by
    rw [length_answers, parcels, hb]
    rfl
  obtain ⟨a, ha⟩ := List.length_eq_one_iff.1 hlen
  have hmem := (List.of_mem_zip hp).2
  rw [ha] at hmem
  rw [ha, List.mem_singleton.1 hmem]

lemma countP_stamped (s : Sender σ) (flush : Nat) {p : Fate → Bool} {v : Bool}
    (h : ∀ b, p (.sent flush b) = v) :
    (s.stamped flush).countP (p ·.2) = if v then s.queue.items.length else 0 := by
  have hv : ∀ e ∈ s.stamped flush, p e.2 = v := by
    intro e he
    obtain ⟨b, _, hb, _⟩ := mem_stamped he
    rw [hb, h]
  cases v with
  | true =>
    rw [List.countP_eq_length.2 hv, ← s.map_fst_stamped flush, List.length_map]
    rfl
  | false =>
    rw [List.countP_eq_zero.2 fun e he => by rw [hv e he]; decide]
    rfl

end Sender

/-- A sender with a record of all that happened to it. -/
structure Ledger (σ : Type) where
  sender : Sender σ
  /-- The offered records in order. -/
  fates : List (Record × Fate)
  /-- The payloads that the transport accepted. -/
  accepted : List String
  outcomes : List FlushOutcome
  /-- What each close gave back. -/
  closes : List Nat

namespace Ledger

open Sender (Call)

variable {σ : Type}

/-- Gives the fates, one after the other, to the first records that are pending. -/
def settle : List Fate → List (Record × Fate) → List (Record × Fate)
  | [], es => es
  | _, [] => []
  | f :: fs, e :: es =>
    if e.2 = .pending then (e.1, f) :: settle fs es else e :: settle (f :: fs) es

def start (s : Sender σ) : Ledger σ := ⟨s, [], [], [], []⟩

def offer (l : Ledger σ) (r : Record) : Ledger σ :=
  let out := (l.sender.queue.offer r).1.toList
  { l with
    sender := l.sender.offer r
    fates := settle (out.map fun _ => .evicted) l.fates ++ [(r, .pending)] }

def flush (l : Ledger σ) : Ledger σ :=
  let (sender, flushed) := l.sender.flush
  { l with
    sender
    fates :=
      match flushed.outcome with
      | .sent .. => settle ((l.sender.stamped l.outcomes.length).map (·.2)) l.fates
      | _ => l.fates
    accepted := l.accepted ++ flushed.accepted
    outcomes := l.outcomes ++ [flushed.outcome] }

def close (l : Ledger σ) : Ledger σ :=
  let (count, sender) := l.sender.close
  { l with
    sender
    fates := settle (List.replicate count (.dropped l.closes.length)) l.fates
    closes := l.closes ++ [count] }

def step (l : Ledger σ) : Call → Ledger σ
  | .offer r => l.offer r
  | .offerAll rs => rs.foldl offer l
  | .flush => l.flush
  | .close => l.close

def run (l : Ledger σ) (calls : List Call) : Ledger σ :=
  calls.foldl step l

/-- A fate that is final, and why: the close or the successful flush of its number took place, and a
batch is accepted as a whole. -/
def Settled (l : Ledger σ) : Fate → Prop
  | .pending => False
  | .evicted => True
  | .dropped close => close < l.closes.length
  | .sent flush accepted =>
    (∃ records bytes, l.outcomes[flush]? = some (.sent records bytes)) ∧
      (l.sender.transport.framing = .batch → accepted = true)

/-- Everything that was offered is accounted for. -/
structure Accounted (l : Ledger σ) (records : List Record) : Prop where
  offered : l.fates.map (·.1) = records
  /-- The pending records are what the queue holds, behind all that have met their fates. -/
  pending : ∃ gone, l.fates = gone ++ l.sender.queue.items.map (·, .pending) ∧
    ∀ e ∈ gone, l.Settled e.2
  suffix : l.sender.queue.items <:+ records
  bounded : l.sender.queue.items.length ≤ l.sender.queue.capacity
  /-- The accepted payloads hold the accepted records in offer order, each of them once. -/
  payloads : ∃ groups : List (List Record),
    l.accepted = groups.map (Line.writeAll l.sender.transport.precision) ∧
    groups.flatten = (l.fates.filter (·.2.isAccepted)).map (·.1)
  balance : records.length =
    l.sender.stats.recordsSent + l.sender.stats.recordsEvicted + l.closes.sum + l.sender.pending
  /-- No call changes a fate that is final. -/
  lasting : ∀ (call : Call) (i : Nat) (e : Record × Fate), l.fates[i]? = some e → e.2 ≠ .pending →
    (l.step call).fates[i]? = some e
  /-- A flush that keeps its records changes nothing else in the sender. -/
  retained : ∀ records e, l.sender.flush.2.outcome = .retained records e → ∃ outlet,
    l.sender.flush.1 = { l.sender with outlet, flushesFailed := l.sender.flushesFailed + 1 }

@[simp] lemma settle_nil (es : List (Record × Fate)) : settle [] es = es := by
  cases es <;> rfl

lemma settle_cons_pending (f : Fate) (fs : List Fate) (r : Record) (es : List (Record × Fate)) :
    settle (f :: fs) ((r, .pending) :: es) = (r, f) :: settle fs es := by
  rw [settle, if_pos rfl]

lemma map_fst_settle (fs : List Fate) (es : List (Record × Fate)) :
    (settle fs es).map (·.1) = es.map (·.1) := by
  induction es generalizing fs with
  | nil => cases fs <;> rfl
  | cons e es ih =>
    cases fs with
    | nil => rfl
    | cons f fs =>
      rw [settle]
      split <;> simp [ih]

lemma settle_append {gone : List (Record × Fate)} (h : ∀ e ∈ gone, e.2 ≠ .pending)
    (fs : List Fate) (es : List (Record × Fate)) :
    settle fs (gone ++ es) = gone ++ settle fs es := by
  cases fs with
  | nil => rw [settle_nil, settle_nil]
  | cons f fs =>
    induction gone with
    | nil => rfl
    | cons e gone ih =>
      have he : e.2 ≠ .pending := h e List.mem_cons_self
      rw [List.cons_append, settle, if_neg he, ih fun d hd => h d (List.mem_cons_of_mem e hd)]
      rfl

lemma settle_pending {rs : List Record} {fs : List Fate} (h : fs.length = rs.length) :
    settle fs (rs.map (·, .pending)) = rs.zip fs := by
  induction rs generalizing fs with
  | nil =>
    have hf : fs = [] := List.length_eq_zero_iff.1 h
    rw [hf]
    rfl
  | cons r rs ih =>
    cases fs with
    | nil => simp at h
    | cons f fs =>
      have hl : fs.length = rs.length := by simpa using h
      rw [List.map_cons, settle_cons_pending, ih hl]
      rfl

lemma sender_step (l : Ledger σ) (call : Call) : (l.step call).sender = l.sender.call call := by
  cases call with
  | offerAll rs => exact (List.foldl_hom Ledger.sender fun _ _ => rfl).symm
  | _ => rfl

lemma sender_run (l : Ledger σ) (calls : List Call) :
    (l.run calls).sender = calls.foldl Sender.call l.sender :=
  (List.foldl_hom Ledger.sender fun m call => (sender_step m call).symm).symm

lemma map_fst_offer (l : Ledger σ) (r : Record) :
    (l.offer r).fates.map (·.1) = l.fates.map (·.1) ++ [r] := by
  rw [Ledger.offer, List.map_append, map_fst_settle]
  rfl

lemma map_fst_step (l : Ledger σ) (call : Call) :
    (l.step call).fates.map (·.1) = l.fates.map (·.1) ++ Sender.offered [call] := by
  cases call with
  | offer r => exact l.map_fst_offer r
  | offerAll rs =>
    rw [Ledger.step, Sender.offered, List.flatMap_singleton]
    induction rs generalizing l with
    | nil => rw [List.foldl_nil, List.append_nil]
    | cons r rs ih => rw [List.foldl_cons, ih, map_fst_offer, List.append_assoc, List.singleton_append]
  | flush =>
    rw [Ledger.step, Ledger.flush]
    dsimp only
    split <;> simp [map_fst_settle, Sender.offered]
  | close =>
    rw [Ledger.step, Ledger.close]
    simp [map_fst_settle, Sender.offered]

lemma map_fst_run (l : Ledger σ) (calls : List Call) :
    (l.run calls).fates.map (·.1) = l.fates.map (·.1) ++ Sender.offered calls := by
  induction calls generalizing l with
  | nil => simp [run, Sender.offered]
  | cons call calls ih =>
    have hcons : Sender.offered (call :: calls) = Sender.offered [call] ++ Sender.offered calls := by
      simp [Sender.offered]
    rw [hcons, ← List.append_assoc, ← map_fst_step]
    exact ih _

end Ledger

end Telemetry
