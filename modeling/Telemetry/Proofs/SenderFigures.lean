import Telemetry.Proofs.SenderFates

/-!
# What the figures of a sender tell

The bytes sent are those of the payloads that the transport accepted. The records sent are all that
a successful flush took from the queue, so when payloads are sent one by one they include records
that the transport refused.
-/

namespace Telemetry

/-- The transport with a log of the payloads that it accepts. -/
def Transport.logged {σ : Type} (t : Transport σ) : Transport (σ × List String) where
  framing := t.framing
  precision := t.precision
  delay := t.delay
  send := fun (outlet, log) payload =>
    let (answer, outlet) := t.send outlet payload
    (answer, outlet, log ++ if answer.isOk then [payload] else [])

lemma length_flatten_kept {α : Type} {ass : List (List α)} {bs : List Bool}
    (h : ass.length = bs.length) :
    (kept ass bs).flatten.length + (kept ass (bs.map not)).flatten.length =
      ass.flatten.length := by
  induction ass generalizing bs with
  | nil => rfl
  | cons as ass ih =>
    cases bs with
    | nil => simp at h
    | cons b bs =>
      have hl : ass.length = bs.length := by simpa using h
      have hrest := ih hl
      have hhead : (if b then [as] else []).flatten.length +
          (if (!b) then [as] else []).flatten.length = as.length := by
        cases b <;> simp
      rw [List.map_cons, kept_cons, kept_cons, List.flatten_append, List.flatten_append,
        List.flatten_cons, List.length_append, List.length_append, List.length_append]
      omega

namespace Sender

variable {σ : Type}

/-- The records that the next flush gets through, as they are grouped into payloads. -/
def delivered (s : Sender σ) : List (List Record) :=
  if s.queue.isEmpty then [] else kept s.parcels s.answers

/-- The records that the next flush takes from the queue although the transport refuses them. -/
def lost (s : Sender σ) : List Record :=
  if true ∈ s.answers then (kept s.parcels (s.answers.map not)).flatten else []

/-- The sender before each flush of a run. -/
def flushes (s : Sender σ) : List Call → List (Sender σ)
  | [] => []
  | .flush :: calls => s :: s.flush.1.flushes calls
  | call :: calls => (s.call call).flushes calls

/-- The length of payloads in bytes. -/
def volume (payloads : List String) : Nat :=
  (payloads.map String.utf8ByteSize).sum

section Flush

variable {s : Sender σ}

lemma delivered_of_empty (h : s.queue.items = []) : s.delivered = [] :=
  if_pos (by rw [Queue.isEmpty, h]; rfl)

lemma delivered_of_pending (h : s.queue.items ≠ []) : s.delivered = kept s.parcels s.answers :=
  if_neg (by rw [Queue.isEmpty, List.isEmpty_iff]; exact h)

lemma delivered_of_refused (h : true ∉ s.answers) : s.delivered = [] := by
  unfold delivered
  split
  · rfl
  · exact (kept_eq_nil_iff s.length_answers.symm).2 h

/-- A record is lost by a flush that gets another one through. -/
lemma lost_eq_nil_iff : s.lost = [] ↔ (true ∈ s.answers → false ∉ s.answers) := by
  have hlen := s.length_answers
  unfold lost
  by_cases hyes : true ∈ s.answers
  · rw [if_pos hyes]
    cases hframing : s.transport.framing with
    | batch =>
      have hone : s.parcels = [s.queue.items] := by rw [parcels, hframing]
      rw [hone, List.length_singleton, List.length_eq_one_iff] at hlen
      obtain ⟨b, hb⟩ := hlen
      rw [hb] at hyes ⊢
      rw [← List.mem_singleton.1 hyes, hone]
      simp [kept]
    | perRecord =>
      have heach : s.parcels = s.queue.items.map fun r => [r] := by rw [parcels, hframing]
      have hitems : s.queue.items.length = (s.answers.map not).length := by
        rw [List.length_map, hlen, heach, List.length_map]
      have hnil := kept_eq_nil_iff hitems
      have hflat : (kept s.parcels (s.answers.map not)).flatten =
          kept s.queue.items (s.answers.map not) := by
        rw [heach, kept_map, ← List.flatMap_def, List.flatMap_singleton']
      rw [hflat, hnil]
      simp [hyes]
  · rw [if_neg hyes]
    exact ⟨fun _ hmem => absurd hmem hyes, fun _ => rfl⟩

lemma lost_of_batch (h : s.transport.framing = .batch) : s.lost = [] := by
  rw [lost_eq_nil_iff]
  intro hyes hno
  have hlen := s.length_answers
  rw [parcels, h, List.length_singleton, List.length_eq_one_iff] at hlen
  obtain ⟨b, hb⟩ := hlen
  rw [hb, List.mem_singleton] at hyes hno
  exact absurd (hyes.trans hno.symm) (by decide)

/-- What a successful flush takes from the queue is delivered or lost. -/
lemma length_items_of_accepted (hi : s.queue.items ≠ []) (hyes : true ∈ s.answers) :
    s.queue.items.length = s.delivered.flatten.length + s.lost.length := by
  have hsplit := length_flatten_kept s.length_answers.symm
  rw [flatten_parcels] at hsplit
  rw [delivered_of_pending hi, lost, if_pos hyes, hsplit]

lemma lost_of_empty (h : s.queue.items = []) : s.lost = [] := by
  unfold lost
  split
  · have hsplit := length_flatten_kept s.length_answers.symm
    rw [flatten_parcels, h, List.length_nil] at hsplit
    apply List.eq_nil_of_length_eq_zero
    omega
  · rfl

lemma payloads_of_delivered (hi : s.queue.items ≠ []) :
    kept s.payloads s.answers = s.delivered.map (Line.writeAll s.transport.precision) := by
  rw [delivered_of_pending hi, payloads_eq, kept_map]

/-- What one flush adds to the figures, and what it reports. -/
lemma figures_flush (s : Sender σ) :
    s.flush.1.recordsSent = s.recordsSent + (s.delivered.flatten.length + s.lost.length) ∧
    s.flush.1.bytesSent =
      s.bytesSent + volume (s.delivered.map (Line.writeAll s.transport.precision)) ∧
    ∀ records bytes, s.flush.2.outcome = .sent records bytes →
      records = s.delivered.flatten.length + s.lost.length ∧
      bytes = volume (s.delivered.map (Line.writeAll s.transport.precision)) ∧
      true ∈ s.answers := by
  by_cases hi : s.queue.items = []
  · rw [flush_of_empty hi, delivered_of_empty hi, lost_of_empty hi]
    exact ⟨rfl, rfl, nofun⟩
  · rcases flush_of_pending hi with ⟨hyes, outlet, bytes, hbytes, hf⟩ | ⟨hno, outlet, e, hf⟩
    · have hrecords := length_items_of_accepted hi hyes
      rw [payloads_of_delivered hi] at hbytes
      rw [hf]
      refine ⟨by rw [hrecords], by rw [hbytes]; rfl, ?_⟩
      intro records' bytes' hout
      cases hout
      exact ⟨hrecords, hbytes, hyes⟩
    · rw [hf, delivered_of_refused hno, lost, if_neg hno]
      exact ⟨rfl, rfl, nofun⟩

end Flush

section Log

variable {t : Transport σ} {s : Sender (σ × List String)}

lemma log_carryAll (h : s.transport = t.logged) (f : Flight) (ps : List String) :
    (s.carryAll f ps).1.outlet.2 =
      s.outlet.2 ++ kept ps (s.transport.answers s.outlet ps) := by
  induction ps generalizing s f with
  | nil => simp [carryAll]
  | cons p ps ih =>
    have hlog : (s.transport.send s.outlet p).2.2 =
        s.outlet.2 ++ if (s.transport.send s.outlet p).1.isOk then [p] else [] := by
      rw [h]
      rfl
    have hrest := ih (s := (s.carry f p).1) h (s.carry f p).2
    rw [carryAll, Transport.answers, kept_cons, ← List.append_assoc, ← hlog]
    exact hrest

lemma outlet_land (s : Sender σ) (f : Flight) : (s.land f).1.outlet = s.outlet := by
  unfold land
  dsimp only
  split <;> rfl

/-- The log of the transport grows by what the flush gets through. -/
lemma log_flush (h : s.transport = t.logged) :
    s.flush.1.outlet.2 =
      s.outlet.2 ++ s.delivered.map (Line.writeAll s.transport.precision) := by
  by_cases hi : s.queue.items = []
  · rw [flush_of_empty hi, delivered_of_empty hi]
    simp
  · have hl : s.launch = some ⟨s.pending, s.payloads, [], none⟩ :=
      if_neg (by rw [Queue.isEmpty, List.isEmpty_iff]; exact hi)
    rw [← payloads_of_delivered hi, flush, hl]
    dsimp only
    rw [outlet_land, log_carryAll h]
    rfl

end Log

section Run

lemma figures_call (s : Sender σ) {call : Call} (h : call ≠ .flush) :
    (s.call call).recordsSent = s.recordsSent ∧ (s.call call).bytesSent = s.bytesSent ∧
      (s.call call).outlet = s.outlet := by
  cases call with
  | offer r => exact ⟨rfl, rfl, rfl⟩
  | offerAll rs =>
    rw [call, offerAll]
    clear h
    induction rs generalizing s with
    | nil => exact ⟨rfl, rfl, rfl⟩
    | cons r rs ih => exact ih (s.offer r)
  | flush => exact absurd rfl h
  | close => exact ⟨rfl, rfl, rfl⟩

lemma flushes_cons (s : Sender σ) {call : Call} (h : call ≠ .flush) (calls : List Call) :
    s.flushes (call :: calls) = (s.call call).flushes calls := by
  cases call with
  | flush => exact absurd rfl h
  | _ => rfl

lemma transport_flushes {s f : Sender σ} {calls : List Call} (h : f ∈ s.flushes calls) :
    f.transport = s.transport := by
  induction calls generalizing s with
  | nil => cases h
  | cons call calls ih =>
    have hcall := (s.fixed_call call).2
    by_cases hflush : call = .flush
    · subst hflush
      rcases List.mem_cons.1 h with rfl | h
      · rfl
      · exact (ih h).trans hcall
    · rw [flushes_cons s hflush] at h
      exact (ih h).trans hcall

/-- The figures grow with the flushes of a run alone. -/
lemma figures_calls (s : Sender σ) (calls : List Call) :
    (calls.foldl Sender.call s).recordsSent = s.recordsSent +
        (((s.flushes calls).flatMap delivered).flatten.length +
          ((s.flushes calls).flatMap lost).length) ∧
      (calls.foldl Sender.call s).bytesSent = s.bytesSent +
        volume (((s.flushes calls).flatMap delivered).map
          (Line.writeAll s.transport.precision)) := by
  induction calls generalizing s with
  | nil => exact ⟨rfl, rfl⟩
  | cons call calls ih =>
    obtain ⟨hr, hb⟩ := ih (s.call call)
    rw [List.foldl_cons, hr, hb, (s.fixed_call call).2]
    by_cases hflush : call = .flush
    · subst hflush
      obtain ⟨hrecords, hbytes, _⟩ := s.figures_flush
      rw [Sender.call, hrecords, hbytes, flushes, List.flatMap_cons, List.flatMap_cons]
      simp only [volume, List.flatten_append, List.length_append, List.map_append,
        List.sum_append_nat]
      omega
    · obtain ⟨hrecords, hbytes, _⟩ := s.figures_call hflush
      rw [hrecords, hbytes, flushes_cons s hflush]
      exact ⟨rfl, rfl⟩

lemma log_calls {t : Transport σ} {s : Sender (σ × List String)} (h : s.transport = t.logged)
    (calls : List Call) :
    (calls.foldl Sender.call s).outlet.2 = s.outlet.2 ++
      ((s.flushes calls).flatMap delivered).map (Line.writeAll s.transport.precision) := by
  induction calls generalizing s with
  | nil => simp [flushes]
  | cons call calls ih =>
    have hcall := (s.fixed_call call).2
    rw [List.foldl_cons, ih (hcall.trans h), hcall]
    by_cases hflush : call = .flush
    · subst hflush
      rw [Sender.call, log_flush h, flushes, List.flatMap_cons, List.map_append, List.append_assoc]
    · rw [(s.figures_call hflush).2.2, flushes_cons s hflush]

end Run

/-- What the figures of a sender say of what the transport accepted. Bytes are counted as they are
accepted, and records as they leave the queue. -/
theorem figures_run {transport : Transport σ} {outlet : σ} {capacity : Nat}
    {s : Sender (σ × List String)}
    (hnew : Sender.new transport.logged (outlet, []) capacity = .ok s) (calls : List Call) :
    let t := calls.foldl Sender.call s
    let accepted := (s.flushes calls).flatMap delivered
    let refused := (s.flushes calls).flatMap lost
    t.outlet.2 = accepted.map (Line.writeAll transport.precision) ∧
    t.stats.bytesSent = volume t.outlet.2 ∧
    t.stats.recordsSent = accepted.flatten.length + refused.length ∧
    (t.stats.recordsSent = accepted.flatten.length ↔
      ∀ f ∈ s.flushes calls, true ∈ f.answers → false ∉ f.answers) ∧
    (transport.framing = .batch → t.stats.recordsSent = accepted.flatten.length) ∧
    ∀ f ∈ s.flushes calls,
      f.flush.1.outlet.2 = f.outlet.2 ++ f.delivered.map (Line.writeAll transport.precision) ∧
      ∀ records bytes, f.flush.2.outcome = .sent records bytes →
        bytes = volume (f.delivered.map (Line.writeAll transport.precision)) ∧
        records = f.delivered.flatten.length + f.lost.length ∧
        (records = f.delivered.flatten.length ↔ false ∉ f.answers) := by
  intro t accepted refused
  have hstart : s.transport = transport.logged ∧ s.recordsSent = 0 ∧ s.bytesSent = 0 ∧
      s.outlet.2 = [] := by
    rw [Sender.new] at hnew
    cases hq : (Queue.new capacity : Except CapacityError (Queue Record)) with
    | error e =>
      rw [hq] at hnew
      cases hnew
    | ok queue =>
      rw [hq] at hnew
      cases hnew
      exact ⟨rfl, rfl, rfl, rfl⟩
  obtain ⟨htransport, hrecords, hbytes, hlog⟩ := hstart
  have hprecision : s.transport.precision = transport.precision := by rw [htransport]; rfl
  have hframing : s.transport.framing = transport.framing := by rw [htransport]; rfl
  have hfigures := s.figures_calls calls
  have hruns := log_calls htransport calls
  rw [hrecords, hbytes, Nat.zero_add, Nat.zero_add, hprecision] at hfigures
  rw [hlog, List.nil_append, hprecision] at hruns
  have hsame : t.stats.recordsSent = accepted.flatten.length ↔ refused = [] := by
    rw [← List.length_eq_zero_iff]
    have hsum : t.stats.recordsSent = accepted.flatten.length + refused.length := hfigures.1
    omega
  refine ⟨hruns, hfigures.2.trans (congrArg volume hruns.symm), hfigures.1, ?_, ?_, ?_⟩
  · rw [hsame, List.flatMap_eq_nil_iff]
    exact forall₂_congr fun f _ => lost_eq_nil_iff
  · intro hbatch
    rw [hsame, List.flatMap_eq_nil_iff]
    intro f hf
    apply lost_of_batch
    rw [transport_flushes hf, hframing, hbatch]
  · intro f hf
    have hft := (transport_flushes hf).trans htransport
    have hfp : f.transport.precision = transport.precision := by rw [hft]; rfl
    refine ⟨hfp ▸ log_flush hft, ?_⟩
    intro records bytes hout
    obtain ⟨hr, hb, hyes⟩ := f.figures_flush.2.2 records bytes hout
    have hnone : f.lost.length = 0 ↔ false ∉ f.answers := by
      rw [List.length_eq_zero_iff, lost_eq_nil_iff]
      exact ⟨fun h => h hyes, fun h _ => h⟩
    refine ⟨hfp ▸ hb, hr, ?_⟩
    rw [← hnone]
    omega

/-- One of two records is refused, and still the flush reports two records. -/
theorem figures_run_refused :
    let transport : Transport ScriptOutlet :=
      ⟨.perRecord, .milliseconds, ⟨0⟩, ScriptOutlet.send⟩
    let record (name : String) : Record := ⟨name, .empty, Dict.empty.insert "count" "1i", 0⟩
    let calls : List Call := [.offerAll [record "a", record "b"], .flush]
    ∃ s, Sender.new transport.logged (⟨[.error (.unavailable "down")]⟩, []) 10 = .ok s ∧
      (calls.foldl Sender.call s).stats.bytesSent = 12 ∧
      (calls.foldl Sender.call s).stats.recordsSent = 2 ∧
      ((s.flushes calls).flatMap delivered).flatten = [record "b"] ∧
      (calls.foldl Sender.call s).stats.recordsSent ≠
        ((s.flushes calls).flatMap delivered).flatten.length := by
  intro transport record calls
  let queue : Queue Record := ⟨[], 10, 0, by decide, by decide, by decide⟩
  let s : Sender (ScriptOutlet × List String) :=
    ⟨queue, transport.logged, (⟨[.error (.unavailable "down")]⟩, []), 0, 0, 0, 0⟩
  have hnew : Sender.new transport.logged (⟨[.error (.unavailable "down")]⟩, []) 10 = .ok s := rfl
  have hdelivered : ((s.flushes calls).flatMap delivered).flatten = [record "b"] := rfl
  have hanswers : ∃ f ∈ s.flushes calls, f.answers = [false, true] :=
    ⟨_, List.mem_singleton.2 rfl, rfl⟩
  obtain ⟨_, hbytes, hrecords, hiff, _⟩ := figures_run hnew calls
  refine ⟨s, hnew, hbytes.trans (by decide +kernel), hrecords.trans rfl, hdelivered, ?_⟩
  intro heq
  obtain ⟨f, hf, ha⟩ := hanswers
  have hall := hiff.1 heq f hf
  rw [ha] at hall
  exact absurd (hall (by decide)) (by decide)

end Sender

end Telemetry
