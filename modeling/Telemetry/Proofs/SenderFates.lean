import Telemetry.Proofs.SenderLedger
import Telemetry.Transport.Script

/-!
# The fates of offered records

In any run the pending records stand behind all that have met their fates, and the books of the
sender agree with the fates. So nothing is lost or counted twice, whatever the transport answers.
-/

namespace Telemetry

namespace Ledger

open Sender (Call)

variable {σ : Type}

/-- The invariant of a run, with the records that have met their fates. -/
structure Balanced (l : Ledger σ) (gone : List (Record × Fate)) : Prop where
  fates : l.fates = gone ++ l.sender.queue.items.map (·, .pending)
  settled : ∀ e ∈ gone, l.Settled e.2
  payloads : ∃ groups : List (List Record),
    l.accepted = groups.map (Line.writeAll l.sender.transport.precision) ∧
    groups.flatten = (gone.filter (·.2.isAccepted)).map (·.1)
  sent : l.sender.recordsSent = gone.countP (·.2.isSent)
  evicted : l.sender.queue.evicted = gone.countP (·.2 = .evicted)
  dropped : l.closes.sum = gone.countP (·.2.isDropped)

lemma not_pending_of_settled {l : Ledger σ} {gone : List (Record × Fate)}
    (h : ∀ e ∈ gone, l.Settled e.2) : ∀ e ∈ gone, e.2 ≠ .pending := by
  intro e he hp
  have hs := h e he
  rw [hp] at hs
  exact hs

/-- What is final stays final while closes and flushes are added. -/
lemma Settled.mono {l m : Ledger σ} {f : Fate} (h : l.Settled f)
    (hc : l.closes <+: m.closes) (ho : l.outcomes <+: m.outcomes)
    (ht : m.sender.transport = l.sender.transport) : m.Settled f := by
  cases f with
  | pending => exact h
  | evicted => trivial
  | dropped close => exact Nat.lt_of_lt_of_le h hc.length_le
  | sent flush accepted =>
    obtain ⟨⟨records, bytes, hf⟩, hb⟩ := h
    refine ⟨⟨records, bytes, ?_⟩, ?_⟩
    · obtain ⟨more, hm⟩ := ho
      rw [← hm]
      exact List.getElem?_append_left (List.getElem?_eq_some_iff.1 hf).1 ▸ hf
    · rw [ht]
      exact hb

/-- A call that settles `new` keeps the balance if it books `new` under the right heads. -/
lemma Balanced.extend {l m : Ledger σ} {gone new : List (Record × Fate)} (h : l.Balanced gone)
    (ht : m.sender.transport = l.sender.transport)
    (hc : l.closes <+: m.closes) (ho : l.outcomes <+: m.outcomes)
    (hfates : m.fates = gone ++ new ++ m.sender.queue.items.map (·, .pending))
    (hnew : ∀ e ∈ new, m.Settled e.2)
    (hpayloads : ∃ groups : List (List Record),
      m.accepted = l.accepted ++ groups.map (Line.writeAll l.sender.transport.precision) ∧
      groups.flatten = (new.filter (·.2.isAccepted)).map (·.1))
    (hsent : m.sender.recordsSent = l.sender.recordsSent + new.countP (·.2.isSent))
    (hevicted : m.sender.queue.evicted = l.sender.queue.evicted + new.countP (·.2 = .evicted))
    (hdropped : m.closes.sum = l.closes.sum + new.countP (·.2.isDropped)) :
    m.Balanced (gone ++ new) where
  fates := hfates
  settled e he := by
    rcases List.mem_append.1 he with he | he
    · exact (h.settled e he).mono hc ho ht
    · exact hnew e he
  payloads := by
    obtain ⟨old, hold, hflat⟩ := h.payloads
    obtain ⟨groups, hgroups, hnewflat⟩ := hpayloads
    refine ⟨old ++ groups, ?_, ?_⟩
    · rw [hgroups, hold, ht, List.map_append]
    · rw [List.flatten_append, hflat, hnewflat, List.filter_append, List.map_append]
  sent := by rw [hsent, h.sent, List.countP_append]
  evicted := by rw [hevicted, h.evicted, List.countP_append]
  dropped := by rw [hdropped, h.dropped, List.countP_append]

/-- A call that leaves the queue and all books alone settles nothing. -/
lemma Balanced.keep {l m : Ledger σ} {gone : List (Record × Fate)} (h : l.Balanced gone)
    (ht : m.sender.transport = l.sender.transport) (hq : m.sender.queue = l.sender.queue)
    (hr : m.sender.recordsSent = l.sender.recordsSent) (hf : m.fates = l.fates)
    (ha : m.accepted = l.accepted) (hc : m.closes = l.closes) (ho : l.outcomes <+: m.outcomes) :
    m.Balanced (gone ++ []) := by
  refine h.extend ht (hc ▸ List.prefix_refl _) ho ?_ (by simp) ⟨[], by simp [ha], rfl⟩ ?_ ?_ ?_
  · rw [hf, h.fates, hq, List.append_nil]
  · rw [hr]
    rfl
  · rw [hq]
    rfl
  · rw [hc]
    rfl

lemma balanced_start {s : Sender σ} (hi : s.queue.items = []) (he : s.queue.evicted = 0)
    (hs : s.recordsSent = 0) : (start s).Balanced [] where
  fates := by simp [start, hi]
  settled e h := by simp at h
  payloads := ⟨[], rfl, rfl⟩
  sent := hs
  evicted := he
  dropped := rfl

lemma Balanced.offer {l : Ledger σ} {gone : List (Record × Fate)} (h : l.Balanced gone)
    (r : Record) : ∃ new, (l.offer r).Balanced (gone ++ new) := by
  have hp := not_pending_of_settled h.settled
  have hitems := Queue.toList_offer l.sender.queue r
  have hcount := Queue.evicted_offer l.sender.queue r
  have hqueue : (l.offer r).sender.queue = (l.sender.queue.offer r).2 := rfl
  cases hout : (l.sender.queue.offer r).1 with
  | none =>
    rw [hout] at hitems hcount
    simp only [Option.toList_none, List.nil_append] at hitems
    have hfates : (l.offer r).fates = l.fates ++ [(r, .pending)] := by
      rw [Ledger.offer, hout]
      simp
    refine ⟨[], h.extend (m := l.offer r) rfl (List.prefix_refl _) (List.prefix_refl _) ?_
      (by simp) ⟨[], by simp [Ledger.offer], rfl⟩ rfl (by rw [hqueue, hcount]; rfl) rfl⟩
    rw [hfates, h.fates, hqueue, hitems]
    simp
  | some b =>
    have hfull : l.sender.queue.isFull = true := by
      rw [← Queue.offer_isSome l.sender.queue r, hout]
      rfl
    have hpos := l.sender.queue.capacity_pos
    obtain ⟨c, rest, hc⟩ : ∃ c rest, l.sender.queue.items = c :: rest := by
      apply List.exists_cons_of_ne_nil
      intro hnil
      have hlen := Queue.isFull_iff.1 hfull
      rw [hnil, List.length_nil] at hlen
      omega
    rw [hout, hc] at hitems
    obtain ⟨rfl, hrest⟩ : b = c ∧ (l.sender.queue.offer r).2.items = rest ++ [r] := by
      simpa using hitems
    rw [hout] at hcount
    have hfates : (l.offer r).fates =
        gone ++ [(b, .evicted)] ++ (rest ++ [r]).map (·, .pending) := by
      rw [Ledger.offer, hout, h.fates, hc]
      rw [settle_append hp, Option.toList_some, List.map_singleton, List.map_cons,
        settle_cons_pending, settle_nil]
      simp
    refine ⟨[(b, .evicted)], h.extend (m := l.offer r) rfl (List.prefix_refl _)
      (List.prefix_refl _) (by rw [hfates, hqueue, hrest]) ?_ ⟨[], by simp [Ledger.offer], rfl⟩ rfl
      (by rw [hqueue, hcount]; rfl) rfl⟩
    intro e he
    rw [List.mem_singleton.1 he]
    trivial

lemma Balanced.close {l : Ledger σ} {gone : List (Record × Fate)} (h : l.Balanced gone) :
    ∃ new, l.close.Balanced (gone ++ new) := by
  have hp := not_pending_of_settled h.settled
  let items := l.sender.queue.items
  let fate : Fate := .dropped l.closes.length
  have hnew : items.zip (List.replicate items.length fate) = items.map (·, fate) := by
    rw [← List.map_const', List.map_prod_left_eq_zip]
  have hfates : l.close.fates = gone ++ items.map (·, fate) := by
    rw [← hnew, ← settle_pending List.length_replicate, ← settle_append hp, ← h.fates]
    rfl
  have hcount (p : Fate → Bool) :
      (items.map (·, fate)).countP (p ·.2) = if p fate then items.length else 0 := by
    rw [List.countP_map]
    split
    · rename_i hf
      exact List.countP_eq_length.2 fun _ _ => hf
    · rename_i hf
      exact List.countP_eq_zero.2 fun _ _ => hf
  refine ⟨items.map (·, fate), h.extend (m := l.close) rfl
    (List.prefix_append _ _) (List.prefix_refl _) ?_ ?_ ⟨[], by simp [Ledger.close], ?_⟩ ?_ ?_ ?_⟩
  · rw [hfates]
    simp [Ledger.close, Sender.close]
  · intro e he
    obtain ⟨b, _, rfl⟩ := List.mem_map.1 he
    simp [fate, Settled, Ledger.close]
  · rw [List.filter_eq_nil_iff.2]
    · rfl
    · intro e he
      obtain ⟨b, _, rfl⟩ := List.mem_map.1 he
      simp [fate, Fate.isAccepted]
  · rw [hcount]
    rfl
  · rw [hcount (· = .evicted)]
    rfl
  · rw [hcount, if_pos (show fate.isDropped = true from rfl)]
    simp [Ledger.close, Sender.close, Sender.pending, Queue.size, items]

lemma Balanced.flush_sent {l : Ledger σ} {gone : List (Record × Fate)} (h : l.Balanced gone)
    (hyes : true ∈ l.sender.answers) {outlet : σ} {bytes : Nat}
    (hf : l.sender.flush = ({ l.sender with
        outlet
        queue := l.sender.queue.clear
        flushesSucceeded := l.sender.flushesSucceeded + 1
        recordsSent := l.sender.recordsSent + l.sender.queue.items.length
        bytesSent := l.sender.bytesSent + bytes },
      ⟨.sent l.sender.queue.items.length bytes, kept l.sender.payloads l.sender.answers, []⟩)) :
    l.flush.Balanced (gone ++ l.sender.stamped l.outcomes.length) := by
  have hp := not_pending_of_settled h.settled
  let new := l.sender.stamped l.outcomes.length
  have hnew : l.flush.fates = gone ++ new := by
    have hlen : (new.map (·.2)).length = l.sender.queue.items.length := by
      rw [List.length_map, ← l.sender.map_fst_stamped l.outcomes.length, List.length_map]
    have hzip : l.sender.queue.items.zip (new.map (·.2)) = new :=
      (List.zip_of_prod (l.sender.map_fst_stamped _) rfl).symm
    rw [← hzip, ← settle_pending hlen, ← settle_append hp, ← h.fates, Ledger.flush, hf]
  have hm : l.flush.sender = l.sender.flush.1 := rfl
  have ho : l.flush.outcomes = l.outcomes ++ [.sent l.sender.queue.items.length bytes] := by
    rw [Ledger.flush, hf]
  refine h.extend (m := l.flush) (by rw [hm, hf]) (List.prefix_refl _)
    (by rw [ho]; exact List.prefix_append _ _) ?_ ?_
    ⟨kept l.sender.parcels l.sender.answers, ?_, ?_⟩ ?_ ?_ ?_
  · rw [hnew, hm, hf]
    simp [new]
  · intro e he
    obtain ⟨b, hb, hfate, hbatch⟩ := Sender.mem_stamped he
    rw [hfate]
    refine ⟨⟨l.sender.queue.items.length, bytes, by rw [ho]; simp⟩, fun hframing => ?_⟩
    rw [hm, hf] at hframing
    rw [hbatch hframing] at hyes
    exact (List.mem_singleton.1 hyes).symm
  · rw [Ledger.flush, hf, ← kept_map, ← Sender.payloads_eq]
  · exact (l.sender.accepted_stamped _).symm
  · rw [l.sender.countP_stamped _ fun _ => rfl, hm, hf]
    rfl
  · rw [l.sender.countP_stamped _ (p := (decide <| · = .evicted)) fun _ => rfl, hm, hf]
    rfl
  · rw [l.sender.countP_stamped _ fun _ => rfl]
    rfl

lemma Balanced.flush {l : Ledger σ} {gone : List (Record × Fate)} (h : l.Balanced gone) :
    ∃ new, l.flush.Balanced (gone ++ new) := by
  by_cases hi : l.sender.queue.items = []
  · have hm : l.flush = { l with outcomes := l.outcomes ++ [.empty] } := by
      simp [Ledger.flush, Sender.flush_of_empty hi]
    rw [hm]
    exact ⟨[], h.keep rfl rfl rfl rfl rfl rfl (List.prefix_append _ _)⟩
  rcases Sender.flush_of_pending hi with ⟨hyes, outlet, bytes, _, hf⟩ | ⟨_, outlet, e, hf⟩
  · exact ⟨_, h.flush_sent hyes hf⟩
  · have hm : l.flush = { l with
        sender := { l.sender with outlet, flushesFailed := l.sender.flushesFailed + 1 }
        outcomes := l.outcomes ++ [.retained l.sender.queue.items.length e] } := by
      simp [Ledger.flush, hf]
    rw [hm]
    exact ⟨[], h.keep rfl rfl rfl rfl rfl rfl (List.prefix_append _ _)⟩

lemma Balanced.step {l : Ledger σ} {gone : List (Record × Fate)} (h : l.Balanced gone)
    (call : Call) : ∃ new, (l.step call).Balanced (gone ++ new) := by
  cases call with
  | offer r => exact h.offer r
  | offerAll rs =>
    rw [Ledger.step]
    induction rs generalizing l gone with
    | nil => exact ⟨[], by rwa [List.append_nil]⟩
    | cons r rs ih =>
      obtain ⟨first, hfirst⟩ := h.offer r
      obtain ⟨rest, hrest⟩ := ih hfirst
      exact ⟨first ++ rest, by rwa [← List.append_assoc]⟩
  | flush => exact h.flush
  | close => exact h.close

lemma Balanced.run {l : Ledger σ} {gone : List (Record × Fate)} (h : l.Balanced gone)
    (calls : List Call) : ∃ new, (l.run calls).Balanced (gone ++ new) := by
  induction calls generalizing l gone with
  | nil => exact ⟨[], by rwa [List.append_nil]⟩
  | cons call calls ih =>
    obtain ⟨first, hfirst⟩ := h.step call
    obtain ⟨rest, hrest⟩ := ih hfirst
    exact ⟨first ++ rest, by rwa [← List.append_assoc]⟩

lemma length_eq_of_settled {gone : List (Record × Fate)} (h : ∀ e ∈ gone, e.2 ≠ .pending) :
    gone.length = gone.countP (·.2.isSent) + gone.countP (·.2 = .evicted) +
      gone.countP (·.2.isDropped) := by
  induction gone with
  | nil => rfl
  | cons e gone ih =>
    have hrest := ih fun d hd => h d (List.mem_cons_of_mem e hd)
    have he : e.2 ≠ .pending := h e List.mem_cons_self
    obtain ⟨r, fate⟩ := e
    rw [List.length_cons, hrest, List.countP_cons, List.countP_cons, List.countP_cons]
    cases fate with
    | pending => exact absurd rfl he
    | evicted => simp [Fate.isSent, Fate.isDropped]; omega
    | dropped close => simp [Fate.isSent, Fate.isDropped]; omega
    | sent flush accepted => simp [Fate.isSent, Fate.isDropped]; omega

/-- What has met its fate stands before what is pending, so the next call leaves it alone. -/
lemma Balanced.lasting {l : Ledger σ} {gone : List (Record × Fate)} (h : l.Balanced gone)
    (call : Call) {i : Nat} {e : Record × Fate} (hi : l.fates[i]? = some e) (he : e.2 ≠ .pending) :
    (l.step call).fates[i]? = some e := by
  obtain ⟨new, hnew⟩ := h.step call
  rw [h.fates] at hi
  by_cases hlt : i < gone.length
  · rw [List.getElem?_append_left hlt] at hi
    rw [hnew.fates, List.append_assoc, List.getElem?_append_left hlt, hi]
  · rw [List.getElem?_append_right (by omega)] at hi
    obtain ⟨r, _, rfl⟩ := List.mem_map.1 (List.mem_of_getElem? hi)
    exact absurd rfl he

lemma Balanced.accounted {l : Ledger σ} {gone : List (Record × Fate)} (h : l.Balanced gone)
    {records : List Record} (hr : l.fates.map (·.1) = records) : l.Accounted records where
  offered := hr
  pending := ⟨gone, h.fates, h.settled⟩
  suffix := by
    rw [← hr, h.fates, List.map_append, List.map_map]
    exact ⟨gone.map (·.1), by simp [Function.comp_def]⟩
  bounded := l.sender.queue.bounded
  payloads := by
    obtain ⟨groups, hgroups, hflat⟩ := h.payloads
    refine ⟨groups, hgroups, ?_⟩
    have hnone : (l.sender.queue.items.map (·, Fate.pending)).filter (·.2.isAccepted) = [] := by
      simp [List.filter_map, Function.comp_def, Fate.isAccepted]
    rw [hflat, h.fates, List.filter_append, hnone, List.append_nil]
  balance := by
    have hgone := length_eq_of_settled (not_pending_of_settled h.settled)
    rw [← h.sent, ← h.evicted, ← h.dropped] at hgone
    rw [← hr, h.fates, List.length_map, List.length_append, List.length_map, hgone]
    rfl
  lasting call i e := h.lasting call
  retained records e hout := by
    by_cases hi : l.sender.queue.items = []
    · rw [Sender.flush_of_empty hi] at hout
      cases hout
    · rcases Sender.flush_of_pending hi with ⟨_, _, _, _, hf⟩ | ⟨_, outlet, _, hf⟩
      · rw [hf] at hout
        cases hout
      · exact ⟨outlet, by rw [hf]⟩

end Ledger

lemma Sender.fixed_call {σ : Type} (s : Sender σ) (call : Call) :
    (s.call call).queue.capacity = s.queue.capacity ∧ (s.call call).transport = s.transport := by
  cases call with
  | offer r => exact ⟨Queue.capacity_offer _ _, rfl⟩
  | offerAll rs =>
    rw [Sender.call, Sender.offerAll]
    induction rs generalizing s with
    | nil => exact ⟨rfl, rfl⟩
    | cons r rs ih =>
      obtain ⟨hc, ht⟩ := ih (s.offer r)
      exact ⟨hc.trans (Queue.capacity_offer _ _), ht⟩
  | flush =>
    rw [Sender.call]
    by_cases hi : s.queue.items = []
    · rw [flush_of_empty hi]
      exact ⟨rfl, rfl⟩
    · rcases flush_of_pending hi with ⟨_, _, _, _, hf⟩ | ⟨_, _, _, hf⟩ <;> rw [hf]
      · exact ⟨rfl, rfl⟩
      · exact ⟨rfl, rfl⟩
  | close => exact ⟨rfl, rfl⟩

lemma Sender.fixed_calls {σ : Type} (s : Sender σ) (calls : List Call) :
    (calls.foldl Sender.call s).queue.capacity = s.queue.capacity ∧
      (calls.foldl Sender.call s).transport = s.transport := by
  induction calls generalizing s with
  | nil => exact ⟨rfl, rfl⟩
  | cons call calls ih =>
    obtain ⟨hc, ht⟩ := ih (s.call call)
    exact ⟨hc.trans (s.fixed_call call).1, ht.trans (s.fixed_call call).2⟩

/-- Every record has exactly one fate at every moment, and none is accepted twice. -/
theorem Sender.accounted_run {σ : Type} (transport : Transport σ) (outlet : σ) (capacity : Nat)
    (hlow : 1 ≤ capacity) (hhigh : capacity ≤ 100000000) :
    ∃ s, Sender.new transport outlet capacity = .ok s ∧ ∀ calls : List Call,
      let l := (Ledger.start s).run calls
      l.sender = calls.foldl Sender.call s ∧ l.sender.queue.capacity = capacity ∧
        l.sender.transport = transport ∧ l.Accounted (Sender.offered calls) := by
  let s : Sender σ := ⟨⟨[], capacity, 0, hlow, hhigh, Nat.zero_le _⟩, transport, outlet, 0, 0, 0, 0⟩
  refine ⟨s, ?_, fun calls => ?_⟩
  · rw [Sender.new, Queue.new, dif_pos ⟨hlow, hhigh⟩]
    rfl
  · have hstart : (Ledger.start s).Balanced [] := Ledger.balanced_start rfl rfl rfl
    obtain ⟨gone, hgone⟩ := hstart.run calls
    have hsender := (Ledger.start s).sender_run calls
    obtain ⟨hc, ht⟩ := s.fixed_calls calls
    refine ⟨hsender, ?_, ?_, hgone.accounted ?_⟩
    · rw [hsender]
      exact hc
    · rw [hsender]
      exact ht
    · rw [Ledger.map_fst_run]
      rfl

/-- A queue of two with a transport that refuses one payload. The first of three records is evicted
and one of the two others is lost in the flush. -/
theorem Sender.accounted_run_refused :
    (1 ≤ 2 ∧ 2 ≤ 100000000) ∧
    ∃ s, Sender.new ⟨.perRecord, .milliseconds, ⟨0⟩, ScriptOutlet.send⟩
        ⟨[.error (.unavailable "down")]⟩ 2 = .ok s ∧
      let record (name : String) : Record := ⟨name, .empty, Dict.empty.insert "count" "1i", 0⟩
      let calls := [.offerAll [record "a", record "b", record "c"], .flush, .offer (record "d"),
        .close, .offer (record "e")]
      let l := (Ledger.start s).run calls
      l.Accounted (Sender.offered calls) ∧
      l.fates.map (·.2) = [.evicted, .sent 0 false, .sent 0 true, .dropped 0, .pending] ∧
      l.accepted = [Line.write .milliseconds (record "c")] := by
  refine ⟨by decide, ?_⟩
  obtain ⟨s, hs, hall⟩ := accounted_run ⟨.perRecord, .milliseconds, ⟨0⟩, ScriptOutlet.send⟩
    ⟨[.error (.unavailable "down")]⟩ 2 (by decide) (by decide)
  refine ⟨s, hs, (hall _).2.2.2, ?_⟩
  cases hs
  exact ⟨rfl, rfl⟩

end Telemetry
