import Telemetry.Proofs.CycleRuns
import Telemetry.Proofs.QueueWindow
import Telemetry.Proofs.RecordStamps
import Telemetry.Proofs.SenderFigures
import Telemetry.Transport.Script

/-!
# What a report does

A report visits the accepted instruments in order and offers their records, all with its timestamp.
When it packs the queue into one payload, this holds the last records that reports have offered since
a payload was last accepted, as many as the queue has room for. A report that is given up leaves the
sender alone.
-/

namespace Telemetry

namespace Cycle

variable {σ : Type}

/-- Records as one payload in the precision of the transport. -/
def payload (c : Cycle σ) (window : List Record) : String :=
  Line.writeAll c.sender.transport.precision window

def answer (c : Cycle σ) (window : List Record) : Except TransportError Unit × σ :=
  c.sender.transport.send c.sender.outlet (c.payload window)

/-- The transport is handed one payload with these records. -/
structure Sends (c : Cycle σ) (window : List Record) (done : Reported σ) : Prop where
  outlet : done.cycle.sender.outlet = (c.answer window).2
  accepted : (c.answer window).1 = .ok () → done.accepted = [c.payload window] ∧
    done.cycle.sender.queue.items = [] ∧
    done.report.flush = some (.sent window.length (c.payload window).utf8ByteSize)
  refused : ∀ e, (c.answer window).1 = .error e → done.accepted = [] ∧
    done.cycle.sender.queue.items = window ∧
    done.report.flush = some (.retained window.length e)

/-- A report that is not given up, when earlier ones have left these records waiting. -/
structure Completes (c : Cycle σ) (r : Registry) (timestamp : Int64) (waiting : List Record)
    (done : Reported σ) : Prop where
  visited : c.visited r timestamp = r.selection c.filter
  instruments : done.report.instruments =
    done.report.produced + done.report.skipped + done.report.failed
  produced : done.report.produced = (c.offers r timestamp).length
  offers : c.offers r timestamp =
    (r.selection c.filter).filterMap (c.record? r.clock.tick timestamp)
  offered : (c.gather r timestamp).cycle.sender = c.sender.offerAll (c.offers r timestamp)
  empty_iff : done.report.flush = some .empty ↔ waiting ++ c.offers r timestamp = []
  empty : waiting ++ c.offers r timestamp = [] → done.cycle.sender = c.sender ∧ done.accepted = []
  sends : waiting ++ c.offers r timestamp ≠ [] →
    c.Sends ((waiting ++ c.offers r timestamp).rtake c.sender.queue.capacity) done

/-- A report that is given up at an instrument. -/
structure GivesUp (c : Cycle σ) (r : Registry) (timestamp : Int64) (done : Reported σ) : Prop where
  policy : c.policy = .abortCycle
  visited : ∃ before e after, r.selection c.filter = before ++ e :: after ∧
    c.visited r timestamp = before ++ [e] ∧
    (∀ d ∈ before, (c.look r.clock.tick timestamp d).outcome.isOk = true) ∧
    (c.look r.clock.tick timestamp e).outcome.isOk = false
  produced : done.report.produced = 0
  failed : done.report.failed = 1
  flush : done.report.flush = none
  accepted : done.accepted = []
  sender : done.cycle.sender = c.sender

structure Reports (c : Cycle σ) (r : Registry) (timestamp : Int64) (waiting : List Record)
    (done : Reported σ) : Prop where
  stamp : done.report.timestamp = timestamp
  stamped : (∀ f ∈ Adapter.customs c.tracking.adapters, Adapter.KeepsTime f) →
    ∀ record ∈ (c.walk r timestamp).records, record.timestamp = timestamp
  walked : done.registry = (c.walk r timestamp).registry ∧
    done.report.skipped = (c.walk r timestamp).skipped ∧
    done.report.failed = (c.walk r timestamp).failed ∧
    done.report.aborted = (c.walk r timestamp).aborted
  instruments : done.report.instruments = (r.selection c.filter).length
  selected : ∀ e, e ∈ r.selection c.filter ↔
    r.entries.get? e.1 = some e.2 ∧ c.filter.accepts e.1 = true
  once : ((r.selection c.filter).map (·.1)).Nodup
  ordered : (r.selection c.filter).Pairwise Registry.Precedes
  visits : c.walk r timestamp = (c.visited r timestamp).foldl
    (fun w e => w.visit c.context c.policy timestamp e.1 e.2) (Walk.start r c.tracking)
  kept : done.report.aborted = false → c.Completes r timestamp waiting done
  aborted : done.report.aborted = true → c.GivesUp r timestamp done

variable {c : Cycle σ} {r : Registry} {timestamp : Int64} {waiting : List Record}

lemma Sends.cases {window : List Record} {done : Reported σ} (h : c.Sends window done) :
    (done.accepted = [c.payload window] ∧ done.cycle.sender.queue.items = [] ∧
      done.report.flush = some (.sent window.length (c.payload window).utf8ByteSize)) ∨
    ∃ e, done.accepted = [] ∧ done.cycle.sender.queue.items = window ∧
      done.report.flush = some (.retained window.length e) := by
  cases hanswer : (c.answer window).1 with
  | ok _ => exact .inl (h.accepted hanswer)
  | error e => exact .inr ⟨e, h.refused e hanswer⟩

lemma report_of_kept (h : (c.walk r timestamp).aborted = false) :
    (c.report r timestamp).cycle.sender = (c.sender.offerAll (c.offers r timestamp)).flush.1 ∧
    (c.report r timestamp).accepted =
      (c.sender.offerAll (c.offers r timestamp)).flush.2.accepted ∧
    (c.report r timestamp).report = { (c.gather r timestamp).report with
      flush := some (c.sender.offerAll (c.offers r timestamp)).flush.2.outcome } := by
  have hkept : ¬(c.gather r timestamp).report.aborted = true := by
    rw [report_gather]
    simp [h]
  rw [report, send, if_neg hkept, sender_gather]
  exact ⟨rfl, rfl, rfl⟩

lemma givesUp (h : (c.walk r timestamp).aborted = true) :
    c.GivesUp r timestamp (c.report r timestamp) := by
  have hany := (c.walked_walk r timestamp).aborted.symm.trans h
  obtain ⟨before, e, after, hsplit, hbefore, hstop, hvisited⟩ := upTo_of_any hany
  have hfail : c.policy = .abortCycle ∧ (c.look r.clock.tick timestamp e).outcome.isOk = false := by
    simpa [stops] using hstop
  have hoffers := offers_of_aborted h
  have hreport : c.report r timestamp = _ := report_of_aborted c r timestamp h
  have hfailed : (c.walk r timestamp).failed = 1 := by
    have hcount : (c.walk r timestamp).failed =
        0 + if (c.walk r timestamp).aborted then 1 else 0 := Walk.failed_visitAll hfail.1 rfl
    rwa [h] at hcount
  rw [hreport, report_gather, hoffers]
  refine ⟨hfail.1, ⟨before, e, after, hsplit, hvisited, ?_, hfail.2⟩, rfl, hfailed, rfl, rfl, ?_⟩
  · intro d hd
    have hpass := List.any_eq_false.1 hbefore d hd
    simpa [stops, hfail.1] using hpass
  · rw [sender_gather, hoffers]
    rfl

section Kept

variable (hframing : c.sender.transport.framing = .batch)
  (hitems : c.sender.queue.items = waiting.rtake c.sender.queue.capacity)
  (hkept : (c.walk r timestamp).aborted = false)

include hitems

lemma items_offers :
    (c.sender.offerAll (c.offers r timestamp)).queue.items =
      (waiting ++ c.offers r timestamp).rtake c.sender.queue.capacity := by
  rw [Sender.items_offerAll, hitems, rtake_rtake_append]

lemma items_offers_eq_nil_iff :
    (c.sender.offerAll (c.offers r timestamp)).queue.items = [] ↔
      waiting ++ c.offers r timestamp = [] := by
  rw [items_offers hitems, rtake_eq_nil_iff c.sender.queue.capacity_pos]

include hkept

lemma report_of_empty (h : waiting ++ c.offers r timestamp = []) :
    (c.report r timestamp).cycle.sender = c.sender ∧ (c.report r timestamp).accepted = [] ∧
      (c.report r timestamp).report.flush = some .empty := by
  obtain ⟨hsender, haccepted, hreport⟩ := report_of_kept hkept
  have hoffers : c.offers r timestamp = [] := (List.append_eq_nil_iff.1 h).2
  have hflush := Sender.flush_of_empty ((items_offers_eq_nil_iff hitems).2 h)
  rw [hsender, haccepted, hreport, hflush, hoffers]
  exact ⟨rfl, rfl, rfl⟩

include hframing

lemma sends (h : waiting ++ c.offers r timestamp ≠ []) :
    c.Sends ((waiting ++ c.offers r timestamp).rtake c.sender.queue.capacity)
      (c.report r timestamp) := by
  obtain ⟨hsender, haccepted, hreport⟩ := report_of_kept hkept
  have htransport : (c.sender.offerAll (c.offers r timestamp)).transport = c.sender.transport :=
    (c.sender.fixed_call (.offerAll _)).2
  have hoffer : Sender.Call.offerAll (c.offers r timestamp) ≠ .flush := nofun
  have houtlet : (c.sender.offerAll (c.offers r timestamp)).outlet = c.sender.outlet :=
    (c.sender.figures_call hoffer).2.2
  have hpending := mt (items_offers_eq_nil_iff hitems).1 h
  obtain ⟨hnext, hok, herror⟩ := Sender.flush_of_batch (htransport ▸ hframing) hpending
  rw [htransport, houtlet, items_offers hitems] at hnext hok herror
  refine ⟨?_, ?_, ?_⟩
  · rw [hsender]
    exact hnext
  · intro hresult
    obtain ⟨hpayload, hempty, houtcome⟩ := hok hresult
    rw [hsender, haccepted, hreport]
    exact ⟨hpayload, hempty, congrArg some houtcome⟩
  · intro e hresult
    obtain ⟨hpayload, hstays, houtcome⟩ := herror e hresult
    rw [hsender, haccepted, hreport]
    exact ⟨hpayload, hstays, congrArg some houtcome⟩

lemma completes : c.Completes r timestamp waiting (c.report r timestamp) := by
  obtain ⟨_, _, hreport⟩ := report_of_kept hkept
  have hcounted := Walk.counted_visitAll (w := Walk.start r c.tracking) rfl hkept
  have hrecords : c.offers r timestamp = (c.walk r timestamp).records := if_neg (by simp [hkept])
  have hnone (h : waiting ++ c.offers r timestamp = []) := report_of_empty hitems hkept h
  refine ⟨visited_of_kept hkept, ?_, ?_, offers_of_kept hkept, rfl, ⟨?_, fun h => (hnone h).2.2⟩,
    fun h => ⟨(hnone h).1, (hnone h).2.1⟩, sends hframing hitems hkept⟩
  · rw [hreport, report_gather, hrecords]
    exact ((Nat.zero_add _).symm.trans hcounted.symm)
  · rw [hreport, report_gather]
  · intro hflush
    by_contra h
    rcases (sends hframing hitems hkept h).cases with ⟨_, _, hsent⟩ | ⟨e, _, _, hretained⟩
    · rw [hflush] at hsent
      cases hsent
    · rw [hflush] at hretained
      cases hretained

omit hkept

/-- One report, by what earlier ones have left waiting. -/
theorem reports : c.Reports r timestamp waiting (c.report r timestamp) := by
  have habort := c.aborted_report r timestamp
  have hgathered : (c.report r timestamp).registry = (c.gather r timestamp).registry ∧
      { (c.report r timestamp).report with flush := none } = (c.gather r timestamp).report := by
    unfold report send
    dsimp only
    split <;> exact ⟨rfl, rfl⟩
  obtain ⟨hregistry, hreport⟩ := hgathered
  rw [report_gather, CycleReport.mk.injEq] at hreport
  obtain ⟨hstamp, hinstruments, _, hskipped, hfailed, _, _⟩ := hreport
  refine ⟨hstamp, fun h _ => timestamp_walk h, ⟨hregistry, hskipped, hfailed, habort⟩,
    hinstruments, fun _ => Registry.mem_selection, Registry.nodup_selection,
    r.precedes_selection c.filter, c.walk_eq_foldl r timestamp, ?_, ?_⟩
  · intro hkept
    exact completes hframing hitems (habort.symm.trans hkept)
  · intro haborted
    exact givesUp (habort.symm.trans haborted)

end Kept

/-- A cycle that was made with these settings. -/
structure Starts (c : Cycle σ) (settings : Settings) (adapters : List Adapter)
    (transport : Transport σ) : Prop where
  context : c.context = settings.context
  policy : c.policy = settings.failurePolicy
  filter : c.filter = settings.filter
  idle : c.tracking.idle = .empty
  adapters : c.tracking.adapters = adapters
  transport : c.sender.transport = transport
  capacity : c.sender.queue.capacity = settings.queueCapacity
  items : c.sender.queue.items = []

lemma starts_of_new {settings : Settings} {adapters : List Adapter} {transport : Transport σ}
    {outlet : σ} (hnew : Cycle.new settings adapters transport outlet = .ok c) :
    c.Starts settings adapters transport := by
  rw [Cycle.new, Sender.new, Queue.new] at hnew
  by_cases h : 0 < settings.queueCapacity ∧ settings.queueCapacity ≤ Queue.maxCapacity
  · rw [dif_pos h] at hnew
    cases hnew
    exact ⟨rfl, rfl, rfl, rfl, rfl, rfl, rfl, rfl⟩
  · rw [dif_neg h] at hnew
    cases hnew

section Alike

/-- What no event of a run changes. -/
structure Alike (c d : Cycle σ) : Prop where
  context : c.context = d.context
  policy : c.policy = d.policy
  filter : c.filter = d.filter
  customs : Adapter.customs c.tracking.adapters = Adapter.customs d.tracking.adapters
  transport : c.sender.transport = d.sender.transport
  capacity : c.sender.queue.capacity = d.sender.queue.capacity

lemma Alike.refl (c : Cycle σ) : c.Alike c := ⟨rfl, rfl, rfl, rfl, rfl, rfl⟩

lemma Alike.trans {d e : Cycle σ} (h : c.Alike d) (h' : d.Alike e) : c.Alike e :=
  ⟨h.context.trans h'.context, h.policy.trans h'.policy, h.filter.trans h'.filter,
    h.customs.trans h'.customs, h.transport.trans h'.transport, h.capacity.trans h'.capacity⟩

lemma alike_gather (c : Cycle σ) (r : Registry) (timestamp : Int64) :
    (c.gather r timestamp).cycle.Alike c := by
  obtain ⟨hcapacity, htransport⟩ := c.sender.fixed_call (.offerAll (c.offers r timestamp))
  exact ⟨rfl, rfl, rfl, c.customs_gather r timestamp, htransport, hcapacity⟩

lemma alike_report (c : Cycle σ) (r : Registry) (timestamp : Int64) :
    (c.report r timestamp).cycle.Alike c := by
  obtain ⟨hcapacity, htransport⟩ := (c.gather r timestamp).cycle.sender.fixed_call .flush
  refine .trans ?_ (c.alike_gather r timestamp)
  unfold report send
  dsimp only
  split
  · exact .refl _
  · exact ⟨rfl, rfl, rfl, rfl, htransport, hcapacity⟩

end Alike

end Cycle

namespace CycleRun

variable {σ : Type}

lemma alike_step (m : CycleRun σ) (event : CycleEvent) : (m.step event).cycle.Alike m.cycle := by
  cases event with
  | change f => exact .refl _
  | report timestamp => exact m.cycle.alike_report m.registry timestamp
  | close => exact ⟨rfl, rfl, rfl, rfl, rfl, rfl⟩

lemma alike_run (m : CycleRun σ) (events : List CycleEvent) :
    (m.run events).cycle.Alike m.cycle := by
  induction events generalizing m with
  | nil => exact .refl _
  | cons event events ih => exact (ih (m.step event)).trans (m.alike_step event)

/-- What reports have offered since a payload was last accepted or the queue was given up, after one
more event. -/
def await (m : CycleRun σ) (waiting : List Record) : CycleEvent → List Record
  | .change _ => waiting
  | .report timestamp =>
    match (m.cycle.report m.registry timestamp).accepted with
    | [] => waiting ++ m.cycle.offers m.registry timestamp
    | _ :: _ => []
  | .close => []

/-- What reports have offered in a run since a payload was last accepted or the queue was given
up. -/
def backlog (m : CycleRun σ) (waiting : List Record) : List CycleEvent → List Record
  | [] => waiting
  | event :: events => (m.step event).backlog (m.await waiting event) events

variable {m : CycleRun σ} {c : Cycle σ} {waiting : List Record}

/-- The queue shows the end of what is waiting. -/
structure Awaits (m : CycleRun σ) (waiting : List Record) : Prop where
  framing : m.cycle.sender.transport.framing = .batch
  items : m.cycle.sender.queue.items = waiting.rtake m.cycle.sender.queue.capacity

lemma Awaits.step (h : m.Awaits waiting) (event : CycleEvent) :
    (m.step event).Awaits (m.await waiting event) := by
  have halike := m.alike_step event
  refine ⟨by rw [halike.transport, h.framing], ?_⟩
  rw [halike.capacity]
  cases event with
  | change f => exact h.items
  | close => exact (List.rtake_nil _).symm
  | report timestamp =>
    have hreports : m.cycle.Reports m.registry timestamp waiting
        (m.cycle.report m.registry timestamp) := Cycle.reports h.framing h.items
    cases habort : (m.cycle.report m.registry timestamp).report.aborted with
    | true =>
      -- nothing was offered and nothing accepted, so what is waiting stays
      have hgivesUp := hreports.aborted habort
      have hoffers : m.cycle.offers m.registry timestamp = [] :=
        Cycle.offers_of_aborted ((m.cycle.aborted_report m.registry timestamp).symm.trans habort)
      rw [await, hgivesUp.accepted, hoffers, List.append_nil]
      exact (congrArg (·.queue.items) hgivesUp.sender).trans h.items
    | false =>
      have hcompletes := hreports.kept habort
      by_cases hnone : waiting ++ m.cycle.offers m.registry timestamp = []
      · obtain ⟨hsender, haccepted⟩ := hcompletes.empty hnone
        have hitems : m.cycle.sender.queue.items = [] := by
          rw [h.items, (List.append_eq_nil_iff.1 hnone).1, List.rtake_nil]
        rw [await, haccepted, hnone, List.rtake_nil]
        exact (congrArg (·.queue.items) hsender).trans hitems
      · rcases (hcompletes.sends hnone).cases with
          ⟨haccepted, hitems, _⟩ | ⟨_, haccepted, hitems, _⟩
        · rw [await, haccepted, List.rtake_nil]
          exact hitems
        · rw [await, haccepted]
          exact hitems

lemma Awaits.run (h : m.Awaits waiting) (events : List CycleEvent) :
    (m.run events).Awaits (m.backlog waiting events) := by
  induction events generalizing m waiting with
  | nil => exact h
  | cons event events ih => exact ih (h.step event)

/-- What each report of a run does. -/
theorem reports_run {settings : Settings} {adapters : List Adapter} {transport : Transport σ}
    {outlet : σ} (hnew : Cycle.new settings adapters transport outlet = .ok c)
    (hframing : transport.framing = .batch) (registry : Registry) (events : List CycleEvent)
    (timestamp : Int64) :
    let m := (start c registry).run events
    c.Starts settings adapters transport ∧ m.cycle.Alike c ∧
    m.cycle.Reports m.registry timestamp ((start c registry).backlog [] events)
      (m.cycle.report m.registry timestamp) := by
  intro m
  have halike : m.cycle.Alike c := (start c registry).alike_run events
  have hstart := Cycle.starts_of_new hnew
  have hawaits : (start c registry).Awaits [] := by
    refine ⟨by rw [← hframing]; exact congrArg _ hstart.transport, ?_⟩
    rw [List.rtake_nil]
    exact hstart.items
  have hrun := hawaits.run events
  exact ⟨hstart, halike, Cycle.reports hrun.framing hrun.items⟩

/-- Has room for three records, and its transport refuses the first payload. -/
def narrow : Cycle ScriptOutlet :=
  (Cycle.new { Settings.default with queueCapacity := 3 } []
    ⟨.batch, .seconds, ⟨0⟩, ScriptOutlet.send⟩ ⟨[.error (.unavailable "down")]⟩).toOption.get rfl

def pair : Registry :=
  ((Registry.new (.starting 0)).place "a" (.counter ⟨1⟩)).place "b" (.counter ⟨2⟩)

/-- The second payload holds the last three of four records. -/
theorem reports_run_refused :
    let m := (start narrow pair).run [.report 1000]
    let waiting := (start narrow pair).backlog [] [.report 1000]
    Cycle.new { Settings.default with queueCapacity := 3 } []
        ⟨.batch, .seconds, ⟨0⟩, ScriptOutlet.send⟩ ⟨[.error (.unavailable "down")]⟩ = .ok narrow ∧
    narrow.sender.transport.framing = .batch ∧
    (waiting ++ m.cycle.offers m.registry 2000).length = 4 ∧
    (m.cycle.report m.registry 2000).accepted =
      ["b count=2i 1\na count=1i 2\nb count=2i 2"] := by
  intro m waiting
  have hnew : Cycle.new { Settings.default with queueCapacity := 3 } []
      ⟨.batch, .seconds, ⟨0⟩, ScriptOutlet.send⟩ ⟨[.error (.unavailable "down")]⟩ = .ok narrow := rfl
  have hfour : (waiting ++ m.cycle.offers m.registry 2000).length = 4 := rfl
  have hpending : waiting ++ m.cycle.offers m.registry 2000 ≠ [] := by
    intro hnil
    rw [hnil] at hfour
    cases hfour
  obtain ⟨_, _, hreports⟩ := reports_run hnew rfl pair [.report 1000] 2000
  obtain ⟨haccepted, _⟩ := ((hreports.kept rfl).sends hpending).accepted rfl
  exact ⟨hnew, rfl, hfour, haccepted.trans (by decide +kernel)⟩

end CycleRun

end Telemetry
