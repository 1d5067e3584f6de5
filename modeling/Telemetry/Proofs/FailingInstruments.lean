import Telemetry.Proofs.CycleOffers
import Telemetry.Transport.Script

/-!
# Failing instruments that are left out

A cycle that leaves out failing instruments treats all others as if these had never been registered.
This rests on a transform being private to its name, so that transforms of two names can change
places.
-/

namespace Telemetry

lemma Adapter.eq_of_agree {a b : Adapter} (h : ∀ name, AgreeAt name a b) : a = b := by
  cases h "" with
  | custom adapt => rfl
  | relativeCounts _ =>
    congr 1
    apply Dict.ext_of_get?
    intro name
    cases h name with
    | relativeCounts hget => exact hget

lemma Adapter.eq_of_forall₂_agree {as bs : List Adapter}
    (h : ∀ name, List.Forall₂ (AgreeAt name) as bs) : as = bs := by
  induction as generalizing bs with
  | nil =>
    cases h "" with
    | nil => rfl
  | cons a as ih =>
    cases bs with
    | nil => cases h ""
    | cons b bs =>
      have hhead : a = b := eq_of_agree fun name => (List.forall₂_cons.1 (h name)).1
      have htail : as = bs := ih fun name => (List.forall₂_cons.1 (h name)).2
      rw [hhead, htail]

/-- What is remembered is remembered by name. -/
lemma Tracking.eq_of_agree {t u : Tracking} (h : ∀ name, t.AgreeAt name u) : t = u := by
  have hbaselines : t.idle.baselines = u.idle.baselines :=
    Dict.ext_of_get? fun name => (h name).idle
  have hidle : t.idle = u.idle := congrArg IdleTracker.mk hbaselines
  have hadapters : t.adapters = u.adapters :=
    Adapter.eq_of_forall₂_agree fun name => (h name).adapters
  calc t = ⟨t.idle, t.adapters⟩ := rfl
    _ = ⟨u.idle, u.adapters⟩ := by rw [hidle, hadapters]

section Transform

variable (ctx : Context) (t : Tracking) {a b : String} (now : UInt64) (timestamp : Int64)
  (i j : Instrument)

/-- A transform after one of another name. -/
lemma transform_after (h : a ≠ b) :
    let first := transform ctx t b now timestamp j
    (transform ctx first.tracking a now timestamp i).outcome =
        (transform ctx t a now timestamp i).outcome ∧
      (transform ctx first.tracking a now timestamp i).instrument =
        (transform ctx t a now timestamp i).instrument ∧
      (transform ctx first.tracking a now timestamp i).warnings =
        (transform ctx t a now timestamp i).warnings ∧
      (transform ctx first.tracking a now timestamp i).tracking.AgreeAt a
        (transform ctx t a now timestamp i).tracking :=
  transform_congr ctx now timestamp i (transform_other ctx now timestamp j h)

lemma tracking_transform_comm (h : a ≠ b) :
    (transform ctx (transform ctx t b now timestamp j).tracking a now timestamp i).tracking =
      (transform ctx (transform ctx t a now timestamp i).tracking b now timestamp j).tracking := by
  -- each of the two transforms decides about its own name, and neither about any other
  apply Tracking.eq_of_agree
  intro name
  have hab := (transform_after ctx t now timestamp i j h).2.2.2
  have hba := (transform_after ctx t now timestamp j i h.symm).2.2.2
  have hlast {c : String} (hc : name ≠ c) (k : Instrument) (u : Tracking) :
      (transform ctx u c now timestamp k).tracking.AgreeAt name u :=
    transform_other ctx now timestamp k hc
  by_cases ha : name = a
  · subst ha
    exact hab.trans (hlast h j _).symm
  · by_cases hb : name = b
    · subst hb
      exact (hlast h.symm i _).trans hba.symm
    · have hleft := (hlast ha i (transform ctx t b now timestamp j).tracking).trans (hlast hb j t)
      have hright := (hlast hb j (transform ctx t a now timestamp i).tracking).trans (hlast ha i t)
      exact hleft.trans hright.symm

end Transform

namespace Registry

/-- The registry after the instruments of these names were removed. -/
def without (r : Registry) (names : List String) : Registry :=
  names.foldl (fun r name => (r.remove name).2) r

lemma clock_without (r : Registry) (names : List String) : (r.without names).clock = r.clock := by
  induction names generalizing r with
  | nil => rfl
  | cons name names ih => exact ih (r.remove name).2

lemma get?_without (r : Registry) (names : List String) (q : String) :
    (r.without names).entries.get? q = if q ∈ names then none else r.entries.get? q := by
  induction names generalizing r with
  | nil => rfl
  | cons name names ih =>
    have hrest := ih (r.remove name).2
    rw [entries_remove, Dict.get?_erase] at hrest
    refine hrest.trans ?_
    by_cases hq : q ∈ names
    · simp [hq]
    · by_cases hname : name = q
      · simp [hname]
      · simp [hq, hname, Ne.symm hname]

lemma entries_without (r : Registry) (names : List String) :
    (r.without names).entries = r.entries.filter fun name _ => decide (name ∉ names) := by
  apply Dict.ext_of_get?
  intro q
  rw [get?_without, Dict.get?_filter r.entries fun name => decide (name ∉ names)]
  by_cases hq : q ∈ names <;> simp [hq]

lemma selection_without (r : Registry) (names : List String) (filter : MetricFilter) :
    (r.without names).selection filter =
      (r.selection filter).filter fun e => decide (e.1 ∉ names) := by
  rw [selection, selection, List.filter_flatMap]
  congr 1
  funext kind
  rw [group_eq, group_eq, entries_without, Dict.filter, List.filter_filter, List.filter_filter]
  congr 1
  funext e
  rw [Bool.and_comm]

end Registry

namespace Cycle

variable {σ : Type} {c : Cycle σ} {r : Registry} {timestamp : Int64}

/-- The instrument cannot be reported in this cycle. -/
def Fails (c : Cycle σ) (r : Registry) (timestamp : Int64) (e : String × Registration) : Prop :=
  e ∈ r.selection c.filter ∧ (c.look r.clock.tick timestamp e).outcome.isOk = false

lemma record?_of_fails {e : String × Registration} (h : c.Fails r timestamp e) :
    c.record? r.clock.tick timestamp e = none := by
  have hbad := h.2
  rw [record?, Transformed.record?]
  cases hout : (c.look r.clock.tick timestamp e).outcome with
  | error _ => rfl
  | ok _ =>
    rw [hout] at hbad
    cases hbad

lemma kept_of_skip (hpolicy : c.policy = .skipInstrument) (r : Registry) (timestamp : Int64) :
    (c.walk r timestamp).aborted = false := by
  rw [(c.walked_walk r timestamp).aborted, List.any_eq_false]
  intro e _
  simp [stops, hpolicy]

variable {names : List String}
  (hpolicy : c.policy = .skipInstrument)
  (hnames : ∀ name ∈ names, ∃ reg, c.Fails r timestamp (name, reg))

include hpolicy hnames

lemma offers_without : c.offers (r.without names) timestamp = c.offers r timestamp := by
  rw [offers_of_kept (kept_of_skip hpolicy _ _), offers_of_kept (kept_of_skip hpolicy _ _),
    Registry.clock_without, Registry.selection_without, List.filterMap_filter]
  apply List.filterMap_congr
  intro e he
  by_cases hmem : e.1 ∈ names
  · obtain ⟨reg, hreg⟩ := hnames e.1 hmem
    have hsame : (e.1, reg) = e := by
      have hget := (Registry.mem_selection.1 hreg.1).1
      rw [(Registry.mem_selection.1 he).1] at hget
      exact Prod.ext rfl (Option.some.inj hget).symm
    rw [hsame] at hreg
    rw [if_neg (by simpa using hmem)]
    exact (record?_of_fails hreg).symm
  · rw [if_pos (by simpa using hmem)]

omit hnames

/-- What is remembered of a name after the cycle depends on the instrument under the name alone. -/
lemma agree_without {name : String} (hname : name ∉ names) :
    (c.gather r timestamp).cycle.tracking.AgreeAt name
        (c.gather (r.without names) timestamp).cycle.tracking ∧
      (c.gather r timestamp).registry.entries.get? name =
        (c.gather (r.without names) timestamp).registry.entries.get? name := by
  have hall := c.settles_gather r timestamp
  have hpart := c.settles_gather (r.without names) timestamp
  have hreach := visited_of_kept (kept_of_skip hpolicy r timestamp)
  have hreach' := visited_of_kept (kept_of_skip hpolicy (r.without names) timestamp)
  have hget : (r.without names).entries.get? name = r.entries.get? name := by
    rw [Registry.get?_without, if_neg hname]
  have hmem (e : String × Registration) (he : e.1 = name) :
      e ∈ (r.without names).selection c.filter ↔ e ∈ r.selection c.filter := by
    rw [Registry.mem_selection, Registry.mem_selection, he, hget]
  rw [visited] at hreach hreach'
  by_cases hlive : ∃ e ∈ r.selection c.filter, e.1 = name
  · obtain ⟨e, he, rfl⟩ := hlive
    obtain ⟨ht, hr⟩ := hall.seen e (by rwa [hreach])
    obtain ⟨ht', hr'⟩ := hpart.seen e (by rw [hreach']; exact (hmem e rfl).2 he)
    rw [Registry.clock_without] at ht' hr'
    exact ⟨ht.trans ht'.symm, hr.trans hr'.symm⟩
  · have hgone : name ∉ (r.selection c.filter).map (·.1) := by
      rintro hlist
      obtain ⟨e, he, heq⟩ := List.mem_map.1 hlist
      exact hlive ⟨e, he, heq⟩
    have hgone' : name ∉ ((r.without names).selection c.filter).map (·.1) := by
      rintro hlist
      obtain ⟨e, he, heq⟩ := List.mem_map.1 hlist
      exact hlive ⟨e, (hmem e heq).1 he, heq⟩
    obtain ⟨hr, _, ht⟩ := hall.unseen name (by rwa [hreach])
    obtain ⟨hr', _, ht'⟩ := hpart.unseen name (by rwa [hreach'])
    exact ⟨(ht hgone).trans (ht' hgone').symm, by rw [hr, hr', hget]⟩

include hnames

/-- The flush finds the same queue whether or not the failing instruments are registered. -/
lemma report_without :
    (c.report (r.without names) timestamp).cycle.sender = (c.report r timestamp).cycle.sender ∧
      (c.report (r.without names) timestamp).accepted = (c.report r timestamp).accepted ∧
      (c.report (r.without names) timestamp).report.flush =
        (c.report r timestamp).report.flush := by
  have hsender : (c.gather (r.without names) timestamp).cycle.sender =
      (c.gather r timestamp).cycle.sender := by
    rw [sender_gather, sender_gather, offers_without hpolicy hnames]
  have hkept := kept_of_skip hpolicy r timestamp
  have hkept' := kept_of_skip hpolicy (r.without names) timestamp
  simp only [report, send, report_gather, hkept, hkept', hsender]
  exact ⟨rfl, rfl, rfl⟩

omit hpolicy hnames

/-- Leaving failing instruments out of a cycle is the same, for all other instruments, as if they
were not registered, and transforms of different names do not influence each other. -/
theorem isolated (c : Cycle σ) (r : Registry) (timestamp : Int64) (names : List String)
    (hpolicy : c.policy = .skipInstrument)
    (hnames : ∀ name ∈ names, ∃ reg, c.Fails r timestamp (name, reg)) :
    let all := c.report r timestamp
    let others := c.report (r.without names) timestamp
    (c.gather r timestamp).cycle.sender = c.sender.offerAll (c.offers r timestamp) ∧
    (c.gather (r.without names) timestamp).cycle.sender =
      c.sender.offerAll (c.offers (r.without names) timestamp) ∧
    c.offers (r.without names) timestamp = c.offers r timestamp ∧
    others.cycle.sender = all.cycle.sender ∧
    others.accepted = all.accepted ∧ others.report.flush = all.report.flush ∧
    (∀ name, name ∉ names →
      all.cycle.tracking.AgreeAt name others.cycle.tracking ∧
      all.registry.entries.get? name = others.registry.entries.get? name) ∧
    ∀ (ctx : Context) (t u : Tracking) (a b : String) (now : UInt64) (i j : Instrument),
      let first := transform ctx t a now timestamp i
      let second := transform ctx t b now timestamp j
      (t.AgreeAt a u →
        (transform ctx u a now timestamp i).outcome = first.outcome ∧
        (transform ctx u a now timestamp i).instrument = first.instrument ∧
        (transform ctx u a now timestamp i).tracking.AgreeAt a first.tracking) ∧
      (a ≠ b →
        first.tracking.AgreeAt b t ∧
        (transform ctx second.tracking a now timestamp i).outcome = first.outcome ∧
        (transform ctx first.tracking b now timestamp j).outcome = second.outcome ∧
        (transform ctx second.tracking a now timestamp i).tracking =
          (transform ctx first.tracking b now timestamp j).tracking) := by
  intro all others
  obtain ⟨hsender, haccepted, hflush⟩ := report_without hpolicy hnames
  refine ⟨rfl, rfl, offers_without hpolicy hnames, hsender, haccepted, hflush, ?_, ?_⟩
  · intro name hname
    obtain ⟨_, hregistry, _, hcycle⟩ := c.report_eq_gather r timestamp
    obtain ⟨_, hregistry', _, hcycle'⟩ := c.report_eq_gather (r.without names) timestamp
    rw [show all.cycle = _ from hcycle, show others.cycle = _ from hcycle',
      show all.registry = _ from hregistry, show others.registry = _ from hregistry']
    exact agree_without hpolicy hname
  · intro ctx t u a b now i j first second
    constructor
    · intro h
      obtain ⟨houtcome, hinstrument, _, htracking⟩ := transform_congr ctx now timestamp i h.symm
      exact ⟨houtcome, hinstrument, htracking⟩
    · intro hab
      exact ⟨transform_other ctx now timestamp i hab.symm,
        (transform_after ctx t now timestamp i j hab).1,
        (transform_after ctx t now timestamp j i hab.symm).1,
        tracking_transform_comm ctx t now timestamp i j hab⟩

/-- Leaves out what fails, skips idle instruments and adds relative counts. -/
def lenient : Cycle ScriptOutlet :=
  (Cycle.new { Settings.default with
      failurePolicy := .skipInstrument, skipIdle := true, scheme := .keyValue }
    [.relative] ⟨.batch, .milliseconds, ⟨0⟩, ScriptOutlet.send⟩ ⟨[]⟩).toOption.get rfl

/-- A gauge that cannot be read, and a counter without a name for its record, beside a counter. -/
def troubled : Registry :=
  (((Registry.new (.starting 0)).place "a" (.counter ⟨5⟩)).place "broken"
    (.gauge ⟨.error ⟨"down"⟩, []⟩)).place "x.y." (.counter ⟨1⟩)

/-- The counter that works is offered as if it were alone. -/
theorem isolated_troubled :
    lenient.policy = .skipInstrument ∧
    (∀ name ∈ ["broken", "x.y."], ∃ reg, lenient.Fails troubled 0 (name, reg)) ∧
    (lenient.report troubled 0).report.failed = 2 ∧
    (lenient.offers troubled 0).map (·.name) = ["a"] ∧
    lenient.offers (troubled.without ["broken", "x.y."]) 0 = lenient.offers troubled 0 := by
  have hfails : ∀ name ∈ ["broken", "x.y."], ∃ reg, lenient.Fails troubled 0 (name, reg) := by
    have hselection : troubled.selection lenient.filter =
        [("broken", ⟨1, .gauge ⟨.error ⟨"down"⟩, []⟩⟩), ("a", ⟨0, .counter ⟨5⟩⟩),
          ("x.y.", ⟨2, .counter ⟨1⟩⟩)] := rfl
    intro name hname
    simp only [List.mem_cons, List.not_mem_nil, or_false] at hname
    rcases hname with rfl | rfl
    · exact ⟨_, by rw [hselection]; exact List.mem_cons_self, rfl⟩
    · exact ⟨_, by rw [hselection]; exact List.mem_of_getLast? rfl, rfl⟩
  have hisolated := isolated lenient troubled 0 ["broken", "x.y."] rfl hfails
  exact ⟨rfl, hfails, rfl, rfl, hisolated.2.2.1⟩

end Cycle

end Telemetry
