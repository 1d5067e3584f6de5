import Telemetry.Options.Check
import Telemetry.Options.Standard
import Telemetry.Proofs.CycleReports
import Telemetry.Proofs.SchemeText
import Telemetry.Transport.Script

/-!
# What checked options can start

Options that pass their check give settings without a fault, and what these ask for is accepted by
the cycle as well, but for one amount: the check has no upper bound for the capacity of the queue.
-/

namespace Telemetry

namespace Dict

lemma empty_merge {α : Type} (d : Dict α) : (empty : Dict α).merge d = d := d.ofList_entries

end Dict

namespace Settings

lemma tagFault_eq_none_iff {es : List (String × String)} :
    tagFault es = none ↔ ∀ e ∈ es, Text.blank e.1 = false ∧ Text.blank e.2 = false := by
  induction es with
  | nil => simp [tagFault]
  | cons e es ih =>
    obtain ⟨key, value⟩ := e
    rw [tagFault, List.forall_mem_cons, ← ih]
    cases Text.blank key <;> cases Text.blank value <;> simp

lemma fault_eq_none_iff {s : Settings} : s.fault = none ↔ s.period.nanos ≠ 0 ∧
    s.queueCapacity ≠ 0 ∧ tagFault s.tags.entries = none ∧ schemeFault s.scheme = none := by
  unfold fault
  by_cases hperiod : s.period.nanos = 0
  · simp [hperiod]
  · by_cases hcapacity : s.queueCapacity = 0 <;> simp [hperiod, hcapacity]

lemma build_eq_ok_iff {s t : Settings} : s.build = .ok t ↔ s.fault = none ∧ t = s := by
  unfold build
  cases s.fault <;> simp [eq_comm]

end Settings

namespace NameScheme

/-- The names of categories that were read are not blank. -/
lemma schemeFault_of_canonical {scheme : NameScheme} (h : scheme.Canonical) :
    Settings.schemeFault scheme = none := by
  cases scheme with
  | identity => rfl
  | keyValue => rfl
  | categories names =>
    have hnames : names.any Text.blank = false := by
      rw [List.any_eq_false]
      intro name hname
      obtain ⟨hne, htrimmed, _⟩ := h.2 name hname
      rw [Bool.not_eq_true, Text.blank_eq_false_iff, Text.trim, Text.trimmed_iff.1 htrimmed,
        String.ofList_toList]
      exact hne
    rw [Settings.schemeFault, if_neg (by simp [hnames])]

end NameScheme

namespace Options

lemma tagOf?_eq_some {tag : String} {e : String × String} (h : tagOf? tag = some e) :
    Text.blank e.1 = false ∧ Text.blank e.2 = false := by
  obtain ⟨hcut, hne⟩ := Option.filter_eq_some_iff.1 h
  obtain ⟨⟨key, value⟩, _, rfl⟩ := Option.map_eq_some_iff.1 hcut
  simpa [Text.blank_eq_false_iff] using hne

def readTag (tag : String) : Except OptionsError (String × String) :=
  match tagOf? tag with
  | some pair => .ok pair
  | none => .error (.config s!"Tag '{tag}' must be key=value")

lemma readTag_eq_ok_iff {tag : String} {pair : String × String} :
    readTag tag = .ok pair ↔ tagOf? tag = some pair := by
  unfold readTag
  cases tagOf? tag <;> simp

lemma mapM_readTag_eq_ok_iff {tags : List String} {pairs : List (String × String)} :
    tags.mapM readTag = .ok pairs ↔ tags.map tagOf? = pairs.map some := by
  induction tags generalizing pairs with
  | nil => simp [pure, Except.pure]
  | cons tag tags ih =>
    rw [List.mapM_cons, List.map_cons]
    cases htag : tagOf? tag with
    | none => cases pairs <;> simp [readTag, htag, bind, Except.bind]
    | some pair =>
      have hcons : (tags.mapM readTag).map (pair :: ·) = .ok pairs ↔
          some pair :: tags.map tagOf? = pairs.map some := by
        cases pairs with
        | nil => cases tags.mapM readTag <;> simp [Except.map]
        | cons p ps =>
          rw [List.map_cons, List.cons.injEq, Option.some_inj, ← ih]
          cases tags.mapM readTag <;> simp [Except.map]
      rw [readTag_eq_ok_iff.2 htag]
      exact hcons

/-- Tags are read if every one of them is, and the last one for a key wins. -/
lemma readTags_eq_ok_iff {tags : List String} {d : Dict String} :
    readTags tags = .ok d ↔ ∃ pairs, tags.map tagOf? = pairs.map some ∧ d = .ofList pairs := by
  have hread : readTags tags = (tags.mapM readTag).map Dict.ofList := by
    rw [readTags]
    rfl
  rw [hread]
  simp only [← mapM_readTag_eq_ok_iff]
  cases tags.mapM readTag <;> simp [Except.map, eq_comm]

lemma validate_eq_ok_iff {e : Engines} {o : Options} : o.validate e = .ok () ↔
    o.serverFault e = none ∧ o.amountFault = none ∧ (∃ tags, readTags o.tags = .ok tags) ∧
      (∃ scheme, o.scheme = .ok scheme) ∧ ∃ filter, o.metricFilter e = .ok filter := by
  unfold validate
  cases hserver : o.serverFault e with
  | some e => simp [throw, throwThe, MonadExceptOf.throw]
  | none =>
    cases hamount : o.amountFault with
    | some e => simp [throw, throwThe, MonadExceptOf.throw]
    | none =>
      cases htags : readTags o.tags with
      | error e => simp [bind, Except.bind]
      | ok tags =>
        cases hscheme : o.scheme with
        | error e => simp [bind, Except.bind]
        | ok scheme =>
          cases hfilter : o.metricFilter e with
          | error e => simp [bind, Except.bind]
          | ok filter => simp [bind, Except.bind, pure, Except.pure]

lemma amountFault_eq_none_iff {o : Options} : o.amountFault = none ↔
    o.periodSeconds ≠ 0 ∧ o.queueCapacity ≠ 0 ∧ o.connectTimeoutSeconds ≠ 0 ∧
      o.requestTimeoutSeconds ≠ 0 := by
  unfold amountFault
  by_cases hperiod : o.periodSeconds = 0
  · simp [hperiod]
  · by_cases hcapacity : o.queueCapacity = 0
    · simp [hperiod, hcapacity]
    · simp [hperiod, hcapacity, not_or]

/-- The settings that the options ask for, with what was read from them. -/
def drafted (o : Options) (tags : Dict String) (scheme : NameScheme) (filter : MetricFilter) :
    Settings where
  period := .ofSeconds o.periodSeconds
  queueCapacity := o.queueCapacity
  lead := o.lead
  tags := tags
  skipIdle := o.skipIdle
  rateUnit := o.rateUnit
  durationUnit := o.durationUnit
  failurePolicy := o.failurePolicy
  scheme := scheme
  filter := filter

variable {e : Engines} {o : Options}

/-- Whatever tags are read, some text says each of them. -/
lemma exists_tagOf?_of_mem {tags : List String} {d : Dict String} (h : readTags tags = .ok d)
    {entry : String × String} (he : entry ∈ d.entries) :
    ∃ tag ∈ tags, tagOf? tag = some entry := by
  obtain ⟨pairs, hpairs, rfl⟩ := readTags_eq_ok_iff.1 h
  have hmem : some entry ∈ tags.map tagOf? := by
    rw [hpairs]
    exact List.mem_map_of_mem (Dict.entries_of_ofList he)
  exact List.mem_map.1 hmem

/-- Tags that were read have no fault. -/
lemma tagFault_of_readTags {tags : List String} {d : Dict String} (h : readTags tags = .ok d) :
    Settings.tagFault d.entries = none := by
  rw [Settings.tagFault_eq_none_iff]
  intro entry he
  obtain ⟨tag, _, hread⟩ := exists_tagOf?_of_mem h he
  exact tagOf?_eq_some hread

lemma scheme_eq_ok_iff {scheme : NameScheme} :
    o.scheme = .ok scheme ↔ NameScheme.parse o.nameScheme = .ok scheme := by
  unfold Options.scheme
  cases NameScheme.parse o.nameScheme <;> simp

/-- A scheme that was read has no fault. -/
lemma schemeFault_of_scheme {scheme : NameScheme} (h : o.scheme = .ok scheme) :
    Settings.schemeFault scheme = none :=
  NameScheme.schemeFault_of_canonical (NameScheme.canonical_of_parse (scheme_eq_ok_iff.1 h))

/-- What can be read from options has no fault as part of settings. -/
lemma fault_drafted_iff {tags : Dict String} {scheme : NameScheme} (filter : MetricFilter)
    (htags : readTags o.tags = .ok tags) (hscheme : o.scheme = .ok scheme) :
    (o.drafted tags scheme filter).fault = none ↔ o.periodSeconds ≠ 0 ∧ o.queueCapacity ≠ 0 := by
  have hnanos : (Duration.ofSeconds o.periodSeconds).nanos ≠ 0 ↔ o.periodSeconds ≠ 0 := by
    rw [Duration.ofSeconds, Nat.mul_ne_zero_iff]
    exact and_iff_left (by decide)
  rw [Settings.fault_eq_none_iff, ← hnanos]
  simp [drafted, tagFault_of_readTags htags, schemeFault_of_scheme hscheme]

lemma ok_bind {ε α β : Type} (a : α) (f : α → Except ε β) : (Except.ok a >>= f) = f a := rfl

lemma settings_eq_ok_iff (htag : o.tagHost = false) {hostname : String} {s : Settings} :
    o.settings e hostname = .ok s ↔ ∃ scheme filter tags, o.scheme = .ok scheme ∧
      o.metricFilter e = .ok filter ∧ readTags o.tags = .ok tags ∧
      (o.drafted tags scheme filter).build = .ok s := by
  rw [settings]
  cases hscheme : o.scheme with
  | error e => simp [bind, Except.bind]
  | ok scheme =>
    cases hfilter : o.metricFilter e with
    | error e => simp [bind, Except.bind]
    | ok filter =>
      cases htags : readTags o.tags with
      | error e => simp [bind, Except.bind]
      | ok tags =>
        -- step by step: to unfold the binds makes the kernel count out the period
        rw [htag, ok_bind, ok_bind, ok_bind, if_neg (by decide)]
        dsimp only
        rw [Dict.empty_merge, ← drafted]
        constructor
        · intro h
          refine ⟨scheme, filter, tags, rfl, rfl, rfl, ?_⟩
          cases hbuild : (o.drafted tags scheme filter).build with
          | error e =>
            rw [hbuild] at h
            cases h
          | ok _ =>
            rw [hbuild] at h
            cases h
            rfl
        · rintro ⟨_, _, _, hs, hf, ht, hbuild⟩
          cases hs
          cases hf
          cases ht
          rw [hbuild]
          rfl

lemma settings_of_read (htag : o.tagHost = false) (hperiod : o.periodSeconds ≠ 0)
    (hcapacity : o.queueCapacity ≠ 0) {tags : Dict String} {scheme : NameScheme}
    {filter : MetricFilter} (htags : readTags o.tags = .ok tags) (hscheme : o.scheme = .ok scheme)
    (hfilter : o.metricFilter e = .ok filter) (hostname : String) :
    o.settings e hostname = .ok (o.drafted tags scheme filter) := by
  have hfault := (fault_drafted_iff filter htags hscheme).2 ⟨hperiod, hcapacity⟩
  exact (settings_eq_ok_iff htag).2 ⟨scheme, filter, tags, hscheme, hfilter, htags,
    Settings.build_eq_ok_iff.2 ⟨hfault, rfl⟩⟩

/-- Options that pass their check give settings. -/
lemma settings_of_valid (htag : o.tagHost = false) (hvalid : o.validate e = .ok ())
    (hostname : String) :
    ∃ tags scheme filter, o.settings e hostname = .ok (o.drafted tags scheme filter) := by
  obtain ⟨_, hamount, ⟨tags, htags⟩, ⟨scheme, hscheme⟩, filter, hfilter⟩ :=
    validate_eq_ok_iff.1 hvalid
  obtain ⟨hperiod, hcapacity, _⟩ := amountFault_eq_none_iff.1 hamount
  exact ⟨tags, scheme, filter,
    settings_of_read htag hperiod hcapacity htags hscheme hfilter hostname⟩

end Options

namespace Cycle

variable {σ : Type} (settings : Settings) (adapters : List Adapter) (transport : Transport σ)
  (outlet : σ)

/-- A cycle asks nothing of its settings but a capacity that a queue can have. -/
lemma new_of_le (hpos : 0 < settings.queueCapacity)
    (hle : settings.queueCapacity ≤ Queue.maxCapacity) :
    ∃ c, new settings adapters transport outlet = .ok c := by
  rw [new, Sender.new, Queue.new, dif_pos ⟨hpos, hle⟩]
  exact ⟨_, rfl⟩

lemma new_of_lt (hlt : Queue.maxCapacity < settings.queueCapacity) :
    new settings adapters transport outlet =
      .error (.buffer (CapacityError.mk settings.queueCapacity).message) := by
  rw [new, Sender.new, Queue.new, dif_neg (by omega)]
  rfl

end Cycle

/-- Whether a cycle can be made as valid options ask. Their check lets through any capacity, whatever
URLs and patterns it takes. -/
theorem valid_starts_iff (e : Engines) {o : Options} (htag : o.tagHost = false)
    (hvalid : o.validate e = .ok ()) (hostname : String) :
    ∃ settings, o.settings e hostname = .ok settings ∧ settings.queueCapacity = o.queueCapacity ∧
      ∀ {σ : Type} (adapters : List Adapter) (transport : Transport σ) (outlet : σ),
        ((∃ c, Cycle.new settings adapters transport outlet = .ok c) ↔
          o.queueCapacity ≤ Queue.maxCapacity) ∧
        ∀ why, Cycle.new settings adapters transport outlet = .error why ↔
          Queue.maxCapacity < o.queueCapacity ∧
            why = .buffer (CapacityError.mk o.queueCapacity).message := by
  obtain ⟨tags, scheme, filter, hsettings⟩ := Options.settings_of_valid htag hvalid hostname
  obtain ⟨_, hamount, _⟩ := Options.validate_eq_ok_iff.1 hvalid
  have hpos : 0 < o.queueCapacity :=
    Nat.pos_of_ne_zero (Options.amountFault_eq_none_iff.1 hamount).2.1
  refine ⟨_, hsettings, rfl, fun adapters transport outlet => ?_⟩
  have hnew := Cycle.new_of_le (o.drafted tags scheme filter) adapters transport outlet hpos
  have hrefused := Cycle.new_of_lt (o.drafted tags scheme filter) adapters transport outlet
  rcases Nat.lt_or_ge Queue.maxCapacity o.queueCapacity with hlt | hle
  · rw [hrefused hlt]
    simp [hlt, Nat.not_le.2 hlt, Options.drafted, eq_comm]
  · obtain ⟨c, hc⟩ := hnew hle
    rw [hc]
    simp [hle, Nat.not_lt.2 hle]

/-- One item more than a queue can hold passes the check. -/
theorem valid_starts_iff_overfull :
    let o := { Options.default with queueCapacity := 100000001 }
    o.tagHost = false ∧ o.validate .standard = .ok () ∧
      ∃ settings, o.settings .standard "host" = .ok settings ∧
        Cycle.new settings [] ⟨.batch, .seconds, ⟨0⟩, ScriptOutlet.send⟩ ⟨[]⟩ =
          .error (.buffer "Invalid buffer capacity: 100000001") := by
  intro o
  have hvalid : o.validate .standard = .ok () := by decide +kernel
  refine ⟨rfl, hvalid, ?_⟩
  obtain ⟨settings, hsettings, _, hnew⟩ := valid_starts_iff .standard rfl hvalid "host"
  refine ⟨settings, hsettings, ?_⟩
  rw [(hnew [] _ _).2]
  exact ⟨by decide, by decide +kernel⟩

end Telemetry
