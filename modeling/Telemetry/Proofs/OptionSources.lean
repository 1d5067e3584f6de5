import Mathlib.Tactic.Common
import Telemetry.Options.Load
import Telemetry.Options.Standard

/-!
# The sources of options

An option comes from the command line, else from the environment, else from a file, and else it has
its default. Each option is settled by itself, and what a later source says about it is not looked
at.
-/

namespace Telemetry

namespace Given

variable {texts : OptionName → Option String} {g next : Given} {o q : OptionName} {s : String}

/-- What a text sets an option to, if there is one that can be read. -/
def textValue? (texts : OptionName → Option String) (o : OptionName) : Option o.Value :=
  (texts o).bind fun s => (o.read s).toOption

lemma put_eq_ok_iff :
    g.put o s = .ok next ↔ ∃ v, o.read s = .ok v ∧ next = g.set o (o.joined (g.get? o) v) := by
  unfold put
  cases hread : o.read s with
  | error e =>
    constructor
    · intro h
      cases h
    · rintro ⟨v, hv, _⟩
      cases hv
  | ok v =>
    constructor
    · intro h
      cases h
      exact ⟨v, rfl, rfl⟩
    · rintro ⟨w, hw, rfl⟩
      cases hw
      rfl

lemma joined_none (v : o.Value) : o.joined none v = v := by
  cases o <;> rfl

/-- An option that is not given takes the value of its text, and the others stay. -/
lemma get?_put (h : g.put o s = .ok next) (hnone : g.get? o = none) :
    next.get? o = (o.read s).toOption ∧ ∀ q, q ≠ o → next.get? q = g.get? q := by
  obtain ⟨v, hv, rfl⟩ := put_eq_ok_iff.1 h
  rw [hnone, joined_none, hv]
  exact ⟨get?_set_self g o v, fun q hq => get?_set_of_ne g hq v⟩

lemma get?_addText (h : g.addText texts o = .ok next) (q : OptionName) :
    next.get? q = if q = o then (g.get? q).or (textValue? texts q) else g.get? q := by
  unfold addText at h
  cases htext : texts o with
  | none =>
    rw [htext] at h
    cases h
    split
    · rename_i hq
      rw [hq, textValue?, htext]
      exact (Option.or_none).symm
    · rfl
  | some s =>
    rw [htext] at h
    dsimp only at h
    cases hget : g.get? o with
    | some v =>
      rw [has, hget] at h
      cases h
      split
      · rename_i hq
        cases hq
        rw [hget, Option.some_or]
      · rfl
    | none =>
      rw [has, hget] at h
      obtain ⟨hself, hother⟩ := get?_put h hget
      split
      · rename_i hq
        cases hq
        rw [hself, hget, Option.none_or, textValue?, htext]
        rfl
      · rename_i hq
        exact hother q hq

lemma get?_foldlM_addText {os : List OptionName} (h : os.foldlM (addText texts) g = .ok next)
    (q : OptionName) :
    next.get? q = if q ∈ os then (g.get? q).or (textValue? texts q) else g.get? q := by
  induction os generalizing g with
  | nil =>
    cases h
    rfl
  | cons o os ih =>
    rw [List.foldlM_cons] at h
    cases hstep : g.addText texts o with
    | error e =>
      rw [hstep] at h
      cases h
    | ok middle =>
      rw [hstep] at h
      rw [ih h, get?_addText hstep]
      by_cases hq : q = o
      · have hor : ((g.get? q).or (textValue? texts q)).or (textValue? texts q) =
            (g.get? q).or (textValue? texts q) := by
          rw [Option.or_assoc, Option.or_self]
        simp only [hq, List.mem_cons_self, if_true] at hor ⊢
        split
        · exact hor
        · rfl
      · simp only [hq, List.mem_cons, false_or, if_false]

lemma mem_all (o : OptionName) : o ∈ OptionName.all := by
  cases o <;> decide

/-- Texts count for the options that are not given. -/
lemma get?_addTexts (h : g.addTexts texts = .ok next) (q : OptionName) :
    next.get? q = (g.get? q).or (textValue? texts q) := by
  rw [get?_foldlM_addText h, if_pos (mem_all q)]

lemma exists_foldlM_addText {os : List OptionName}
    (h : ∀ o s, texts o = some s → ∃ v, o.read s = .ok v) :
    ∃ next, os.foldlM (addText texts) g = .ok next := by
  induction os generalizing g with
  | nil => exact ⟨g, rfl⟩
  | cons o os ih =>
    have hstep : ∃ middle, g.addText texts o = .ok middle := by
      unfold addText
      split
      · rename_i s hs
        split
        · exact ⟨g, rfl⟩
        · obtain ⟨v, hv⟩ := h o s hs
          exact ⟨_, put_eq_ok_iff.2 ⟨v, hv, rfl⟩⟩
      · exact ⟨g, rfl⟩
    obtain ⟨middle, hmiddle⟩ := hstep
    rw [List.foldlM_cons, hmiddle]
    exact ih

/-- Texts that were added can be read. -/
lemma read_of_foldlM_addText {os : List OptionName} (h : os.foldlM (addText texts) g = .ok next)
    (hq : q ∈ os) (hnone : g.get? q = none) (hs : texts q = some s) :
    ∃ v, q.read s = .ok v := by
  induction os generalizing g with
  | nil => cases hq
  | cons o os ih =>
    rw [List.foldlM_cons] at h
    cases hstep : g.addText texts o with
    | error e =>
      rw [hstep] at h
      cases h
    | ok middle =>
      by_cases heq : q = o
      · rw [← heq, addText, hs, has, hnone] at hstep
        obtain ⟨v, hv, _⟩ := put_eq_ok_iff.1 hstep
        exact ⟨v, hv⟩
      · rw [hstep] at h
        refine ih h (List.mem_of_ne_of_mem heq hq) ?_
        rw [get?_addText hstep, if_neg heq, hnone]

lemma has_addTexts (h : g.addTexts texts = .ok next) (hnone : g.get? q = none) :
    next.has q = (texts q).isSome := by
  rw [has, get?_addTexts h, hnone, Option.none_or, textValue?]
  cases hs : texts q with
  | none => rfl
  | some s =>
    obtain ⟨v, hv⟩ := read_of_foldlM_addText h (mem_all q) hnone hs
    rw [Option.bind_some, hv]
    rfl

end Given

namespace Options

/-- What an option is set to. Some may be left out. -/
def get? (opts : Options) : (o : OptionName) → Option o.Value
  | .protocol => some opts.protocol
  | .url => some opts.url
  | .database => some opts.database
  | .username => opts.username
  | .password => opts.password
  | .udpAddress => some opts.udpAddress
  | .periodSeconds => some opts.periodSeconds
  | .queueCapacity => some opts.queueCapacity
  | .lead => opts.lead
  | .tags => some opts.tags
  | .tagHost => some opts.tagHost
  | .skipIdle => some opts.skipIdle
  | .relativeCounters => some opts.relativeCounters
  | .rateUnit => some opts.rateUnit
  | .durationUnit => some opts.durationUnit
  | .failurePolicy => some opts.failurePolicy
  | .nameScheme => some opts.nameScheme
  | .filter => opts.filter
  | .logLevel => some opts.logLevel
  | .logFormat => some opts.logFormat
  | .connectTimeoutSeconds => some opts.connectTimeoutSeconds
  | .requestTimeoutSeconds => some opts.requestTimeoutSeconds
  | .configFile => opts.configFile

lemma get?_complete (g : Given) (o : OptionName) :
    g.complete.get? o = (g.get? o).or (default.get? o) := by
  cases o <;> first | rfl | exact Option.or_some.symm

lemma get?_fill (opts file : Options) (given : OptionName → Bool) {o : OptionName}
    (ho : o ≠ .configFile) :
    (opts.fill file given).get? o = if given o then opts.get? o else file.get? o := by
  cases o <;> first | exact absurd rfl ho | rfl | exact apply_ite some _ _ _

lemma get?_unnamed (opts : Options) {o : OptionName} (ho : o ≠ .configFile) :
    { opts with configFile := none }.get? o = opts.get? o := by
  cases o <;> first | rfl | exact absurd rfl ho

lemma get?_nothing (o : OptionName) : Given.nothing.get? o = none := by
  cases o <;> rfl

end Options

/-- What an option is that nothing was said about. -/
def OptionName.empty? : (o : OptionName) → Option o.Value
  | .tags => some []
  | _ => none

/-- What an option is that is not given: its default on the command line, if there is one. -/
def OptionName.unset? (o : OptionName) : Option o.Value :=
  (Given.textValue? defaultText? o).or o.empty?

/-- The defaults of the command line are the defaults. -/
lemma OptionName.unset?_eq (o : OptionName) : o.unset? = Options.default.get? o := by
  cases o <;> rfl

/-- The parser was given `commanded` by the command line and `surrounding` by the variables of the
environment. It prefers the command line, and tells which of the two an option comes from. -/
structure Matches.Follows (m : Matches) (environment : String → Option String)
    (commanded surrounding : Given) : Prop where
  byCommand : ∀ o, m.source o = some .commandLine ↔ commanded.has o = true
  byVariable : ∀ o, m.source o = some .environment ↔
    commanded.has o = false ∧ (environment o.environment).isSome = true
  surrounds : ∀ o, commanded.has o = false →
    surrounding.has o = (environment o.environment).isSome
  value : ∀ o, m.options.get? o = (commanded.get? o).or ((surrounding.get? o).or o.unset?)

/-- The file that is named, if one is, reads and gives this much. -/
def Engines.FileGives (e : Engines) (named : Option String)
    (files : String → Except String String) (file : Given) : Prop :=
  match named with
  | none => file = .nothing
  | some path => ∃ content, files path = .ok content ∧ e.file content = .ok file

variable {e : Engines} {words : List String} {environment : String → Option String}
  {files : String → Except String String} {m : Matches} {commanded surrounding file : Given}

lemma Matches.Follows.explicit_eq (h : m.Follows environment commanded surrounding)
    (o : OptionName) : m.explicit o = (commanded.has o || surrounding.has o) := by
  cases hc : commanded.has o with
  | true => simp [explicit, (h.byCommand o).2 hc]
  | false =>
    have hsource : m.source o ≠ some .commandLine := by
      rw [ne_eq, h.byCommand, hc]
      decide
    have hvariable : m.source o = some .environment ↔ surrounding.has o = true := by
      rw [h.byVariable, h.surrounds o hc]
      simp [hc]
    rw [explicit, decide_eq_false hsource, Bool.false_or, Bool.false_or, Bool.eq_iff_iff,
      decide_eq_true_iff, hvariable]

namespace Options

/-- The options that come out of all sources. -/
lemma merge_eq (hm : e.arguments words environment = .ok m)
    (hfollows : m.Follows environment commanded surrounding)
    (hfile : e.FileGives m.options.configFile files file) :
    ∃ opts, merge e words environment files = .ok opts ∧
      opts.configFile = m.options.configFile ∧
      ∀ o, o ≠ .configFile → opts.get? o = (commanded.get? o).or
        ((surrounding.get? o).or ((file.get? o).or (default.get? o))) := by
  have hread : readArguments e words environment = .ok m := by
    rw [readArguments, hm]
    rfl
  rw [merge, hread]
  unfold Engines.FileGives at hfile
  cases hnamed : m.options.configFile with
  | none =>
    rw [hnamed] at hfile
    refine ⟨m.options, ?_, hnamed, fun o _ => ?_⟩
    · simp only [bind, Except.bind, hnamed]
      rfl
    · rw [hfollows.value, hfile, get?_nothing, Option.none_or, OptionName.unset?_eq]
  | some path =>
    rw [hnamed] at hfile
    obtain ⟨content, hcontent, hparsed⟩ := hfile
    refine ⟨m.options.fill { file.complete with configFile := none } m.explicit, ?_, hnamed,
      fun o ho => ?_⟩
    · simp only [bind, Except.bind, hnamed, readFile, hcontent, hparsed]
      rfl
    · rw [get?_fill _ _ _ ho, get?_unnamed _ ho, get?_complete, hfollows.explicit_eq,
        hfollows.value, Given.has, Given.has]
      cases commanded.get? o with
      | some v => rfl
      | none => cases surrounding.get? o <;> rfl

lemma eq_of_get? {a b : Options} (h : ∀ o, a.get? o = b.get? o) : a = b := by
  have hprotocol := Option.some.inj (h .protocol)
  have hurl := Option.some.inj (h .url)
  have hdatabase := Option.some.inj (h .database)
  have husername := h .username
  have hpassword := h .password
  have hudpAddress := Option.some.inj (h .udpAddress)
  have hperiodSeconds := Option.some.inj (h .periodSeconds)
  have hqueueCapacity := Option.some.inj (h .queueCapacity)
  have hlead := h .lead
  have htags := Option.some.inj (h .tags)
  have htagHost := Option.some.inj (h .tagHost)
  have hskipIdle := Option.some.inj (h .skipIdle)
  have hrelativeCounters := Option.some.inj (h .relativeCounters)
  have hrateUnit := Option.some.inj (h .rateUnit)
  have hdurationUnit := Option.some.inj (h .durationUnit)
  have hfailurePolicy := Option.some.inj (h .failurePolicy)
  have hnameScheme := Option.some.inj (h .nameScheme)
  have hfilter := h .filter
  have hlogLevel := Option.some.inj (h .logLevel)
  have hlogFormat := Option.some.inj (h .logFormat)
  have hconnectTimeoutSeconds := Option.some.inj (h .connectTimeoutSeconds)
  have hrequestTimeoutSeconds := Option.some.inj (h .requestTimeoutSeconds)
  have hconfigFile := h .configFile
  cases a
  cases b
  simp_all only [get?]

/-- Where each option comes from, and what becomes of the options, with any engines and a parser that
follows the two sources it reads. -/
theorem load_precedence (hm : e.arguments words environment = .ok m)
    (hfollows : m.Follows environment commanded surrounding)
    (hfile : e.FileGives m.options.configFile files file) :
    ∃ opts, merge e words environment files = .ok opts ∧
      (∀ o, o ≠ .configFile → opts.get? o = (commanded.get? o).or
        ((surrounding.get? o).or ((file.get? o).or (default.get? o)))) ∧
      opts.configFile = commanded.configFile.or surrounding.configFile ∧
      (∀ o, load e words environment files = .ok o ↔ o = opts ∧ opts.validate e = .ok ()) ∧
      (∀ why, load e words environment files = .error why ↔ opts.validate e = .error why) ∧
      ∀ files' file', e.FileGives m.options.configFile files' file' →
        (∀ o, commanded.get? o = none → surrounding.get? o = none → file'.get? o = file.get? o) →
        load e words environment files' = load e words environment files := by
  obtain ⟨opts, hopts, hnamed, hget⟩ := merge_eq hm hfollows hfile
  refine ⟨opts, hopts, hget, ?_, ?_, ?_, ?_⟩
  · have hvalue := hfollows.value .configFile
    rw [OptionName.unset?_eq] at hvalue
    rw [hnamed]
    exact hvalue.trans (by rw [← Option.or_assoc]; exact Option.or_none)
  · intro o
    simp only [load, hopts, bind, Except.bind]
    cases opts.validate e with
    | ok u => simp [pure, Except.pure, eq_comm]
    | error why => simp
  · intro why
    simp only [load, hopts, bind, Except.bind]
    cases opts.validate e with
    | ok u => simp [pure, Except.pure]
    | error why => simp
  · intro files' file' hfile' hsame
    obtain ⟨opts', hopts', hnamed', hget'⟩ := merge_eq hm hfollows hfile'
    have heq : opts' = opts := by
      apply eq_of_get?
      intro o
      by_cases ho : o = .configFile
      · rw [ho]
        exact hnamed'.trans hnamed.symm
      · rw [hget o ho, hget' o ho]
        cases hc : commanded.get? o with
        | some v => rfl
        | none =>
          cases hs : surrounding.get? o with
          | some v => rfl
          | none => rw [hsame o hc hs]
    rw [load, load, hopts, hopts', heq]

end Options

/-- The defaults of the command line can be read. -/
lemma OptionName.read_defaultText (o : OptionName) (s : String) (hs : o.defaultText? = some s) :
    ∃ v, o.read s = .ok v := by
  cases o <;> first | cases hs; exact ⟨_, rfl⟩ | cases hs

/-- The program's own parser follows the two sources, if both can be read. -/
theorem Engines.follows_standard (hcommanded : Given.ofArguments words = .ok commanded)
    (hgiven : commanded.addEnvironment environment = .ok surrounding) :
    ∃ m, Engines.standard.arguments words environment = .ok m ∧
      m.Follows environment commanded surrounding := by
  obtain ⟨all, hall⟩ : ∃ all, surrounding.addDefaults = .ok all :=
    Given.exists_foldlM_addText OptionName.read_defaultText
  have hsources (o : OptionName) := Given.get?_addTexts hgiven o
  have hvariable (o : OptionName) (hc : commanded.has o = false) :
      surrounding.has o = (environment o.environment).isSome :=
    Given.has_addTexts hgiven (Option.not_isSome_iff_eq_none.1 (by rw [← Given.has, hc]; simp))
  have hread : standard.arguments words environment = .ok (.ofSteps commanded surrounding all) := by
    simp only [standard, readArguments, hcommanded, hgiven, hall, bind, Except.bind]
    rfl
  refine ⟨_, hread, fun o => ?_, fun o => ?_, hvariable, fun o => ?_⟩
  · simp only [Matches.ofSteps]
    cases hc : commanded.has o with
    | true => simp
    | false => cases surrounding.has o <;> simp
  · simp only [Matches.ofSteps]
    cases hc : commanded.has o with
    | true => simp
    | false =>
      rw [hvariable o hc]
      cases (environment o.environment).isSome <;> simp
  · have hprefers : (commanded.get? o).or (surrounding.get? o) = surrounding.get? o := by
      rw [hsources, ← Option.or_assoc, Option.or_self]
    have hunset : (Given.textValue? OptionName.defaultText? o).or o.unset? = o.unset? := by
      rw [OptionName.unset?, ← Option.or_assoc, Option.or_self]
    rw [← Option.or_assoc, hprefers, Matches.ofSteps, Options.get?_complete, ← OptionName.unset?_eq,
      Given.get?_addTexts hall, Option.or_assoc, hunset]

/-- Each of the four sources settles an option here. The period of the file and its tags do not
count. -/
theorem Options.load_precedence_layered :
    let words := ["--period-secs", "5", "--config-file", "f"]
    let environment := fun name => if name = "INFLUX_TAGS" then some "a=1,b=2" else none
    let files : String → Except String String := fun _ =>
      .ok "period_secs = 60\nqueue_capacity = 200\ntags = [\"env=staging\"]\n"
    let commanded := { Given.nothing with periodSeconds := some 5, configFile := some "f" }
    let given := { commanded with tags := some ["a=1", "b=2"] }
    let file := { Given.nothing with
      periodSeconds := some 60, queueCapacity := some 200, tags := some ["env=staging"] }
    ∃ m, Engines.standard.arguments words environment = .ok m ∧
      m.Follows environment commanded given ∧
      Engines.standard.FileGives m.options.configFile files file ∧
      ∃ opts, merge .standard words environment files = .ok opts ∧ opts.periodSeconds = 5 ∧
        opts.tags = ["a=1", "b=2"] ∧ opts.queueCapacity = 200 ∧ opts.database = "metrics" := by
  intro words environment files commanded given file
  have hcommanded : Given.ofArguments words = .ok commanded := rfl
  have hgiven : commanded.addEnvironment environment = .ok given := rfl
  obtain ⟨m, hm, hfollows⟩ := Engines.follows_standard hcommanded hgiven
  have hnamed : m.options.configFile = some "f" := hfollows.value .configFile
  have hread : Engines.standard.file
      "period_secs = 60\nqueue_capacity = 200\ntags = [\"env=staging\"]\n" = .ok file := by
    decide +kernel
  have hfile : Engines.standard.FileGives m.options.configFile files file := by
    rw [hnamed]
    exact ⟨_, rfl, hread⟩
  obtain ⟨opts, hopts, hget, _⟩ := Options.load_precedence hm hfollows hfile
  refine ⟨m, hm, hfollows, hfile, opts, hopts, ?_, ?_, ?_, ?_⟩
  · exact Option.some.inj (hget .periodSeconds (by decide))
  · exact Option.some.inj (hget .tags (by decide))
  · exact Option.some.inj (hget .queueCapacity (by decide))
  · exact Option.some.inj (hget .database (by decide))

end Telemetry
