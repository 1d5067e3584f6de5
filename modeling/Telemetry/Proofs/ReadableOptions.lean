import Mathlib.Data.List.Forall2
import Telemetry.Proofs.CheckedOptions

/-!
# Options that settings can be read from

Options are read part by part, and settings are checked once more as a whole. Whatever can be read
passes that second check, so that settings come from options exactly if each part can be read and the
amounts are not zero. Their tags are the trimmed tags of the options, of which the last one for a key
stands.
-/

namespace Telemetry.Options

/-- The first equals sign of the tag stands between the two texts, and neither is blank. -/
structure Divides (tag before after : String) : Prop where
  text : tag = before ++ "=" ++ after
  first : '=' ∉ before.toList
  key : Text.blank before = false
  value : Text.blank after = false

/-- The pair is what the tag says, without the blanks around the two parts. -/
def Says (tag : String) (pair : String × String) : Prop :=
  ∃ before after, Divides tag before after ∧ pair = (Text.trim before, Text.trim after)

lemma tagOf?_eq_some_iff {tag : String} {pair : String × String} :
    tagOf? tag = some pair ↔ Says tag pair := by
  rw [tagOf?, Option.filter_eq_some_iff, Option.map_eq_some_iff]
  constructor
  · rintro ⟨⟨⟨before, after⟩, hcut, rfl⟩, hne⟩
    obtain ⟨htext, hfirst⟩ := Text.cutFirst_eq_some_iff.1 hcut
    have hblank : Text.blank before = false ∧ Text.blank after = false := by
      simpa [Text.blank_eq_false_iff] using hne
    exact ⟨before, after, ⟨htext, hfirst, hblank.1, hblank.2⟩, rfl⟩
  · rintro ⟨before, after, h, rfl⟩
    refine ⟨⟨(before, after), Text.cutFirst_eq_some_iff.2 ⟨h.text, h.first⟩, rfl⟩, ?_⟩
    simpa [Text.blank_eq_false_iff] using And.intro h.key h.value

/-- Nothing is left to trim of what a tag says. -/
lemma Says.trimmed {tag : String} {pair : String × String} (h : Says tag pair) :
    pair.1 ≠ "" ∧ Text.Trimmed pair.1 ∧ pair.2 ≠ "" ∧ Text.Trimmed pair.2 := by
  obtain ⟨before, after, h, rfl⟩ := h
  have htrimmed (s : String) : Text.Trimmed (Text.trim s) := by
    rw [Text.trimmed_iff, Text.trim, String.toList_ofList, Text.trimChars_trimChars]
  exact ⟨Text.blank_eq_false_iff.1 h.key, htrimmed before,
    Text.blank_eq_false_iff.1 h.value, htrimmed after⟩

lemma map_tagOf?_eq_iff {tags : List String} {pairs : List (String × String)} :
    tags.map tagOf? = pairs.map some ↔ List.Forall₂ Says tags pairs := by
  rw [← List.forall₂_eq_eq_eq, List.forall₂_map_left_iff, List.forall₂_map_right_iff]
  simp only [tagOf?_eq_some_iff]

lemma exists_readTags_iff {tags : List String} :
    (∃ d, readTags tags = .ok d) ↔ ∀ tag ∈ tags, ∃ before after, Divides tag before after := by
  have hsays (tag : String) : (∃ pair, tagOf? tag = some pair) ↔
      ∃ before after, Divides tag before after := by
    simp only [tagOf?_eq_some_iff]
    constructor
    · rintro ⟨_, before, after, h, _⟩
      exact ⟨before, after, h⟩
    · rintro ⟨before, after, h⟩
      exact ⟨_, before, after, h, rfl⟩
  simp only [← hsays, readTags_eq_ok_iff]
  constructor
  · rintro ⟨_, pairs, hpairs, _⟩ tag htag
    have hmem : tagOf? tag ∈ pairs.map some := hpairs ▸ List.mem_map_of_mem htag
    obtain ⟨pair, _, hpair⟩ := List.mem_map.1 hmem
    exact ⟨pair, hpair.symm⟩
  · intro h
    refine ⟨_, tags.filterMap tagOf?, ?_, rfl⟩
    induction tags with
    | nil => rfl
    | cons tag tags ih =>
      obtain ⟨pair, hpair⟩ := h tag List.mem_cons_self
      have hrest := ih fun t ht => h t (List.mem_cons_of_mem tag ht)
      rw [List.map_cons, hrest, hpair, List.filterMap_cons_some hpair, List.map_cons]

lemma exists_metricFilter_iff {e : Engines} {o : Options} :
    (∃ filter, o.metricFilter e = .ok filter) ↔
      ∀ source, o.filter = some source → ∃ occursIn, e.pattern source = .ok occursIn := by
  unfold metricFilter
  cases o.filter with
  | none => simp
  | some source =>
    cases hpattern : e.pattern source <;> simp [MetricFilter.ofPattern, hpattern, Except.map]

/-- Settings come from options whose parts can be read, and nothing that was read is refused. -/
theorem settings_ok_iff (e : Engines) {o : Options} (htag : o.tagHost = false)
    (hostname : String) :
    ((∃ settings, o.settings e hostname = .ok settings) ↔
      o.periodSeconds ≠ 0 ∧ o.queueCapacity ≠ 0 ∧
      (∀ tag ∈ o.tags, ∃ before after, Divides tag before after) ∧
      (∃ scheme, NameScheme.parse o.nameScheme = .ok scheme) ∧
      ∀ source, o.filter = some source → ∃ occursIn, e.pattern source = .ok occursIn) ∧
    (∀ tags scheme, readTags o.tags = .ok tags → NameScheme.parse o.nameScheme = .ok scheme →
      Settings.tagFault tags.entries = none ∧ Settings.schemeFault scheme = none) ∧
    ∀ settings, o.settings e hostname = .ok settings →
      ∃ pairs, List.Forall₂ Says o.tags pairs ∧
        (∀ key, settings.tags.get? key = Dict.last? pairs key) ∧
        ∀ key value, settings.tags.get? key = some value →
          key ≠ "" ∧ Text.Trimmed key ∧ value ≠ "" ∧ Text.Trimmed value := by
  refine ⟨?_, fun tags scheme htags hscheme => ?_, fun settings hsettings => ?_⟩
  · rw [← exists_readTags_iff, ← exists_metricFilter_iff]
    simp only [← scheme_eq_ok_iff]
    constructor
    · rintro ⟨settings, hsettings⟩
      obtain ⟨scheme, filter, tags, hscheme, hfilter, htags, hbuild⟩ :=
        (settings_eq_ok_iff htag).1 hsettings
      obtain ⟨hfault, _⟩ := Settings.build_eq_ok_iff.1 hbuild
      obtain ⟨hperiod, hcapacity⟩ := (fault_drafted_iff filter htags hscheme).1 hfault
      exact ⟨hperiod, hcapacity, ⟨tags, htags⟩, ⟨scheme, hscheme⟩, filter, hfilter⟩
    · rintro ⟨hperiod, hcapacity, ⟨tags, htags⟩, ⟨scheme, hscheme⟩, filter, hfilter⟩
      exact ⟨_, settings_of_read htag hperiod hcapacity htags hscheme hfilter hostname⟩
  · exact ⟨tagFault_of_readTags htags, schemeFault_of_scheme (scheme_eq_ok_iff.2 hscheme)⟩
  · obtain ⟨scheme, filter, tags, _, _, htags, hbuild⟩ := (settings_eq_ok_iff htag).1 hsettings
    obtain ⟨_, rfl⟩ := Settings.build_eq_ok_iff.1 hbuild
    obtain ⟨pairs, hpairs, rfl⟩ := readTags_eq_ok_iff.1 htags
    have hsays := map_tagOf?_eq_iff.1 hpairs
    refine ⟨pairs, hsays, Dict.get?_ofList pairs, fun key value hget => ?_⟩
    obtain ⟨tag, _, hread⟩ := exists_tagOf?_of_mem htags (Dict.mem_entries_iff.2 hget)
    exact (tagOf?_eq_some_iff.1 hread).trimmed

/-- Of two tags with one key the last stands, and its value may hold equals signs. -/
theorem settings_ok_iff_again :
    let o := { Options.default with
      tags := ["env=a", " env = b=c ", "zone=\u2003eu"], filter := some "\\.errors$" }
    o.tagHost = false ∧ ∃ settings, o.settings .standard "host" = .ok settings ∧
      settings.tags.get? "env" = some "b=c" ∧ settings.tags.get? "zone" = some "eu" := by
  intro o
  obtain ⟨hok, _, hread⟩ := settings_ok_iff .standard (o := o) rfl "host"
  have hfirst : Divides "env=a" "env" "a" :=
    ⟨by decide +kernel, by decide, by decide +kernel, by decide +kernel⟩
  have hsecond : Divides " env = b=c " " env " " b=c " :=
    ⟨by decide +kernel, by decide, by decide +kernel, by decide +kernel⟩
  have hthird : Divides "zone=\u2003eu" "zone" "\u2003eu" :=
    ⟨by decide +kernel, by decide, by decide +kernel, by decide +kernel⟩
  have hdivides : ∀ tag ∈ o.tags, ∃ before after, Divides tag before after := by
    intro tag htag
    have htags : tag ∈ ["env=a", " env = b=c ", "zone=\u2003eu"] := htag
    simp only [List.mem_cons, List.not_mem_nil, or_false] at htags
    rcases htags with rfl | rfl | rfl
    · exact ⟨_, _, hfirst⟩
    · exact ⟨_, _, hsecond⟩
    · exact ⟨_, _, hthird⟩
  have hpattern : ∃ occursIn, Engines.standard.pattern "\\.errors$" = .ok occursIn := by
    have hread : (Engines.standard.pattern "\\.errors$").isOk = true := by decide +kernel
    cases h : Engines.standard.pattern "\\.errors$" with
    | error why => simp [h, Except.isOk, Except.toBool] at hread
    | ok occursIn => exact ⟨occursIn, rfl⟩
  obtain ⟨settings, hsettings⟩ := hok.2 ⟨by decide, by decide, hdivides,
    ⟨.identity, by decide +kernel⟩, fun _ hsource => Option.some.inj hsource ▸ hpattern⟩
  obtain ⟨pairs, hsays, htags, _⟩ := hread settings hsettings
  have hpairs : pairs = [("env", "a"), ("env", "b=c"), ("zone", "eu")] := by
    apply List.map_injective_iff.2 fun _ _ => Option.some.inj
    rw [← map_tagOf?_eq_iff.2 hsays]
    decide +kernel
  refine ⟨rfl, settings, hsettings, ?_, ?_⟩
  · rw [htags, hpairs]
    decide
  · rw [htags, hpairs]
    decide

end Telemetry.Options
