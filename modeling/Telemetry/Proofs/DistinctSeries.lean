import Telemetry.Proofs.CycleReports
import Telemetry.Proofs.NameSegments

/-!
# Distinct metrics have distinct series

A naming that keeps names whole, or takes tags of its own for their segments, can be undone: the full
name is read back from the measurement and the tags. So different metrics never resolve to the same
series, and the records of one report all belong to different series.
-/

namespace Telemetry

namespace NameScheme

/-- The values stand before the rest of a name, each with a dot after it. -/
def prepend (values : List String) (rest : String) : String :=
  values.foldr (fun v rest => v ++ "." ++ rest) rest

lemma prepend_categoryTags (names segs : List String) :
    prepend ((categoryTags names segs).map (·.2)) (Text.join '.' (categoryRest names segs)) =
      Text.join '.' segs := by
  fun_induction categoryTags names segs with
  | case1 c cs p q ps ih =>
    rw [categoryRest, Text.join_cons_cons, ← ih]
    rfl
  | case2 names segs h =>
    have hrest : categoryRest names segs = segs := by
      rw [categoryRest]
      exact h
    rw [hrest]
    rfl

lemma keys_categoryTags (names segs : List String) :
    ∃ later, names = (categoryTags names segs).map (·.1) ++ later := by
  fun_induction categoryTags names segs with
  | case1 c cs p q ps ih =>
    obtain ⟨later, hlater⟩ := ih
    exact ⟨later, congrArg (c :: ·) hlater⟩
  | case2 names segs h => exact ⟨names, rfl⟩

/-- The full name of a metric, read back from its measurement and tags. -/
def restore (s : NameScheme) (resolved : String × Dict String) : String :=
  match s with
  | categories names => prepend (names.filterMap resolved.2.get?) resolved.1
  | _ => resolved.1

end NameScheme

namespace Naming

/-- The tags taken from a name can be told from each other and from the common ones. -/
def Separates (n : Naming) : Prop :=
  match n.scheme with
  | .identity => True
  | .categories names => names.Nodup ∧ ∀ c ∈ names, n.baseTags.contains c = false
  | .keyValue => False

variable {n : Naming}

lemma fullName_injective (n : Naming) : Function.Injective n.fullName := by
  intro a b h
  unfold fullName at h
  cases hlead : n.lead with
  | none =>
    rw [hlead] at h
    exact h
  | some lead =>
    rw [hlead] at h
    apply String.toList_inj.1
    have hchars := congrArg String.toList h
    simpa using hchars

lemma filterMap_get?_merge {base : Dict String} {names : List String} (hnodup : names.Nodup)
    (hbase : ∀ c ∈ names, base.contains c = false) (segs : List String) :
    names.filterMap (base.merge (.ofList (NameScheme.categoryTags names segs))).get? =
      (NameScheme.categoryTags names segs).map (·.2) := by
  obtain ⟨later, hnames⟩ := NameScheme.keys_categoryTags names segs
  have hkeys : (NameScheme.categoryTags names segs).map (·.1) ++ later = names := hnames.symm
  generalize NameScheme.categoryTags names segs = tags at hkeys ⊢
  rw [← hkeys] at hnodup hbase ⊢
  obtain ⟨htags, _, hapart⟩ := List.nodup_append.1 hnodup
  have hfree (c : String) (hc : c ∈ tags.map (·.1) ++ later) : base.get? c = none := by
    have hcontains := hbase c hc
    rw [Dict.contains, Option.isSome_eq_false_iff, Option.isNone_iff_eq_none] at hcontains
    exact hcontains
  have hfound (p : String × String) (hp : p ∈ tags) :
      (base.merge (.ofList tags)).get? p.1 = some p.2 := by
    have hget : (Dict.ofList tags).get? p.1 = some p.2 :=
      Dict.get?_insertAll_of_mem htags hp .empty
    rw [Dict.get?_merge, hget, Option.some_or]
  have hlater (c : String) (hc : c ∈ later) : (base.merge (.ofList tags)).get? c = none := by
    have hget : (Dict.ofList tags).get? c = none := by
      rw [Dict.get?_ofList, Dict.last?_eq_none_iff]
      exact fun hmem => hapart c hmem c hc rfl
    rw [Dict.get?_merge, hget, Option.none_or, hfree c (List.mem_append_right _ hc)]
  have hvalues : tags.filterMap (fun p => (base.merge (.ofList tags)).get? p.1) =
      tags.map (·.2) := by
    rw [← List.filterMap_eq_map]
    exact List.filterMap_congr hfound
  have hnone : later.filterMap (base.merge (.ofList tags)).get? = [] :=
    List.filterMap_eq_nil_iff.2 hlater
  rw [List.filterMap_append, List.filterMap_map, hnone, List.append_nil]
  exact hvalues

theorem restore_resolve (h : n.Separates) (metric : String) :
    n.scheme.restore (n.resolve metric) = n.fullName metric := by
  unfold Separates at h
  unfold resolve
  cases hscheme : n.scheme with
  | identity => rfl
  | keyValue =>
    rw [hscheme] at h
    exact h.elim
  | categories names =>
    rw [hscheme] at h
    obtain ⟨hnodup, hbase⟩ := h
    have hvalues := filterMap_get?_merge hnodup hbase (NameScheme.segments (n.fullName metric))
    have hwhole := NameScheme.prepend_categoryTags names (NameScheme.segments (n.fullName metric))
    simp only [NameScheme.restore, NameScheme.tags, NameScheme.measurement]
    rw [hvalues, hwhole, NameScheme.segments, Text.join_cut]

end Naming

namespace Adapter

/-- The adapter leaves the name and the tags of a draft alone. -/
def KeepsSeries (adapt : String → Instrument → Draft → Draft) : Prop :=
  ∀ name i d, ((adapt name i d).name, (adapt name i d).tags) = (d.name, d.tags)

end Adapter

def Record.series (r : Record) : String × Dict String := (r.name, r.tags)

lemma series_transform {ctx : Context} {t : Tracking} {name : String} {now : UInt64}
    {timestamp : Int64} {i : Instrument}
    (ht : ∀ f ∈ Adapter.customs t.adapters, Adapter.KeepsSeries f) {r : Record}
    (h : (transform ctx t name now timestamp i).record? = some r) :
    r.series = ctx.naming.resolve name := by
  have hfield (d : Draft) (k : String) (v : FieldValue) :
      ((d.field k v).name, (d.field k v).tags) = (d.name, d.tags) := by
    rw [Draft.name_field, Draft.tags_field]
  obtain ⟨d, hd, hbuild⟩ := adapted_of_record? h
  obtain ⟨_, _, rfl⟩ := Draft.build_eq_ok_iff.1 hbuild
  obtain ⟨ps, rfl, _⟩ := Reading.draft_eq_fieldAll hd
  have hadapted := Adapter.adaptAll_keeps (g := fun d => (d.name, d.tags)) hfield ht name
    (Reading.ofInstrument ctx t.idle name now timestamp i).instrument
    ((ctx.start name timestamp).fieldAll ps)
  have hvalues := Draft.fieldAll_keeps (g := fun d => (d.name, d.tags)) hfield
    (ctx.start name timestamp) ps
  have htags : (ctx.start name timestamp).tags = (ctx.naming.resolve name).2 :=
    Dict.ofList_entries _
  have hstart : ((ctx.start name timestamp).name, (ctx.start name timestamp).tags) =
      ctx.naming.resolve name := by
    rw [htags]
    rfl
  exact (hadapted.trans hvalues).trans hstart

namespace Naming

variable {σ : Type} {n : Naming}

/-- Different metrics resolve to different series, and so do the instruments of one report. -/
theorem distinct_series (h : n.Separates) :
    Function.Injective n.resolve ∧
    ∀ (c : Cycle σ) (r : Registry) (timestamp : Int64), c.context.naming = n →
      (∀ f ∈ Adapter.customs c.tracking.adapters, Adapter.KeepsSeries f) →
      ((c.offers r timestamp).map Record.series).Nodup := by
  have hinjective : Function.Injective n.resolve := by
    intro a b hab
    have hfull := congrArg n.scheme.restore hab
    rw [restore_resolve h, restore_resolve h] at hfull
    exact n.fullName_injective hfull
  refine ⟨hinjective, ?_⟩
  rintro c r timestamp rfl hcustoms
  cases haborted : (c.walk r timestamp).aborted with
  | true =>
    rw [Cycle.offers_of_aborted haborted]
    exact List.nodup_nil
  | false =>
    have hnames : (r.selection c.filter).Pairwise fun a b => a.1 ≠ b.1 :=
      List.pairwise_map.1 Registry.nodup_selection
    rw [Cycle.offers_of_kept haborted, List.Nodup, List.pairwise_map, List.pairwise_filterMap]
    refine hnames.imp ?_
    intro a b hne ra hra rb hrb heq
    rw [series_transform hcustoms hra, series_transform hcustoms hrb] at heq
    exact hne (hinjective heq)

/-- Takes up to two tags from a name. -/
def tagged : Cycle ScriptOutlet :=
  (Cycle.new { Settings.default with
    tags := .ofList [("region", "eu")]
    scheme := .categories ["server", "type"] } []
    ⟨.batch, .milliseconds, ⟨0⟩, ScriptOutlet.send⟩ ⟨[]⟩).toOption.get rfl

def dotted : Registry :=
  ((Registry.new (.starting 0)).place "x" (.counter ⟨1⟩)).place ".x" (.counter ⟨2⟩)

/-- A name with an empty segment has a tag more than the name without it. -/
theorem distinct_series_dotted :
    tagged.context.naming.Separates ∧
    tagged.context.naming.resolve ".x" = ("x", .ofList [("region", "eu"), ("server", "")]) ∧
    tagged.context.naming.resolve "x" ≠ tagged.context.naming.resolve ".x" ∧
    (tagged.offers dotted 0).length = 2 ∧
    ((tagged.offers dotted 0).map Record.series).Nodup := by
  have hseparates : tagged.context.naming.Separates := by
    have hnames : ["server", "type"].Nodup ∧
        ∀ c ∈ ["server", "type"], (Dict.ofList [("region", "eu")]).contains c = false := by
      decide +kernel
    exact hnames
  obtain ⟨hinjective, hoffers⟩ := distinct_series (σ := ScriptOutlet) hseparates
  have hnames : "x" ≠ ".x" := by decide
  have hcustoms : ∀ f ∈ Adapter.customs tagged.tracking.adapters, Adapter.KeepsSeries f := by
    intro f hf
    cases hf
  exact ⟨hseparates, by decide +kernel, hinjective.ne hnames, by decide +kernel,
    hoffers tagged dotted 0 rfl hcustoms⟩

end Naming

end Telemetry
