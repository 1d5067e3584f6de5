import Telemetry.Naming.Scheme
import Telemetry.Proofs.TrimmedText

/-!
# Written schemes

What is read is always a scheme that reads back from its written form: categories are trimmed, not
empty and hold no comma. The written form of any other list of categories reads as something else.
-/

namespace Telemetry

namespace Text

/-- Neither end of the text is blank. -/
def Trimmed (s : String) : Prop :=
  (∀ c ∈ s.toList.head?, isBlank c = false) ∧ ∀ c ∈ s.toList.getLast?, isBlank c = false

lemma trimmed_iff {s : String} : Trimmed s ↔ trimChars s.toList = s.toList :=
  trimChars_eq_self_iff.symm

/-- A joined text ends as its last piece does. -/
lemma getLast?_joinChars {sep : Char} {ps : List (List Char)} (h : ∀ p ∈ ps, p ≠ []) :
    (joinChars sep ps).getLast? = ps.getLast?.bind List.getLast? := by
  induction ps with
  | nil => rfl
  | cons p ps ih =>
    cases ps with
    | nil => rfl
    | cons q qs =>
      have hrest := ih fun p' hp' => h p' (List.mem_cons_of_mem p hp')
      have hne : joinChars sep (q :: qs) ≠ [] := by
        have hq := h q (List.mem_cons_of_mem p List.mem_cons_self)
        cases qs <;> simp [joinChars, hq]
      rw [joinChars, List.getLast?_append_cons, List.getLast?_cons_of_ne_nil hne, hrest,
        List.getLast?_cons_cons]

end Text

namespace NameScheme

/-- A scheme that is read back from its written form. -/
def Canonical : NameScheme → Prop
  | identity | keyValue => True
  | categories names =>
    names ≠ [] ∧ ∀ name ∈ names, name ≠ "" ∧ Text.Trimmed name ∧ ',' ∉ name.toList

section Reading

variable {list : List Char} {names : List String}

lemma mem_readCategories {name : String} (h : name ∈ readCategories list) :
    name ≠ "" ∧ Text.Trimmed name ∧ ',' ∉ name.toList := by
  simp only [readCategories, List.mem_map, List.mem_filter, decide_eq_true_eq] at h
  obtain ⟨cs, ⟨⟨piece, hpiece, rfl⟩, hne⟩, rfl⟩ := h
  rw [Text.trimmed_iff, String.toList_ofList]
  refine ⟨by simpa using hne, Text.trimChars_trimChars piece, fun hcomma => ?_⟩
  exact Text.not_mem_of_mem_cutChars hpiece (Text.subset_of_trimChars piece hcomma)

/-- Whatever is read is canonical. -/
lemma canonical_of_parse {s : String} {t : NameScheme} (h : parse s = .ok t) : t.Canonical := by
  unfold parse at h
  split at h
  · rename_i list _
    cases hnames : readCategories list with
    | nil =>
      rw [hnames] at h
      cases h
    | cons name names =>
      rw [hnames] at h
      cases h
      exact ⟨List.cons_ne_nil name names, fun c hc => mem_readCategories (hnames ▸ hc)⟩
  · dsimp only at h
    split at h
    · cases h
      trivial
    · split at h <;> cases h
      trivial

lemma readCategories_joinChars (h : (categories names).Canonical) :
    readCategories (Text.joinChars ',' (names.map String.toList)) = names := by
  obtain ⟨hne, hnames⟩ := h
  have hcut : Text.cutChars ',' (Text.joinChars ',' (names.map String.toList)) =
      names.map String.toList := by
    apply Text.cutChars_joinChars (by simpa using hne)
    intro p hp
    obtain ⟨name, hname, rfl⟩ := List.mem_map.1 hp
    exact (hnames name hname).2.2
  have htrim : (names.map String.toList).map Text.trimChars = names.map String.toList := by
    rw [List.map_map]
    apply List.map_congr_left
    intro name hname
    exact Text.trimmed_iff.1 (hnames name hname).2.1
  have hfilter : (names.map String.toList).filter (· ≠ []) = names.map String.toList := by
    rw [List.filter_eq_self]
    intro p hp
    obtain ⟨name, hname, rfl⟩ := List.mem_map.1 hp
    simpa using (hnames name hname).1
  rw [readCategories, hcut, htrim, hfilter, List.map_map]
  simp

lemma trimChars_text (h : (categories names).Canonical) :
    Text.trimChars (text (categories names)).toList =
      categoryLead.toList ++ Text.joinChars ',' (names.map String.toList) := by
  obtain ⟨hne, hnames⟩ := h
  have htext : (text (categories names)).toList =
      categoryLead.toList ++ Text.joinChars ',' (names.map String.toList) := by
    simp [text, Text.join]
  rw [htext, Text.trimChars_eq_self_iff]
  have hpieces : ∀ p ∈ names.map String.toList, p ≠ [] := by
    intro p hp
    obtain ⟨name, hname, rfl⟩ := List.mem_map.1 hp
    simpa using (hnames name hname).1
  obtain ⟨name, hlast⟩ : ∃ name, names.getLast? = some name :=
    ⟨_, List.getLast?_eq_some_getLast hne⟩
  have hname := hnames name (List.mem_of_getLast? hlast)
  have hend : (Text.joinChars ',' (names.map String.toList)).getLast? = name.toList.getLast? := by
    rw [Text.getLast?_joinChars hpieces, List.getLast?_map, hlast]
    rfl
  constructor
  · intro c hc
    cases hc
    rfl
  · intro c hc
    have hchars : name.toList ≠ [] := by simpa using hname.1
    rw [List.getLast?_append, hend, List.getLast?_eq_some_getLast hchars, Option.some_or] at hc
    exact hname.2.1.2 c (List.getLast?_eq_some_getLast hchars ▸ hc)

lemma parse_text_of_canonical {t : NameScheme} (h : t.Canonical) : parse t.text = .ok t := by
  cases t with
  | identity => decide +kernel
  | keyValue => decide +kernel
  | categories names =>
    obtain ⟨name, rest, rfl⟩ := List.exists_cons_of_ne_nil h.1
    rw [parse, trimChars_text h, Text.afterLead_append]
    dsimp only
    rw [readCategories_joinChars h]

end Reading

/-- A scheme is read back if it is canonical, and nothing but canonical schemes is ever read. -/
theorem parse_text_iff (t : NameScheme) :
    (parse t.text = .ok t ↔ t.Canonical) ∧
      ∀ s, parse s = .ok t → t.Canonical ∧ parse t.text = .ok t := by
  refine ⟨⟨canonical_of_parse, parse_text_of_canonical⟩, fun s h => ?_⟩
  have hcanonical := canonical_of_parse h
  exact ⟨hcanonical, parse_text_of_canonical hcanonical⟩

/-- Blank entries are dropped and blanks around entries too, so this text is not the written form. -/
theorem parse_text_iff_loose :
    let s := " categories: server ,, type:a,\u2003"
    let t := categories ["server", "type:a"]
    parse s = .ok t ∧ s ≠ t.text ∧ t.Canonical ∧ parse t.text = .ok t := by
  intro s t
  have hread : parse s = .ok t := by decide +kernel
  have hback := (parse_text_iff t).2 s hread
  exact ⟨hread, by decide +kernel, hback⟩

end NameScheme

end Telemetry
