import Mathlib.Data.List.TakeDrop
import Mathlib.Tactic.Common
import Telemetry.Naming.Basic

/-!
# What becomes of the segments of a name

A scheme takes a number of leading segments for tags and keeps the others, at least one, for the
measurement. Tags and measurement cut the name apart from each other, and they cut it at the same
place.
-/

namespace Telemetry

namespace Text

variable {sep : Char}

lemma join_singleton (sep : Char) (p : String) : join sep [p] = p := by
  simp [join, joinChars]

/-- The pieces at the end may be joined beforehand. -/
lemma join_append {qs : List String} (hqs : qs ≠ []) (ps : List String) :
    join sep (ps ++ [join sep qs]) = join sep (ps ++ qs) := by
  induction ps with
  | nil => exact join_singleton sep _
  | cons p ps ih =>
    obtain ⟨q, rest, hrest⟩ := List.exists_cons_of_ne_nil (List.append_ne_nil_of_right_ne_nil ps hqs)
    have hlast : ps ++ [join sep qs] ≠ [] := by simp
    obtain ⟨q', rest', hrest'⟩ := List.exists_cons_of_ne_nil hlast
    rw [hrest, hrest'] at ih
    rw [List.cons_append, List.cons_append, hrest, hrest', join_cons_cons, join_cons_cons, ih]

lemma join_eq_empty_iff {ps : List String} (hps : ps ≠ []) : join sep ps = "" ↔ ps = [""] := by
  cases ps with
  | nil => exact absurd rfl hps
  | cons p ps =>
    cases ps with
    | nil => rw [join_singleton, List.cons_eq_cons, and_iff_left rfl]
    | cons q ps =>
      have hchars : (join sep (p :: q :: ps)).toList ≠ [] := by
        rw [join_cons_cons]
        simp
      constructor
      · intro h
        rw [h] at hchars
        exact absurd rfl hchars
      · nofun

end Text

namespace NameScheme

lemma segments_ne_nil (metric : String) : segments metric ≠ [] := by
  rw [segments, Text.cut, ne_eq, List.map_eq_nil_iff]
  exact Text.cutChars_ne_nil '.' metric.toList

lemma length_segments_pos (metric : String) : 0 < (segments metric).length :=
  List.length_pos_iff.2 (segments_ne_nil metric)

/-- How many of `n` segments become tags. -/
def taken (s : NameScheme) (n : Nat) : Nat :=
  match s with
  | identity => 0
  | categories names => min (n - 1) names.length
  | keyValue => 2 * ((n - 1) / 2)

/-- Segments two by two, without a last one that has no partner. -/
def couples : List String → List (String × String)
  | k :: v :: rest => (k, v) :: couples rest
  | _ => []

/-- The tags that segments stand for, in their order. -/
def pairs (s : NameScheme) (segs : List String) : List (String × String) :=
  match s with
  | identity => []
  | categories names => names.zip segs
  | keyValue => couples segs

/-- The segments that tags were made of. -/
def sources (s : NameScheme) (ps : List (String × String)) : List String :=
  match s with
  | keyValue => ps.flatMap fun p => [p.1, p.2]
  | _ => ps.map (·.2)

lemma taken_lt (s : NameScheme) {n : Nat} (hn : 0 < n) : s.taken n < n := by
  cases s with
  | identity => exact hn
  | categories names =>
    rw [taken]
    omega
  | keyValue =>
    rw [taken]
    omega

lemma taken_categories (c : String) (cs : List String) (n : Nat) :
    (categories (c :: cs)).taken (n + 2) = (categories cs).taken (n + 1) + 1 := by
  simp only [taken, List.length_cons]
  omega

lemma taken_keyValue (n : Nat) : keyValue.taken (n + 3) = keyValue.taken (n + 1) + 2 := by
  simp only [taken]
  omega

section Parts

variable {names segs : List String}

/-- Without a category, or a segment behind the first, nothing is taken. -/
lemma taken_categories_eq_zero
    (h : ∀ c cs p q ps, names = c :: cs → segs = p :: q :: ps → False) :
    (categories names).taken segs.length = 0 := by
  rcases names with _ | ⟨c, cs⟩
  · simp [taken]
  · rcases segs with _ | ⟨p, _ | ⟨q, ps⟩⟩
    · rfl
    · simp [taken]
    · exact (h c cs p q ps rfl rfl).elim

lemma taken_keyValue_eq_zero (h : ∀ k v q ps, segs = k :: v :: q :: ps → False) :
    keyValue.taken segs.length = 0 := by
  rcases segs with _ | ⟨k, _ | ⟨v, _ | ⟨q, ps⟩⟩⟩
  · rfl
  · simp [taken]
  · simp [taken]
  · exact (h k v q ps rfl).elim

variable (names segs)

lemma categoryTags_eq :
    categoryTags names segs = names.zip (segs.take ((categories names).taken segs.length)) := by
  fun_induction categoryTags names segs with
  | case1 c cs p q ps ih =>
    have hcount := taken_categories c cs ps.length
    rw [List.length_cons, List.length_cons, hcount, List.take_succ_cons, List.zip_cons_cons, ih]
    rfl
  | case2 names segs h => rw [taken_categories_eq_zero h, List.take_zero, List.zip_nil_right]

lemma categoryRest_eq :
    categoryRest names segs = segs.drop ((categories names).taken segs.length) := by
  fun_induction categoryRest names segs with
  | case1 c cs p q ps ih =>
    have hcount := taken_categories c cs ps.length
    rw [List.length_cons, List.length_cons, hcount, List.drop_succ_cons, ih]
    rfl
  | case2 names segs h => rw [taken_categories_eq_zero h, List.drop_zero]

lemma pairTags_eq : pairTags segs = couples (segs.take (keyValue.taken segs.length)) := by
  fun_induction pairTags segs with
  | case1 k v q ps ih =>
    have hcount := taken_keyValue ps.length
    rw [List.length_cons, List.length_cons, List.length_cons, hcount, List.take_succ_cons,
      List.take_succ_cons, couples, ih]
    rfl
  | case2 segs h =>
    rw [taken_keyValue_eq_zero h, List.take_zero]
    rfl

lemma pairRest_eq : pairRest segs = segs.drop (keyValue.taken segs.length) := by
  fun_induction pairRest segs with
  | case1 k v q ps ih =>
    have hcount := taken_keyValue ps.length
    rw [List.length_cons, List.length_cons, List.length_cons, hcount, List.drop_succ_cons,
      List.drop_succ_cons, ih]
    rfl
  | case2 segs h => rw [taken_keyValue_eq_zero h, List.drop_zero]

end Parts

lemma tags_eq (s : NameScheme) (metric : String) : s.tags metric =
    .ofList (s.pairs ((segments metric).take (s.taken (segments metric).length))) := by
  cases s with
  | identity => rfl
  | categories names => rw [tags, categoryTags_eq, pairs]
  | keyValue => rw [tags, pairTags_eq, pairs]

lemma measurement_eq (s : NameScheme) (metric : String) : s.measurement metric =
    Text.join '.' ((segments metric).drop (s.taken (segments metric).length)) := by
  cases s with
  | identity => exact (Text.join_cut '.' metric).symm
  | categories names => rw [measurement, categoryRest_eq]
  | keyValue => rw [measurement, pairRest_eq]

lemma drop_taken_ne_nil (s : NameScheme) (metric : String) :
    (segments metric).drop (s.taken (segments metric).length) ≠ [] := by
  have hlt := s.taken_lt (length_segments_pos metric)
  intro hnil
  have hlength := congrArg List.length hnil
  rw [List.length_drop, List.length_nil] at hlength
  omega

lemma join_take_measurement (s : NameScheme) (metric : String) :
    Text.join '.' ((segments metric).take (s.taken (segments metric).length) ++
      [s.measurement metric]) = metric := by
  rw [measurement_eq, Text.join_append (s.drop_taken_ne_nil metric), List.take_append_drop]
  exact Text.join_cut '.' metric

/-- A couple for each two segments uses up an even number of them. -/
lemma flatMap_couples {segs : List String} (heven : segs.length % 2 = 0) :
    (couples segs).flatMap (fun p => [p.1, p.2]) = segs := by
  fun_induction couples segs with
  | case1 k v rest ih =>
    rw [List.length_cons, List.length_cons] at heven
    rw [List.flatMap_cons, ih (by omega)]
    rfl
  | case2 segs h =>
    rcases segs with _ | ⟨k, _ | ⟨v, rest⟩⟩
    · rfl
    · simp at heven
    · exact (h k v rest rfl).elim

/-- Every segment that is taken is the source of a tag. -/
lemma sources_pairs (s : NameScheme) (segs : List String) :
    s.sources (s.pairs (segs.take (s.taken segs.length))) = segs.take (s.taken segs.length) := by
  cases s with
  | identity => rfl
  | categories names =>
    have hle : (segs.take ((categories names).taken segs.length)).length ≤ names.length := by
      rw [List.length_take, taken]
      omega
    exact List.map_snd_zip hle
  | keyValue =>
    have heven : (segs.take (keyValue.taken segs.length)).length % 2 = 0 := by
      rw [List.length_take, taken]
      omega
    exact flatMap_couples heven

/-- The scheme leaves only the last of `n` segments for the measurement. -/
def LeavesLast (s : NameScheme) (n : Nat) : Prop :=
  match s with
  | identity => False
  | categories names => n - 1 ≤ names.length ∧ names ≠ []
  | keyValue => n % 2 = 1

instance (s : NameScheme) (n : Nat) : Decidable (s.LeavesLast n) :=
  match s with
  | identity => inferInstanceAs (Decidable False)
  | categories _ => inferInstanceAs (Decidable (_ ∧ _))
  | keyValue => inferInstanceAs (Decidable (_ = _))

lemma taken_eq_iff (s : NameScheme) {n : Nat} (hn : 1 < n) :
    s.taken n = n - 1 ↔ s.LeavesLast n := by
  cases s with
  | identity =>
    simp only [taken, LeavesLast, iff_false]
    omega
  | categories names =>
    simp only [taken, LeavesLast, ne_eq, ← List.length_eq_zero_iff]
    omega
  | keyValue =>
    simp only [taken, LeavesLast]
    omega

lemma drop_eq_singleton_iff {segs : List String} {k : Nat} (hk : k < segs.length) {p : String} :
    segs.drop k = [p] ↔ k = segs.length - 1 ∧ segs.getLast? = some p := by
  constructor
  · intro h
    have hlength := congrArg List.length h
    have hlast := congrArg List.getLast? h
    rw [List.length_drop, List.length_singleton] at hlength
    rw [List.getLast?_drop, if_neg (by omega)] at hlast
    exact ⟨by omega, hlast⟩
  · rintro ⟨rfl, hlast⟩
    have hne : segs ≠ [] := List.length_pos_iff.1 (by omega)
    rw [List.getLast?_eq_some_getLast hne, Option.some_inj] at hlast
    rw [List.drop_length_sub_one hne, hlast]

/-- When nothing but an empty segment is left for the measurement. -/
lemma measurement_eq_empty_iff (s : NameScheme) {metric : String} (hmetric : metric ≠ "") :
    s.measurement metric = "" ↔
      (segments metric).getLast? = some "" ∧ s.LeavesLast (segments metric).length := by
  have hlt := s.taken_lt (length_segments_pos metric)
  rw [measurement_eq, Text.join_eq_empty_iff (s.drop_taken_ne_nil metric),
    drop_eq_singleton_iff hlt, and_comm]
  refine and_congr_right fun hlast => s.taken_eq_iff ?_
  -- a single empty segment would be an empty name
  by_contra hle
  have hpos := length_segments_pos metric
  have hsingle : segments metric = [""] := by
    have hdrop := drop_eq_singleton_iff (k := 0) hpos |>.2 ⟨by omega, hlast⟩
    rwa [List.drop_zero] at hdrop
  have hjoin : Text.join '.' (segments metric) = metric := Text.join_cut '.' metric
  rw [hsingle, Text.join_singleton] at hjoin
  exact hmetric hjoin.symm

lemma couples_take (segs : List String) (m : Nat) :
    couples (segs.take (2 * m)) = (couples segs).take m := by
  induction m generalizing segs with
  | zero => rfl
  | succ m ih =>
    rcases segs with _ | ⟨k, _ | ⟨v, rest⟩⟩
    · rfl
    · rfl
    · have htake : (k :: v :: rest).take (2 * (m + 1)) = k :: v :: rest.take (2 * m) := rfl
      rw [htake, couples, ih, couples, List.take_succ_cons]

section Positions

/-- The measurement read by positions, nothing if one of them is out of range. -/
def measurementAt? (s : NameScheme) (segs : List String) : Option String :=
  let n := segs.length
  match s with
  | identity => some (Text.join '.' segs)
  | categories names =>
    if names.length < n then some (Text.join '.' (segs.drop names.length)) else segs[n - 1]?
  | keyValue =>
    if n % 2 = 1 then segs[n - 1]?
    else do
      let p ← segs[n - 2]?
      let q ← segs[n - 1]?
      return p ++ "." ++ q

/-- The tags read by positions, nothing if one of them is out of range. -/
def pairsAt? (s : NameScheme) (segs : List String) : Option (List (String × String)) :=
  let n := segs.length
  match s with
  | identity => some []
  | categories names =>
    let stop := min (n - 1) names.length
    if stop ≤ n then some (names.zip (segs.take stop)) else none
  | keyValue => some ((couples segs).take (if n % 2 = 1 then (n - 1) / 2 else n / 2 - 1))

variable {segs : List String}

lemma join_drop_last (h : segs ≠ []) :
    segs[segs.length - 1]? = some (Text.join '.' (segs.drop (segs.length - 1))) := by
  rw [List.drop_length_sub_one h, Text.join_singleton, ← List.getLast?_eq_getElem?,
    List.getLast?_eq_some_getLast h]

lemma measurementAt?_eq (s : NameScheme) (h : segs ≠ []) :
    s.measurementAt? segs = some (Text.join '.' (segs.drop (s.taken segs.length))) := by
  have hpos := List.length_pos_iff.2 h
  cases s with
  | identity => rfl
  | categories names =>
    simp only [measurementAt?, taken]
    split
    · have hmin : min (segs.length - 1) names.length = names.length := by omega
      rw [hmin]
    · have hmin : min (segs.length - 1) names.length = segs.length - 1 := by omega
      rw [hmin, join_drop_last h]
  | keyValue =>
    simp only [measurementAt?, taken]
    split
    · have hodd : 2 * ((segs.length - 1) / 2) = segs.length - 1 := by omega
      rw [hodd, join_drop_last h]
    · have heven : 2 * ((segs.length - 1) / 2) = segs.length - 2 := by omega
      have hp : segs.length - 2 < segs.length := by omega
      have hq : segs.length - 1 < segs.length := by omega
      have hnext : segs.length - 2 + 1 = segs.length - 1 := by omega
      rw [heven, List.drop_eq_getElem_cons hp, hnext, List.drop_eq_getElem_cons hq,
        List.getElem?_eq_getElem hp, List.getElem?_eq_getElem hq]
      have hend : segs.drop (segs.length - 1 + 1) = [] := List.drop_eq_nil_of_le (by omega)
      rw [hend, Text.join_cons_cons, Text.join_singleton]
      rfl

lemma pairsAt?_eq (s : NameScheme) (h : segs ≠ []) :
    s.pairsAt? segs = some (s.pairs (segs.take (s.taken segs.length))) := by
  have hpos := List.length_pos_iff.2 h
  cases s with
  | identity => rfl
  | categories names =>
    have hle : min (segs.length - 1) names.length ≤ segs.length := by omega
    simp only [pairsAt?, if_pos hle]
    rfl
  | keyValue =>
    have hhalf : (if segs.length % 2 = 1 then (segs.length - 1) / 2 else segs.length / 2 - 1) =
        (segs.length - 1) / 2 := by
      split <;> omega
    simp only [pairsAt?, hhalf]
    rw [pairs, taken, couples_take]

end Positions

/-- The name is these pieces with a dot between each two, and none of them has a dot itself. -/
structure Segmented (metric : String) (segs : List String) : Prop where
  nonempty : segs ≠ []
  dotless : ∀ p ∈ segs, '.' ∉ p.toList
  joined : Text.join '.' segs = metric

lemma segmented_iff {metric : String} {segs : List String} :
    Segmented metric segs ↔ segs = segments metric := by
  constructor
  · rintro ⟨hne, hdotless, rfl⟩
    have hchars : ∀ cs ∈ segs.map String.toList, '.' ∉ cs := by
      intro cs hcs
      obtain ⟨p, hp, rfl⟩ := List.mem_map.1 hcs
      exact hdotless p hp
    rw [segments, Text.cut, Text.join, String.toList_ofList,
      Text.cutChars_joinChars (by simpa using hne) hchars]
    simp
  · rintro rfl
    refine ⟨segments_ne_nil metric, fun p hp => ?_, Text.join_cut '.' metric⟩
    obtain ⟨cs, hcs, rfl⟩ := List.mem_map.1 hp
    rw [String.toList_ofList]
    exact Text.not_mem_of_mem_cutChars hcs

/-- The first `k` segments of a name become its tags and the others its measurement. -/
structure Divides (s : NameScheme) (metric : String) (segs : List String) (k : Nat) : Prop where
  lt : k < segs.length
  tags : ∀ q, (s.tags metric).get? q = Dict.last? (s.pairs (segs.take k)) q
  sources : s.sources (s.pairs (segs.take k)) = segs.take k
  measurement : s.measurement metric = Text.join '.' (segs.drop k)
  whole : Text.join '.' (segs.take k ++ [s.measurement metric]) = metric
  measurementAt : s.measurementAt? segs = some (s.measurement metric)
  pairsAt : s.pairsAt? segs = some (s.pairs (segs.take k))

/-- A name has its segments in one way only. Tags and measurement share them out, and the tags win
over common ones. -/
theorem divides_name (s : NameScheme) (metric : String) :
    (∃! segs, Segmented metric segs) ∧
    (∀ segs, Segmented metric segs → s.Divides metric segs (s.taken segs.length)) ∧
      ∀ (lead : Option String) (baseTags : Dict String),
        let full := lead.elim metric (· ++ "." ++ metric)
        let resolved := (Naming.mk lead baseTags s).resolve metric
        resolved.1 = s.measurement full ∧
          ∀ q, resolved.2.get? q = ((s.tags full).get? q).or (baseTags.get? q) := by
  refine ⟨⟨segments metric, segmented_iff.2 rfl, fun _ => segmented_iff.1⟩, ?_, ?_⟩
  · intro segs hsegs
    rw [segmented_iff.1 hsegs]
    exact {
      lt := s.taken_lt (length_segments_pos metric)
      tags := fun q => by rw [tags_eq, Dict.get?_ofList]
      sources := s.sources_pairs (segments metric)
      measurement := s.measurement_eq metric
      whole := s.join_take_measurement metric
      measurementAt := by
        rw [measurementAt?_eq s (segments_ne_nil metric), ← measurement_eq]
      pairsAt := pairsAt?_eq s (segments_ne_nil metric) }
  · intro lead baseTags full resolved
    have hfull : (Naming.mk lead baseTags s).fullName metric = full := by
      cases lead <;> rfl
    have hresolved : resolved = (s.measurement full, baseTags.merge (s.tags full)) := by
      rw [← hfull]
      rfl
    rw [hresolved]
    exact ⟨rfl, Dict.get?_merge baseTags (s.tags full)⟩

/-- A key comes twice, a segment is empty, and a tag of the name has the key of a common one. -/
theorem divides_name_doubled :
    let metric := "k.1.k.2..n"
    let segs := ["k", "1", "k", "2", "", "n"]
    let resolved := (Naming.mk none (.ofList [("k", "0"), ("zone", "eu")]) keyValue).resolve metric
    Segmented metric segs ∧ keyValue.Divides metric segs 4 ∧ resolved.1 = ".n" ∧
      resolved.2.get? "k" = some "2" ∧ resolved.2.get? "zone" = some "eu" := by
  intro metric segs resolved
  obtain ⟨_, hdivides, hresolve⟩ := divides_name keyValue metric
  have hsegs : Segmented metric segs := ⟨by decide, by decide, by decide⟩
  have htaken : keyValue.taken segs.length = 4 := by decide
  have hfour : keyValue.Divides metric segs 4 := htaken ▸ hdivides segs hsegs
  obtain ⟨hmeasurement, htags⟩ := hresolve none (.ofList [("k", "0"), ("zone", "eu")])
  have htag (q : String) : resolved.2.get? q = (Dict.last? (keyValue.pairs (segs.take 4)) q).or
      ((Dict.ofList [("k", "0"), ("zone", "eu")]).get? q) := by
    rw [← hfour.tags]
    exact htags q
  refine ⟨hsegs, hfour, hmeasurement.trans (hfour.measurement.trans (by decide)), ?_, ?_⟩
  · rw [htag]
    decide
  · rw [htag]
    decide

end NameScheme

end Telemetry
