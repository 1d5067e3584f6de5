import Mathlib.Algebra.Ring.Nat
import Telemetry.Instrument.Registry

/-!
# The maps of a registry as one

While the maps are apart, all of them together are one map from names to instruments: each of them is
the part of its kind, and the calls change the whole as they would change a single map.
-/

namespace Telemetry

namespace Shelves

variable {s : Shelves} {name : String} {kind : InstrumentKind} {reg : Registration}

lemma get?_entries (s : Shelves) (name : String) :
    s.entries.get? name = searchOrder.findSome? fun kind => (s.shelf kind).get? name := by
  unfold entries
  induction searchOrder with
  | nil => rfl
  | cons kind kinds ih =>
    rw [List.foldr_cons, Dict.get?_merge, ih, List.findSome?_cons]
    cases (s.shelf kind).get? name <;> rfl

lemma size_eq_sum (s : Shelves) :
    s.size = (searchOrder.map fun kind => (s.shelf kind).size).sum := by
  simp only [size, searchOrder, shelf, Dict.size_map, List.map_cons, List.map_nil, List.sum_cons,
    List.sum_nil]
  omega

lemma contains_of_get? (h : (s.shelf kind).get? name = some reg) :
    (s.shelf kind).contains name = true := by
  rw [Dict.contains, h]
  rfl

namespace Apart

lemma get?_entries_iff (h : s.Apart) :
    s.entries.get? name = some reg ↔ (s.shelf reg.instrument.kind).get? name = some reg := by
  rw [get?_entries]
  constructor
  · intro hfind
    obtain ⟨kind, _, hget⟩ := List.exists_of_findSome?_eq_some hfind
    rwa [kind_of_shelf hget]
  · intro hget
    have hsome : (searchOrder.findSome? fun kind => (s.shelf kind).get? name).isSome = true :=
      List.findSome?_isSome_iff.2 ⟨_, mem_searchOrder _, Option.isSome_of_eq_some hget⟩
    obtain ⟨other, hother⟩ := Option.isSome_iff_exists.1 hsome
    obtain ⟨kind, _, hkind⟩ := List.exists_of_findSome?_eq_some hother
    have heq := h name kind _ (contains_of_get? hkind) (contains_of_get? hget)
    rw [heq, hget] at hkind
    rw [hother, hkind]

lemma entries_eq (h : s.Apart) {d : Dict Registration} (hd : ∀ name reg,
    d.get? name = some reg ↔ (s.shelf reg.instrument.kind).get? name = some reg) :
    s.entries = d := by
  apply Dict.ext_of_get?
  intro name
  apply Option.ext
  intro reg
  exact h.get?_entries_iff.trans (hd name reg).symm

/-- Each map is the part of its kind. -/
lemma shelf_eq (h : s.Apart) (kind : InstrumentKind) :
    s.shelf kind = s.entries.filter fun _ reg => reg.instrument.kind = kind := by
  apply Dict.ext_of_get?
  intro name
  apply Option.ext
  intro reg
  rw [Dict.get?_filter_value, Option.filter_eq_some_iff, h.get?_entries_iff, decide_eq_true_eq]
  constructor
  · intro hget
    have hkind := kind_of_shelf hget
    exact ⟨hkind ▸ hget, hkind⟩
  · rintro ⟨hget, rfl⟩
    exact hget

lemma kindOf_eq (h : s.Apart) (name : String) :
    s.kindOf name = (s.entries.get? name).map (·.instrument.kind) := by
  apply Option.ext
  intro kind
  rw [h.kindOf_eq_some_iff, Dict.contains, Option.isSome_iff_exists, Option.map_eq_some_iff]
  constructor
  · rintro ⟨reg, hget⟩
    obtain rfl := kind_of_shelf hget
    exact ⟨reg, h.get?_entries_iff.2 hget, rfl⟩
  · rintro ⟨reg, hget, rfl⟩
    exact ⟨reg, h.get?_entries_iff.1 hget⟩

lemma get?_eq (h : s.Apart) (name : String) :
    s.get? name = (s.entries.get? name).map (·.instrument) := by
  rw [get?, h.kindOf_eq]
  cases hget : s.entries.get? name with
  | none => rfl
  | some reg =>
    rw [Option.map_some, Option.bind_some, h.get?_entries_iff.1 hget]

lemma entries_put (h : s.Apart) (hfree : ∀ kind, (s.shelf kind).contains name = true →
    reg.instrument.kind = kind) : (s.put name reg).entries = s.entries.insert name reg := by
  refine (h.put hfree).entries_eq fun q other => ?_
  rw [Dict.get?_insert, shelf_put]
  by_cases hname : name = q
  · subst hname
    rw [if_pos rfl]
    by_cases hkind : reg.instrument.kind = other.instrument.kind
    · rw [if_pos hkind, Dict.get?_insert, if_pos rfl]
    · rw [if_neg hkind]
      constructor
      · intro heq
        exact absurd (congrArg (·.instrument.kind) (Option.some.inj heq)) hkind
      · intro hget
        exact absurd (hfree _ (contains_of_get? hget)) hkind
  · rw [if_neg hname, h.get?_entries_iff]
    split
    · rw [Dict.get?_insert, if_neg hname]
    · rfl

/-- A removal takes the name out of the one map that has it. -/
lemma remove_cases (h : s.Apart) (name : String) :
    (∃ reg, s.entries.get? name = some reg ∧
      s.remove name = (some reg.instrument, s.drop name reg.instrument.kind)) ∨
    s.entries.get? name = none ∧ s.remove name = (none, s) := by
  unfold Shelves.remove
  cases hfind : searchOrder.findSome? (s.take? name) with
  | some found =>
    obtain ⟨kind, _, htake⟩ := List.exists_of_findSome?_eq_some hfind
    obtain ⟨reg, hget, rfl⟩ := Option.map_eq_some_iff.1 htake
    obtain rfl := kind_of_shelf hget
    exact .inl ⟨reg, h.get?_entries_iff.2 hget, rfl⟩
  | none =>
    refine .inr ⟨?_, rfl⟩
    rw [get?_entries, List.findSome?_eq_none_iff]
    intro kind hkind
    exact Option.map_eq_none_iff.1 (List.findSome?_eq_none_iff.1 hfind kind hkind)

lemma shelf_remove (h : s.Apart) (name : String) (kind : InstrumentKind) :
    (s.remove name).2.shelf kind = (s.shelf kind).erase name := by
  have hmissing (hget : (s.shelf kind).get? name = none) :
      s.shelf kind = (s.shelf kind).erase name := (Dict.erase_of_get?_eq_none hget).symm
  rcases h.remove_cases name with ⟨reg, hget, hremove⟩ | ⟨hget, hremove⟩
  · rw [hremove, shelf_drop]
    split
    · rfl
    · rename_i hkind
      apply hmissing
      rw [h.shelf_eq, Dict.get?_filter_value, hget]
      exact Option.filter_some_neg (by simpa using hkind)
  · rw [hremove]
    apply hmissing
    rw [h.shelf_eq, Dict.get?_filter_value, hget]
    rfl

lemma entries_remove (h : s.Apart) (name : String) :
    (s.remove name).2.entries = s.entries.erase name := by
  refine (h.remove name).entries_eq fun q reg => ?_
  rw [h.shelf_remove, Dict.get?_erase, Dict.get?_erase]
  split
  · simp
  · exact h.get?_entries_iff

lemma fst_remove (h : s.Apart) (name : String) : (s.remove name).1 = s.get? name := by
  rw [h.get?_eq]
  rcases h.remove_cases name with ⟨reg, hget, hremove⟩ | ⟨hget, hremove⟩
  · rw [hremove, hget]
    rfl
  · rw [hremove, hget]
    rfl

lemma entries_putBack (h : s.Apart) (hget : s.entries.get? name = some reg) {i : Instrument}
    (hkind : i.kind = reg.instrument.kind) :
    (s.putBack name reg.serial i).entries = s.entries.insert name ⟨reg.serial, i⟩ := by
  have hshelf := h.get?_entries_iff.1 hget
  rw [← hkind] at hshelf
  rw [Shelves.putBack, hshelf]
  dsimp only
  rw [if_pos rfl]
  exact h.entries_put fun kind hcontains => h name i.kind kind (contains_of_get? hshelf) hcontains

/-- What is no longer registered is not put back. -/
lemma putBack_of_ne (h : s.Apart) (hget : s.entries.get? name = some reg) {serial : Nat}
    (hserial : reg.serial ≠ serial) (i : Instrument) : s.putBack name serial i = s := by
  unfold Shelves.putBack
  split
  · rename_i other hother
    rw [if_neg]
    rw [← kind_of_shelf hother, ← h.get?_entries_iff, hget] at hother
    cases hother
    exact hserial
  · rfl

lemma group_eq (h : s.Apart) (filter : MetricFilter) (kind : InstrumentKind) :
    s.group filter kind = s.entries.entries.filter fun e =>
      e.2.instrument.kind = kind && filter.accepts e.1 := by
  rw [group, h.shelf_eq, Dict.filter, List.filter_filter]
  congr 1
  funext e
  exact Bool.and_comm _ _

/-- No name is listed twice. -/
lemma nodup_groups (h : s.Apart) (filter : MetricFilter) {order : List InstrumentKind}
    (horder : order.Nodup) : ((order.flatMap (s.group filter)).map (·.1)).Nodup := by
  rw [List.Nodup, List.pairwise_map, List.pairwise_flatMap]
  constructor
  · intro kind _
    exact ((s.shelf kind).ascending.imp fun hlt => String.ne_of_lt hlt).filter _
  · refine horder.imp fun {k l} hne a ha b hb heq => hne ?_
    have hcontains {kind : InstrumentKind} {e : String × Registration}
        (he : e ∈ s.group filter kind) : (s.shelf kind).contains e.1 = true :=
      contains_of_get? (Dict.mem_entries_iff.1 (List.mem_filter.1 he).1)
    exact h b.1 k l (heq ▸ hcontains ha) (hcontains hb)

lemma size_eq (h : s.Apart) : s.size = s.entries.size := by
  have hsum (es : List (String × Registration)) :
      (searchOrder.map fun kind => (es.filter fun e => e.2.instrument.kind = kind).length).sum =
        es.length := by
    induction es with
    | nil => rfl
    | cons e es ih =>
      simp only [searchOrder, List.map_cons, List.map_nil, List.sum_cons, List.sum_nil] at ih
      cases hkind : e.2.instrument.kind <;> simp [searchOrder, List.filter_cons, hkind] <;> omega
  rw [size_eq_sum, Dict.size, ← hsum]
  congr 1
  refine List.map_congr_left fun kind _ => ?_
  rw [h.shelf_eq]
  rfl

end Apart

end Shelves

namespace Registry

variable {r : Registry} {filter : MetricFilter}

lemma get?_eq (r : Registry) (name : String) :
    r.get? name = (r.entries.get? name).map (·.instrument) :=
  r.apart.get?_eq name

lemma entries_remove (r : Registry) (name : String) :
    (r.remove name).2.entries = r.entries.erase name :=
  r.apart.entries_remove name

lemma group_eq (r : Registry) (filter : MetricFilter) (kind : InstrumentKind) :
    r.group filter kind = r.entries.entries.filter fun e =>
      e.2.instrument.kind = kind && filter.accepts e.1 :=
  r.apart.group_eq filter kind

lemma get?_putBack {name : String} {reg : Registration} (h : r.entries.get? name = some reg)
    {i : Instrument} (hkind : i.kind = reg.instrument.kind) (q : String) :
    (r.putBack name reg.serial i).entries.get? q =
      if name = q then some ⟨reg.serial, i⟩ else r.entries.get? q := by
  rw [← Dict.get?_insert]
  exact congrArg (Dict.get? · q) (r.apart.entries_putBack h hkind)

lemma clock_putBack (r : Registry) (name : String) (serial : Nat) (i : Instrument) :
    (r.putBack name serial i).clock = r.clock := rfl

/-- Something in the group of a kind is of that kind. -/
lemma kind_of_group {kind : InstrumentKind} {e : String × Registration}
    (he : e ∈ r.group filter kind) : e.2.instrument.kind = kind :=
  Shelves.kind_of_shelf (Dict.mem_entries_iff.1 (List.mem_filter.1 he).1)

lemma mem_selection {e : String × Registration} :
    e ∈ r.selection filter ↔ r.entries.get? e.1 = some e.2 ∧ filter.accepts e.1 = true := by
  have hall : e.2.instrument.kind ∈ reportOrder := by
    cases e.2.instrument.kind <;> decide
  simp only [selection, List.mem_flatMap, group_eq, List.mem_filter, Bool.and_eq_true,
    decide_eq_true_eq, Dict.mem_entries_iff (k := e.1) (v := e.2)]
  constructor
  · rintro ⟨kind, _, hget, _, hf⟩
    exact ⟨hget, hf⟩
  · rintro ⟨hget, hf⟩
    exact ⟨_, hall, hget, rfl, hf⟩

lemma nodup_selection : ((r.selection filter).map (·.1)).Nodup :=
  r.apart.nodup_groups filter (by decide)

end Registry

end Telemetry
