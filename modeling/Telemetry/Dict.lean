/-!
# Sorted dictionaries

A dictionary holds at most one value per key and lists its entries by ascending key, in the order
of code points. Two dictionaries with the same lookups are equal, and each operation is described
by the lookups that it leaves.
-/

namespace Telemetry

/-- Entries in strictly ascending order of their keys. -/
structure Dict (α : Type) where
  entries : List (String × α)
  ascending : entries.Pairwise fun a b => a.1 < b.1

namespace Dict

variable {α : Type}

theorem key_lt_or_eq_or_lt (a b : String) : a < b ∨ a = b ∨ b < a := by
  by_cases h : a < b
  · exact .inl h
  · by_cases h' : b < a
    · exact .inr (.inr h')
    · exact .inr (.inl (String.le_antisymm (String.not_lt.1 h') (String.not_lt.1 h)))

/-- Puts the pair in its place, instead of a pair with the same key. -/
def put (k : String) (v : α) : List (String × α) → List (String × α)
  | [] => [(k, v)]
  | e :: r =>
    if k < e.1 then (k, v) :: e :: r
    else if k = e.1 then (k, v) :: r
    else e :: put k v r

theorem mem_put {k : String} {v : α} {es : List (String × α)} {e : String × α}
    (h : e ∈ put k v es) : e = (k, v) ∨ e ∈ es := by
  induction es with
  | nil => simpa [put] using h
  | cons a r ih => grind [put]

theorem put_ascending (k : String) (v : α) {es : List (String × α)}
    (h : es.Pairwise fun a b => a.1 < b.1) : (put k v es).Pairwise fun a b => a.1 < b.1 := by
  induction es with
  | nil => simp [put]
  | cons a r ih =>
    obtain ⟨ha, hr⟩ := List.pairwise_cons.1 h
    unfold put
    split
    · rename_i hk
      refine List.pairwise_cons.2 ⟨fun e he => ?_, h⟩
      rcases List.mem_cons.1 he with rfl | he
      · exact hk
      · exact String.lt_trans hk (ha e he)
    · split
      · rename_i hk
        exact List.pairwise_cons.2 ⟨fun e he => by simpa [hk] using ha e he, hr⟩
      · rename_i h1 h2
        refine List.pairwise_cons.2 ⟨fun e he => ?_, ih hr⟩
        rcases mem_put he with rfl | he
        · exact ((key_lt_or_eq_or_lt k a.1).resolve_left h1).resolve_left h2
        · exact ha e he

def empty : Dict α := ⟨[], .nil⟩

instance : EmptyCollection (Dict α) := ⟨empty⟩

instance : Inhabited (Dict α) := ⟨empty⟩

instance [DecidableEq α] : DecidableEq (Dict α) := fun a b =>
  decidable_of_iff (a.entries = b.entries) (by
    cases a
    cases b
    simp)

instance [Repr α] : Repr (Dict α) := ⟨fun d n => reprPrec d.entries n⟩

def insert (d : Dict α) (k : String) (v : α) : Dict α :=
  ⟨put k v d.entries, put_ascending k v d.ascending⟩

/-- Keeps the entries whose key and value satisfy `p`. -/
def filter (d : Dict α) (p : String → α → Bool) : Dict α :=
  ⟨d.entries.filter fun e => p e.1 e.2, d.ascending.filter _⟩

def erase (d : Dict α) (k : String) : Dict α :=
  d.filter fun k' _ => k' ≠ k

def get? (d : Dict α) (k : String) : Option α :=
  (d.entries.find? fun e => e.1 = k).map (·.2)

def contains (d : Dict α) (k : String) : Bool :=
  (d.get? k).isSome

def map {β : Type} (f : α → β) (d : Dict α) : Dict β :=
  ⟨d.entries.map fun e => (e.1, f e.2), List.pairwise_map.2 d.ascending⟩

def keys (d : Dict α) : List String :=
  d.entries.map (·.1)

def size (d : Dict α) : Nat :=
  d.entries.length

def isEmpty (d : Dict α) : Bool :=
  d.entries.isEmpty

/-- Inserts the pairs one after the other, so the last pair with a key wins. -/
def insertAll (d : Dict α) (ps : List (String × α)) : Dict α :=
  ps.foldl (fun d p => d.insert p.1 p.2) d

def ofList (ps : List (String × α)) : Dict α :=
  empty.insertAll ps

/-- Both dictionaries, the entries of `b` winning. -/
def merge (a b : Dict α) : Dict α :=
  a.insertAll b.entries

theorem find_put (k : String) (v : α) (es : List (String × α)) (q : String) :
    ((put k v es).find? fun e => e.1 = q).map (·.2) =
      if k = q then some v else (es.find? fun e => e.1 = q).map (·.2) := by
  induction es with
  | nil => by_cases h : k = q <;> simp [put, h]
  | cons a r ih => by_cases h : a.1 = q <;> grind [put, String.lt_irrefl]

@[simp] theorem get?_insert (d : Dict α) (k : String) (v : α) (q : String) :
    (d.insert k v).get? q = if k = q then some v else d.get? q :=
  find_put k v d.entries q

@[simp] theorem get?_empty (q : String) : (empty : Dict α).get? q = none := rfl

@[simp] theorem get?_filter (d : Dict α) (p : String → Bool) (q : String) :
    (d.filter fun k _ => p k).get? q = if p q then d.get? q else none := by
  simp only [get?, filter, List.find?_filter]
  by_cases hp : p q
  · rw [if_pos hp]
    congr 2
    funext e
    by_cases he : e.1 = q <;> simp [he, hp]
  · rw [if_neg hp, List.find?_eq_none.2, Option.map_none]
    intro e _
    by_cases he : e.1 = q <;> simp [he, hp]

@[simp] theorem get?_erase (d : Dict α) (k q : String) :
    (d.erase k).get? q = if k = q then none else d.get? q := by
  rw [erase, get?_filter d fun k' => k' ≠ k]
  by_cases h : k = q <;> simp [h, Ne.symm]

theorem find_of_lt {es : List (String × α)} {k : String} (h : ∀ e ∈ es, k < e.1) :
    es.find? (fun e => e.1 = k) = none := by
  rw [List.find?_eq_none]
  intro e he
  have hk := String.ne_of_lt (h e he)
  simpa using hk.symm

theorem entries_eq_of_find {xs ys : List (String × α)} (hx : xs.Pairwise fun a b => a.1 < b.1)
    (hy : ys.Pairwise fun a b => a.1 < b.1)
    (h : ∀ q, (xs.find? fun e => e.1 = q).map (·.2) = (ys.find? fun e => e.1 = q).map (·.2)) :
    xs = ys := by
  induction xs generalizing ys with
  | nil =>
    cases ys with
    | nil => rfl
    | cons b ys => simpa using h b.1
  | cons a xs ih =>
    cases ys with
    | nil => simpa using h a.1
    | cons b ys =>
      obtain ⟨ha, hx⟩ := List.pairwise_cons.1 hx
      obtain ⟨hb, hy⟩ := List.pairwise_cons.1 hy
      have hk : a.1 = b.1 := by
        rcases key_lt_or_eq_or_lt a.1 b.1 with hlt | heq | hlt
        · have h1 := find_of_lt fun e he => String.lt_trans hlt (hb e he)
          have h2 := h a.1
          simp [h1, (String.ne_of_lt hlt).symm] at h2
        · exact heq
        · have h1 := find_of_lt fun e he => String.lt_trans hlt (ha e he)
          have h2 := h b.1
          simp [h1, (String.ne_of_lt hlt).symm] at h2
      have hv : a.2 = b.2 := by simpa [hk] using h a.1
      have hr : xs = ys := by
        refine ih hx hy fun q => ?_
        by_cases hq : a.1 = q
        · rw [find_of_lt (hq ▸ ha), find_of_lt (hq ▸ hk ▸ hb)]
        · simpa [hq, hk ▸ hq] using h q
      rw [hr, show a = b from Prod.ext hk hv]

/-- A dictionary is determined by its lookups. -/
theorem ext_of_get? {a b : Dict α} (h : ∀ q, a.get? q = b.get? q) : a = b := by
  cases a
  cases b
  congr
  exact entries_eq_of_find (by assumption) (by assumption) h

theorem find_of_mem {es : List (String × α)} (h : es.Pairwise fun a b => a.1 < b.1)
    {e : String × α} (he : e ∈ es) : es.find? (fun e' => e'.1 = e.1) = some e := by
  induction es with
  | nil => simp at he
  | cons a r ih =>
    obtain ⟨ha, hr⟩ := List.pairwise_cons.1 h
    rcases List.mem_cons.1 he with rfl | he
    · simp
    · have hk : ¬a.1 = e.1 := String.ne_of_lt (ha e he)
      simp [hk, ih hr he]

/-- The entries are what the lookups find. -/
theorem mem_entries_iff {d : Dict α} {k : String} {v : α} :
    (k, v) ∈ d.entries ↔ d.get? k = some v := by
  constructor
  · intro h
    rw [get?, find_of_mem d.ascending h]
    rfl
  · intro h
    obtain ⟨e, he, rfl⟩ := Option.map_eq_some_iff.1 h
    have hk := List.find?_some he
    have hm := List.mem_of_find?_eq_some he
    simp only [decide_eq_true_eq] at hk
    rwa [← hk]

theorem get?_filter_value (d : Dict α) (p : String → α → Bool) (q : String) :
    (d.filter p).get? q = (d.get? q).filter (p q) := by
  apply Option.ext
  intro v
  rw [← mem_entries_iff, Option.filter_eq_some_iff, ← mem_entries_iff]
  exact List.mem_filter

@[simp] theorem get?_map {β : Type} (f : α → β) (d : Dict α) (q : String) :
    (d.map f).get? q = (d.get? q).map f := by
  rw [get?, get?, map, List.find?_map, Option.map_map, Option.map_map]
  rfl

@[simp] theorem size_map {β : Type} (f : α → β) (d : Dict α) : (d.map f).size = d.size :=
  List.length_map _

theorem map_insert {β : Type} (f : α → β) (d : Dict α) (k : String) (v : α) :
    (d.insert k v).map f = (d.map f).insert k (f v) := by
  apply ext_of_get?
  intro q
  simp only [get?_map, get?_insert]
  split <;> rfl

theorem map_erase {β : Type} (f : α → β) (d : Dict α) (k : String) :
    (d.erase k).map f = (d.map f).erase k := by
  apply ext_of_get?
  intro q
  simp only [get?_map, get?_erase]
  split <;> rfl

/-- The value of the last pair with a key. -/
def last? (ps : List (String × α)) (q : String) : Option α :=
  (ps.reverse.find? fun p => p.1 = q).map (·.2)

theorem last?_append (ps qs : List (String × α)) (q : String) :
    last? (ps ++ qs) q = (last? qs q).or (last? ps q) := by
  rw [last?, last?, last?, List.reverse_append, List.find?_append, Option.map_or]

theorem last?_map {β : Type} (f : α → β) (ps : List (String × α)) (q : String) :
    last? (ps.map fun p => (p.1, f p.2)) q = (last? ps q).map f := by
  rw [last?, last?, ← List.map_reverse, List.find?_map, Option.map_map, Option.map_map]
  rfl

theorem last?_eq_none_iff {ps : List (String × α)} {q : String} :
    last? ps q = none ↔ q ∉ ps.map (·.1) := by
  simp only [last?, Option.map_eq_none_iff, List.find?_eq_none, List.mem_reverse, List.mem_map,
    decide_eq_true_eq, not_exists, not_and]

theorem mem_of_last? {ps : List (String × α)} {q : String} {v : α} (h : last? ps q = some v) :
    (q, v) ∈ ps := by
  obtain ⟨p, hp, rfl⟩ := Option.map_eq_some_iff.1 h
  have hkey := List.find?_some hp
  simp only [decide_eq_true_eq] at hkey
  rw [← hkey]
  exact List.mem_reverse.1 (List.mem_of_find?_eq_some hp)

/-- The last pair with a key wins. -/
theorem get?_insertAll (d : Dict α) (ps : List (String × α)) (q : String) :
    (d.insertAll ps).get? q = (last? ps q).or (d.get? q) := by
  induction ps generalizing d with
  | nil => rfl
  | cons p ps ih =>
    refine (ih (d.insert p.1 p.2)).trans ?_
    rw [get?_insert, ← List.singleton_append, last?_append]
    cases last? ps q with
    | some v => rfl
    | none => by_cases h : p.1 = q <;> simp [last?, h]

theorem insertAll_append (d : Dict α) (ps qs : List (String × α)) :
    d.insertAll (ps ++ qs) = (d.insertAll ps).insertAll qs := List.foldl_append

theorem get?_ofList (ps : List (String × α)) (q : String) : (ofList ps).get? q = last? ps q :=
  (get?_insertAll empty ps q).trans Option.or_none

theorem entries_of_ofList {ps : List (String × α)} {e : String × α}
    (he : e ∈ (ofList ps).entries) : e ∈ ps := by
  have hget := mem_entries_iff.1 he
  rw [get?_ofList] at hget
  exact mem_of_last? hget

theorem entries_ofList_eq_nil_iff {ps : List (String × α)} :
    (ofList ps).entries = [] ↔ ps = [] := by
  constructor
  · intro hnil
    rw [List.eq_nil_iff_forall_not_mem]
    intro p hp
    have hnone : last? ps p.1 = none := by
      rw [← get?_ofList, get?, hnil]
      rfl
    exact last?_eq_none_iff.1 hnone (List.mem_map_of_mem hp)
  · rintro rfl
    rfl

/-- With keys that differ each pair is found. -/
theorem get?_insertAll_of_mem {ps : List (String × α)} (hnodup : (ps.map (·.1)).Nodup)
    {p : String × α} (hp : p ∈ ps) (d : Dict α) : (d.insertAll ps).get? p.1 = some p.2 := by
  induction ps generalizing d with
  | nil => cases hp
  | cons a ps ih =>
    rw [List.map_cons, List.nodup_cons] at hnodup
    rcases List.mem_cons.1 hp with rfl | hp
    · refine (get?_insertAll (d.insert p.1 p.2) ps p.1).trans ?_
      rw [last?_eq_none_iff.2 hnodup.1, get?_insert, if_pos rfl]
      rfl
    · exact ih hnodup.2 hp (d.insert a.1 a.2)

theorem erase_of_get?_eq_none {d : Dict α} {k : String} (h : d.get? k = none) : d.erase k = d := by
  apply ext_of_get?
  intro q
  rw [get?_erase]
  split
  · rename_i hk
    rw [← hk, h]
  · rfl

theorem mem_keys_iff {d : Dict α} {k : String} : k ∈ d.keys ↔ ∃ v, d.get? k = some v := by
  simp [keys, ← mem_entries_iff]

theorem nodup_keys (d : Dict α) : d.keys.Nodup := by
  rw [keys, List.Nodup, List.pairwise_map]
  exact d.ascending.imp String.ne_of_lt

@[simp] theorem get?_merge (a b : Dict α) (q : String) :
    (a.merge b).get? q = (b.get? q).or (a.get? q) := by
  cases h : b.get? q with
  | some v => exact get?_insertAll_of_mem b.nodup_keys (mem_entries_iff.2 h) a
  | none =>
    have hnone : last? b.entries q = none := by
      rw [last?_eq_none_iff, List.mem_map]
      rintro ⟨e, he, rfl⟩
      have hget := mem_entries_iff.1 he
      rw [h] at hget
      cases hget
    rw [merge, get?_insertAll, hnone]

/-- A dictionary is the dictionary of its entries. -/
theorem ofList_entries (d : Dict α) : ofList d.entries = d := by
  apply ext_of_get?
  intro q
  exact (get?_merge empty d q).trans (Option.or_none)

end Dict

end Telemetry
