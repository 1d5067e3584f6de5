/-!
# Cutting and joining

Cutting at every separator leaves one piece more than there are separators, so a text always has
at least one piece, and `join` puts the pieces back together.
-/

namespace Telemetry.Text

/-- The pieces between the separators, in order. -/
def cutChars (sep : Char) : List Char → List (List Char)
  | [] => [[]]
  | c :: r =>
    if c = sep then [] :: cutChars sep r
    else
      match cutChars sep r with
      | [] => [[c]]
      | p :: ps => (c :: p) :: ps

/-- The pieces with a separator between each two. -/
def joinChars (sep : Char) : List (List Char) → List Char
  | [] => []
  | [p] => p
  | p :: q :: ps => p ++ sep :: joinChars sep (q :: ps)

def cut (sep : Char) (s : String) : List String :=
  (cutChars sep s.toList).map String.ofList

def join (sep : Char) (ps : List String) : String :=
  String.ofList (joinChars sep (ps.map String.toList))

/-- Before and after the first separator. -/
def cutFirstChars (sep : Char) : List Char → Option (List Char × List Char)
  | [] => none
  | c :: r =>
    if c = sep then some ([], r)
    else (cutFirstChars sep r).map fun (a, b) => (c :: a, b)

/-- Before and after the last separator. -/
def cutLastChars (sep : Char) : List Char → Option (List Char × List Char)
  | [] => none
  | c :: r =>
    match cutLastChars sep r with
    | some (a, b) => some (c :: a, b)
    | none => if c = sep then some ([], r) else none

def cutFirst (sep : Char) (s : String) : Option (String × String) :=
  (cutFirstChars sep s.toList).map fun (a, b) => (String.ofList a, String.ofList b)

def cutLast (sep : Char) (s : String) : Option (String × String) :=
  (cutLastChars sep s.toList).map fun (a, b) => (String.ofList a, String.ofList b)

/-- What follows `lead`, if the text begins with it. -/
def afterLead : List Char → List Char → Option (List Char)
  | [], cs => some cs
  | _ :: _, [] => none
  | l :: ls, c :: cs => if l = c then afterLead ls cs else none

/-- What follows the first `n` bytes, if no character stands across that place. -/
def dropBytes? : Nat → List Char → Option (List Char)
  | 0, cs => some cs
  | _ + 1, [] => none
  | n + 1, c :: r => if c.utf8Size ≤ n + 1 then dropBytes? (n + 1 - c.utf8Size) r else none
termination_by _ cs => cs.length

/-- The first `n` bytes, if no character stands across their end. -/
def takeBytes? : Nat → List Char → Option (List Char)
  | 0, _ => some []
  | _ + 1, [] => none
  | n + 1, c :: r =>
    if c.utf8Size ≤ n + 1 then (takeBytes? (n + 1 - c.utf8Size) r).map (c :: ·) else none
termination_by _ cs => cs.length

/-- The characters from one place to another, both counted in bytes. -/
def sliceBytes? (start stop : Nat) (cs : List Char) : Option (List Char) :=
  (dropBytes? start cs).bind (takeBytes? (stop - start))

theorem cutChars_ne_nil (sep : Char) (cs : List Char) : cutChars sep cs ≠ [] := by
  cases cs with
  | nil => simp [cutChars]
  | cons c r =>
    unfold cutChars
    split
    · simp
    · split <;> simp

/-- A separator ends a piece, whatever stands on its two sides. -/
theorem cutChars_append_cons (sep : Char) (xs ys : List Char) :
    cutChars sep (xs ++ sep :: ys) = cutChars sep xs ++ cutChars sep ys := by
  induction xs with
  | nil => simp [cutChars]
  | cons c xs ih =>
    rw [List.cons_append, cutChars, cutChars, ih]
    split
    · rfl
    · cases hc : cutChars sep xs with
      | nil => exact absurd hc (cutChars_ne_nil sep xs)
      | cons p ps => rfl

theorem cutChars_of_not_mem {sep : Char} {cs : List Char} (h : sep ∉ cs) :
    cutChars sep cs = [cs] := by
  induction cs with
  | nil => rfl
  | cons c cs ih =>
    have hc : c ≠ sep := fun hc => h (hc ▸ List.mem_cons_self)
    rw [cutChars, if_neg hc, ih fun hcs => h (List.mem_cons_of_mem c hcs)]

theorem length_cutChars (sep : Char) (cs : List Char) :
    (cutChars sep cs).length = cs.count sep + 1 := by
  induction cs with
  | nil => rfl
  | cons c cs ih =>
    rw [cutChars]
    split
    · rename_i h
      rw [h, List.length_cons, ih, List.count_cons_self]
    · rename_i h
      rw [List.count_cons_of_ne h, ← ih]
      cases hc : cutChars sep cs with
      | nil => exact absurd hc (cutChars_ne_nil sep cs)
      | cons p ps => rfl

theorem joinChars_cutChars (sep : Char) (cs : List Char) : joinChars sep (cutChars sep cs) = cs := by
  induction cs with
  | nil => rfl
  | cons c r ih =>
    rw [cutChars]
    split
    · rename_i h
      cases hc : cutChars sep r with
      | nil => exact absurd hc (cutChars_ne_nil sep r)
      | cons p ps => rw [joinChars, ← hc, ih, h]; rfl
    · cases hc : cutChars sep r with
      | nil => exact absurd hc (cutChars_ne_nil sep r)
      | cons p ps =>
        rw [hc] at ih
        cases ps with
        | nil => simp only [joinChars] at ih ⊢; rw [ih]
        | cons q qs => simp only [joinChars, List.cons_append] at ih ⊢; rw [ih]

theorem not_mem_of_mem_cutChars {sep : Char} {cs p : List Char} (h : p ∈ cutChars sep cs) :
    sep ∉ p := by
  induction cs generalizing p with
  | nil =>
    rw [cutChars, List.mem_singleton] at h
    simp [h]
  | cons c r ih =>
    rw [cutChars] at h
    split at h
    · rcases List.mem_cons.1 h with rfl | h
      · simp
      · exact ih h
    · rename_i hc
      cases hr : cutChars sep r with
      | nil => exact absurd hr (cutChars_ne_nil sep r)
      | cons q qs =>
        rw [hr] at h ih
        rcases List.mem_cons.1 h with rfl | h
        · have hq := ih List.mem_cons_self
          simp [hq, Ne.symm hc]
        · exact ih (List.mem_cons_of_mem q h)

/-- Pieces without a separator come back whole. -/
theorem cutChars_joinChars {sep : Char} {ps : List (List Char)} (hne : ps ≠ [])
    (h : ∀ p ∈ ps, sep ∉ p) : cutChars sep (joinChars sep ps) = ps := by
  induction ps with
  | nil => exact absurd rfl hne
  | cons p ps ih =>
    have hp := h p List.mem_cons_self
    cases ps with
    | nil => rw [joinChars, cutChars_of_not_mem hp]
    | cons q qs =>
      have hrest := ih (List.cons_ne_nil q qs) fun p' hp' => h p' (List.mem_cons_of_mem p hp')
      rw [joinChars, cutChars_append_cons, cutChars_of_not_mem hp, hrest]
      rfl

theorem afterLead_append (lead cs : List Char) : afterLead lead (lead ++ cs) = some cs := by
  induction lead with
  | nil => cases cs <;> rfl
  | cons l ls ih => rw [List.cons_append, afterLead, if_pos rfl, ih]

/-- What stands before the first separator has none. -/
theorem cutFirstChars_append_cons {sep : Char} {before : List Char} (h : sep ∉ before)
    (after : List Char) : cutFirstChars sep (before ++ sep :: after) = some (before, after) := by
  induction before with
  | nil => exact if_pos rfl
  | cons c before ih =>
    rw [List.mem_cons, not_or] at h
    rw [List.cons_append, cutFirstChars, if_neg (Ne.symm h.1), ih h.2]
    rfl

theorem eq_append_of_cutFirstChars {sep : Char} {cs before after : List Char}
    (h : cutFirstChars sep cs = some (before, after)) :
    cs = before ++ sep :: after ∧ sep ∉ before := by
  induction cs generalizing before with
  | nil => cases h
  | cons c r ih =>
    rw [cutFirstChars] at h
    split at h
    · rename_i hc
      cases h
      exact ⟨congrArg (· :: after) hc, List.not_mem_nil⟩
    · rename_i hc
      obtain ⟨⟨a, b⟩, hrest, heq⟩ := Option.map_eq_some_iff.1 h
      cases heq
      obtain ⟨rfl, hsep⟩ := ih hrest
      exact ⟨rfl, by simp [hsep, Ne.symm hc]⟩

theorem cutFirst_eq_some_iff {sep : Char} {s before after : String} :
    cutFirst sep s = some (before, after) ↔
      s = before ++ String.singleton sep ++ after ∧ sep ∉ before.toList := by
  rw [cutFirst, Option.map_eq_some_iff]
  constructor
  · rintro ⟨⟨a, b⟩, hcut, heq⟩
    cases heq
    obtain ⟨hs, hsep⟩ := eq_append_of_cutFirstChars hcut
    refine ⟨String.toList_inj.1 ?_, by simpa using hsep⟩
    simp [hs]
  · rintro ⟨rfl, hsep⟩
    refine ⟨(before.toList, after.toList), ?_, by simp⟩
    simpa using cutFirstChars_append_cons hsep after.toList

theorem join_cut (sep : Char) (s : String) : join sep (cut sep s) = s := by
  have hmap : (cut sep s).map String.toList = cutChars sep s.toList := by
    simp [cut]
  rw [join, hmap, joinChars_cutChars, String.ofList_toList]

theorem join_cons_cons (sep : Char) (p q : String) (ps : List String) :
    join sep (p :: q :: ps) = p ++ String.singleton sep ++ join sep (q :: ps) := by
  apply String.toList_inj.1
  simp [join, joinChars]

end Telemetry.Text
