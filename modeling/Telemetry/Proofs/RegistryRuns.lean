import Telemetry.Proofs.RegistryCatalogue

/-!
# Runs of a registry

Which kind holds a name follows from the calls alone. What is created under a name stays there until
the name is removed, and a gauge until another gauge takes its place.
-/

namespace Telemetry

namespace Shelves

/-- The kind that holds a name after one more call. -/
def hold (name : String) (holder : Option InstrumentKind) : Call → Option InstrumentKind
  | .fetch d _ n => if n = name ∧ refusal n d.kind holder = none then some d.kind else holder
  | .gauge n _ => if n = name ∧ refusal n .gauge holder = none then some .gauge else holder
  | .remove n => if n = name then none else holder
  | _ => holder

/-- The kind that holds a name after these calls. -/
def holder (name : String) (calls : List Call) : Option InstrumentKind :=
  calls.foldl (hold name) none

variable {name : String} {kind : InstrumentKind}

/-- What is not created does not appear. -/
lemma foldl_hold_none {calls : List Call}
    (h : ∀ c ∈ calls, hold name none c = none) : calls.foldl (hold name) none = none := by
  induction calls with
  | nil => rfl
  | cons c calls ih =>
    obtain ⟨hhead, htail⟩ := List.forall_mem_cons.1 h
    rw [List.foldl_cons, hhead]
    exact ih htail

lemma hold_none {c : Call} (h : ∀ kind, c.creates ≠ some (name, kind)) :
    hold name none c = none := by
  cases c with
  | fetch d now n =>
    refine if_neg ?_
    rintro ⟨rfl, _⟩
    exact h d.kind rfl
  | gauge n g =>
    refine if_neg ?_
    rintro ⟨rfl, _⟩
    exact h .gauge rfl
  | remove n => exact ite_self none
  | _ => rfl

/-- A blank name is held by nothing. -/
lemma blank_of_holder {calls : List Call} (h : holder name calls = some kind) :
    Text.blank name = false := by
  rw [← Bool.not_eq_true]
  intro hblank
  have hfree (requested : InstrumentKind) (n : String) :
      ¬(n = name ∧ refusal n requested none = none) := by
    rintro ⟨rfl, hnone⟩
    rw [blank_of_refusal hnone] at hblank
    cases hblank
  have hnone : holder name calls = none := by
    apply foldl_hold_none
    intro c _
    cases c with
    | fetch d now n => exact if_neg (hfree d.kind n)
    | gauge n g => exact if_neg (hfree .gauge n)
    | remove n => exact ite_self none
    | _ => rfl
  rw [hnone] at h
  cases h

/-- A use reaches the instrument that it was handed out for. -/
def Call.used (name : String) (serial : Nat) (i : Instrument) : Call → Instrument
  | use n k u => if n = name ∧ k = serial then u.apply i else i
  | _ => i

/-- An instrument after all its uses. -/
def used (name : String) (serial : Nat) (calls : List Call) (i : Instrument) : Instrument :=
  calls.foldl (Call.used name serial) i

lemma kind_used (name : String) (serial : Nat) (i : Instrument) (c : Call) :
    (c.used name serial i).kind = i.kind := by
  cases c with
  | use n k u =>
    rw [Call.used]
    split
    · exact u.kind_apply i
    · rfl
  | _ => rfl

/-- The call leaves an instrument of this kind under the name. -/
def Call.Spares (kind : InstrumentKind) (name : String) : Call → Prop
  | remove n => n ≠ name
  | gauge n _ => n ≠ name ∨ kind ≠ .gauge
  | _ => True

end Shelves

namespace Catalogue

open Shelves (Call Use refusal kind_of_refusal hold kind_used used)

variable {c : Catalogue} {name : String} {kind : InstrumentKind}

section Lookups

lemma get?_place (c : Catalogue) (n : String) (i : Instrument) (q : String) :
    (c.place n i).entries.get? q = if n = q then some ⟨c.issued, i⟩ else c.entries.get? q :=
  Dict.get?_insert _ _ _ _

/-- What a creation does. -/
lemma create_cases (c : Catalogue) (name : String) (made : Instrument)
    (kept : Option Registration) :
    (∃ e, refusal name made.kind (c.kindOf name) = some e ∧
      c.create name made kept = (.refused e, c)) ∨
    refusal name made.kind (c.kindOf name) = none ∧
      ((∃ reg, kept = some reg ∧ c.create name made kept = (.held reg, c)) ∨
      kept = none ∧ c.create name made kept = (.held ⟨c.issued, made⟩, c.place name made)) := by
  cases hrefusal : refusal name made.kind (c.kindOf name) with
  | some e => exact .inl ⟨e, rfl, create_of_refused hrefusal kept⟩
  | none =>
    cases kept with
    | some reg => exact .inr ⟨rfl, .inl ⟨reg, rfl, create_of_kept hrefusal reg⟩⟩
    | none => exact .inr ⟨rfl, .inr ⟨rfl, create_of_free hrefusal⟩⟩

lemma get?_use (c : Catalogue) (n : String) (serial : Nat) (u : Use) (q : String) :
    (c.use n serial u).entries.get? q = (c.entries.get? q).map fun reg =>
      ⟨reg.serial, (Call.use n serial u).used q reg.serial reg.instrument⟩ := by
  unfold use
  by_cases hn : n = q
  · subst hn
    cases hget : c.entries.get? n with
    | none => exact hget
    | some reg =>
      by_cases hserial : reg.serial = serial
      · simp [hserial, Call.used]
      · simp [hserial, Ne.symm hserial, Call.used, hget]
  · cases c.entries.get? n with
    | none => simp [Call.used, hn]
    | some reg => by_cases hserial : reg.serial = serial <;> simp [hserial, Call.used, hn]

end Lookups

lemma kindOf_create (c : Catalogue) (n : String) (made : Instrument) {kept : Option Registration}
    (hkept : ∀ reg, kept = some reg → c.entries.get? n = some reg) (name : String) :
    (c.create n made kept).2.kindOf name =
      if n = name ∧ refusal n made.kind (c.kindOf name) = none then some made.kind
      else c.kindOf name := by
  rcases c.create_cases n made kept with
    ⟨e, hrefusal, hcreate⟩ | ⟨hrefusal, ⟨reg, hreg, hcreate⟩ | ⟨_, hcreate⟩⟩
  · rw [hcreate, if_neg]
    rintro ⟨rfl, hnone⟩
    rw [hrefusal] at hnone
    cases hnone
  · rw [hcreate]
    split
    · rename_i hsame
      obtain ⟨rfl, _⟩ := hsame
      rw [kindOf, hkept reg hreg, Option.map_some] at hrefusal ⊢
      rw [kind_of_refusal hrefusal]
    · rfl
  · rw [hcreate, kindOf, get?_place]
    by_cases hn : n = name
    · subst hn
      rw [if_pos rfl, if_pos ⟨rfl, hrefusal⟩]
      rfl
    · rw [if_neg hn, if_neg fun hsame => hn hsame.1]
      rfl

lemma kindOf_call (c : Catalogue) (call : Call) (name : String) :
    (c.call call).2.kindOf name = hold name (c.kindOf name) call := by
  cases call with
  | fetch d now n =>
    rw [Catalogue.call, hold, ← d.kind_make now]
    exact c.kindOf_create n (d.make now) (fun _ h => h) name
  | gauge n g => exact c.kindOf_create n (.gauge g) (fun _ h => by cases h) name
  | remove n =>
    rw [kindOf, Catalogue.call, Dict.get?_erase, hold]
    split <;> rfl
  | use n serial u =>
    have hholder : hold name (c.kindOf name) (.use n serial u) = c.kindOf name := rfl
    rw [hholder, Catalogue.call, kindOf, get?_use, Option.map_map, kindOf]
    refine congrArg (Option.map · _) (funext fun reg => ?_)
    exact kind_used name reg.serial reg.instrument (.use n serial u)
  | _ => rfl

lemma kindOf_run (c : Catalogue) (calls : List Call) (name : String) :
    (c.run calls).kindOf name = calls.foldl (hold name) (c.kindOf name) := by
  induction calls generalizing c with
  | nil => rfl
  | cons call calls ih =>
    have hrest := ih (c.call call).2
    rw [kindOf_call] at hrest
    exact hrest

lemma get?_call {call : Call} {serial : Nat} {i : Instrument}
    (hget : c.entries.get? name = some ⟨serial, i⟩) (hspares : call.Spares i.kind name) :
    (c.call call).2.entries.get? name = some ⟨serial, call.used name serial i⟩ := by
  cases call with
  | fetch d now n =>
    rw [Catalogue.call]
    rcases c.create_cases n (d.make now) (c.entries.get? n) with
      ⟨e, _, hcreate⟩ | ⟨_, ⟨reg, _, hcreate⟩ | ⟨hfree, hcreate⟩⟩
    · rw [hcreate]
      exact hget
    · rw [hcreate]
      exact hget
    · rw [hcreate, get?_place, if_neg]
      · exact hget
      · rintro rfl
        rw [hfree] at hget
        cases hget
  | gauge n g =>
    rw [Catalogue.call]
    rcases c.create_cases n (.gauge g) none with
      ⟨e, _, hcreate⟩ | ⟨hrefusal, ⟨reg, hreg, _⟩ | ⟨_, hcreate⟩⟩
    · rw [hcreate]
      exact hget
    · cases hreg
    · rw [hcreate, get?_place, if_neg]
      · exact hget
      · rintro rfl
        rw [kindOf, hget] at hrefusal
        exact hspares.elim (absurd rfl) (absurd (kind_of_refusal hrefusal))
  | remove n =>
    rw [Catalogue.call, Dict.get?_erase, if_neg hspares]
    exact hget
  | use n k u => rw [Catalogue.call, get?_use, hget, Option.map_some]
  | _ => exact hget

lemma get?_run {calls : List Call} {serial : Nat} {i : Instrument}
    (hget : c.entries.get? name = some ⟨serial, i⟩)
    (hspares : ∀ call ∈ calls, call.Spares i.kind name) :
    (c.run calls).entries.get? name = some ⟨serial, used name serial calls i⟩ := by
  induction calls generalizing c i with
  | nil => exact hget
  | cons call calls ih =>
    obtain ⟨hhead, htail⟩ := List.forall_mem_cons.1 hspares
    refine ih (get?_call hget hhead) ?_
    rw [kind_used]
    exact htail

/-- All serial numbers were given out. -/
def Numbered (c : Catalogue) : Prop :=
  ∀ name reg, c.entries.get? name = some reg → reg.serial < c.issued

namespace Numbered

lemma create (h : c.Numbered) (name : String) (made : Instrument) {kept : Option Registration}
    (hkept : ∀ reg, kept = some reg → c.entries.get? name = some reg) :
    (c.create name made kept).2.Numbered ∧ c.issued ≤ (c.create name made kept).2.issued ∧
      ∀ reg, (c.create name made kept).1 = .held reg →
        reg.serial < (c.create name made kept).2.issued := by
  rcases c.create_cases name made kept with
    ⟨e, _, hcreate⟩ | ⟨_, ⟨reg, hreg, hcreate⟩ | ⟨_, hcreate⟩⟩
  · rw [hcreate]
    refine ⟨h, Nat.le_refl _, ?_⟩
    intro reg heq
    cases heq
  · rw [hcreate]
    refine ⟨h, Nat.le_refl _, ?_⟩
    intro other heq
    cases heq
    exact h name reg (hkept reg hreg)
  · rw [hcreate]
    refine ⟨?_, Nat.le_succ _, ?_⟩
    · intro q reg hget
      rw [get?_place] at hget
      split at hget
      · cases hget
        exact Nat.lt_succ_self _
      · exact Nat.lt_succ_of_lt (h q reg hget)
    · intro reg heq
      cases heq
      exact Nat.lt_succ_self _

lemma use (h : c.Numbered) (n : String) (serial : Nat) (u : Use) :
    (c.use n serial u).Numbered ∧ (c.use n serial u).issued = c.issued := by
  have hissued : (c.use n serial u).issued = c.issued := by
    unfold Catalogue.use
    split
    · split <;> rfl
    · rfl
  refine ⟨?_, hissued⟩
  intro q reg hget
  rw [get?_use] at hget
  obtain ⟨old, hold, rfl⟩ := Option.map_eq_some_iff.1 hget
  rw [hissued]
  exact h q old hold

lemma call (h : c.Numbered) (call : Call) :
    (c.call call).2.Numbered ∧ c.issued ≤ (c.call call).2.issued ∧
      ∀ reg, (c.call call).1 = .held reg → reg.serial < (c.call call).2.issued := by
  cases call with
  | fetch d now n => exact h.create n (d.make now) fun _ hget => hget
  | gauge n g => exact h.create n (.gauge g) fun _ hget => by cases hget
  | remove n =>
    refine ⟨?_, Nat.le_refl _, ?_⟩
    · intro q reg hget
      rw [Catalogue.call, Dict.get?_erase] at hget
      split at hget
      · cases hget
      · exact h q reg hget
    · intro reg heq
      cases heq
  | use n serial u =>
    obtain ⟨hnumbered, hissued⟩ := h.use n serial u
    refine ⟨hnumbered, Nat.le_of_eq hissued.symm, ?_⟩
    intro reg heq
    cases heq
  | _ =>
    refine ⟨h, Nat.le_refl _, ?_⟩
    intro reg heq
    cases heq

lemma run (h : c.Numbered) (calls : List Call) :
    c.issued ≤ (c.run calls).issued ∧
      ∀ reg, .held reg ∈ c.answers calls → reg.serial < (c.run calls).issued := by
  induction calls generalizing c with
  | nil => exact ⟨Nat.le_refl _, nofun⟩
  | cons call calls ih =>
    obtain ⟨hnumbered, hle, hheld⟩ := h.call call
    obtain ⟨hmono, hlater⟩ := ih hnumbered
    refine ⟨Nat.le_trans hle hmono, ?_⟩
    intro reg hmem
    rcases List.mem_cons.1 hmem with heq | hmem
    · exact Nat.lt_of_lt_of_le (hheld reg heq.symm) hmono
    · exact hlater reg hmem

end Numbered

end Catalogue

end Telemetry
