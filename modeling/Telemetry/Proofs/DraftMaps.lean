import Mathlib.Data.List.Basic
import Telemetry.Proofs.ByteOrder
import Telemetry.Proofs.FieldTokens

/-!
# What calls on a draft leave

A draft is its name, its timestamp and what its calls gave last for each key, where a value that
cannot be written does not count as given. So the line of a record depends on nothing else, and
calls with keys of their own may come in any order.
-/

namespace Telemetry

namespace Dict

variable {α : Type} {ps qs : List (String × α)}

/-- Lists with keys of their own may change places. -/
lemma last?_append_comm (hapart : (ps.map (·.1)).Disjoint (qs.map (·.1))) (q : String) :
    last? (ps ++ qs) q = last? (qs ++ ps) q := by
  rw [last?_append, last?_append]
  by_cases hp : q ∈ ps.map (·.1)
  · rw [last?_eq_none_iff.2 (hapart hp), Option.none_or, Option.or_none]
  · rw [last?_eq_none_iff.2 hp, Option.none_or, Option.or_none]

lemma last?_flatMap_of_perm {γ : Type} {f : γ → List (String × α)} {xs ys : List γ}
    (hperm : xs.Perm ys)
    (hapart : xs.Pairwise fun a b => ((f a).map (·.1)).Disjoint ((f b).map (·.1))) (q : String) :
    last? (xs.flatMap f) q = last? (ys.flatMap f) q := by
  induction hperm with
  | nil => rfl
  | cons x _ ih =>
    rw [List.flatMap_cons, List.flatMap_cons, last?_append, last?_append, ih hapart.of_cons]
  | swap x y zs =>
    have hyx : ((f y).map (·.1)).Disjoint ((f x).map (·.1)) :=
      List.rel_of_pairwise_cons hapart List.mem_cons_self
    simp only [List.flatMap_cons, ← List.append_assoc]
    rw [last?_append (f y ++ f x), last?_append (f x ++ f y), last?_append_comm hyx]
  | trans hfirst _ ih₁ ih₂ =>
    exact (ih₁ hapart).trans (ih₂ (hapart.perm hfirst fun h _ hb ha => h ha hb))

end Dict

/-- The characters of a line with these parts. -/
def Line.parts (name : String) (tags fields : List (String × String)) (time : Int) : List Char :=
  escapeChars separators name.toList ++ (tagChars tags ++ [' ']) ++ (fieldChars fields ++ [' ']) ++
    Text.intDigits time

/-- What a lookup finds, by ascending bytes of the keys. -/
structure Lists (lookup : String → Option String) (ps : List (String × String)) : Prop where
  ascending : ps.Pairwise fun a b => Text.bytes a.1 < Text.bytes b.1
  mem_iff : ∀ k v, (k, v) ∈ ps ↔ lookup k = some v

lemma lists_entries {lookup : String → Option String} {d : Dict String}
    (h : ∀ k, d.get? k = lookup k) : Lists lookup d.entries :=
  ⟨d.ascending.imp Text.bytes_lt, fun k _ => by rw [Dict.mem_entries_iff, h k]⟩

namespace Draft

namespace Call

/-- The tags that a call gives, in their order. -/
def tagPairs : Call → List (String × String)
  | tag k v => [(k, v)]
  | tags ps => ps
  | field .. => []

/-- The value that a call gives, if it can be written. -/
def values : Call → List (String × FieldValue)
  | field k v => if v.encodable then [(k, v)] else []
  | _ => []

/-- No tag and no field is given by both calls. -/
def Apart (a b : Call) : Prop :=
  (a.tagPairs.map (·.1)).Disjoint (b.tagPairs.map (·.1)) ∧
    (a.values.map (·.1)).Disjoint (b.values.map (·.1))

end Call

/-- All tags that the calls give, in their order. -/
def givenTags (calls : List Call) : List (String × String) :=
  calls.flatMap Call.tagPairs

/-- All values that the calls give and that can be written, in their order. -/
def givenValues (calls : List Call) : List (String × FieldValue) :=
  calls.flatMap Call.values

def lastTag? (calls : List Call) (k : String) : Option String :=
  Dict.last? (givenTags calls) k

def lastToken? (calls : List Call) (k : String) : Option String :=
  (Dict.last? (givenValues calls) k).map FieldValue.token

/-- Both leave the same tags and the same fields. -/
structure SameMaps (calls other : List Call) : Prop where
  tags : ∀ k, lastTag? calls k = lastTag? other k
  fields : ∀ k, lastToken? calls k = lastToken? other k

def ofCalls (name : String) (timestamp : Int64) (calls : List Call) : Draft :=
  (new name timestamp).applyAll calls

/-- The line of the record that the draft becomes. -/
def line (d : Draft) (precision : TimeUnit) : Except RecordError String :=
  d.build.map (Line.write precision)

lemma mem_givenValues_iff {calls : List Call} {k : String} {v : FieldValue} :
    (k, v) ∈ givenValues calls ↔ .field k v ∈ calls ∧ v.encodable = true := by
  rw [givenValues, List.mem_flatMap]
  constructor
  · rintro ⟨call, hcall, hmem⟩
    cases call with
    | tag q w => cases hmem
    | tags ps => cases hmem
    | field q w =>
      rw [Call.values] at hmem
      split at hmem
      · rename_i hw
        cases List.mem_singleton.1 hmem
        exact ⟨hcall, hw⟩
      · cases hmem
  · rintro ⟨hcall, hv⟩
    exact ⟨_, hcall, by rw [Call.values, if_pos hv]; exact List.mem_singleton.2 rfl⟩

/-- What a draft is after more tags and values. -/
def extend (d : Draft) (tags : List (String × String)) (values : List (String × FieldValue)) :
    Draft :=
  { d with
    tags := d.tags.insertAll tags
    fields := d.fields.insertAll (values.map fun p => (p.1, p.2.token)) }

lemma apply_eq_extend (d : Draft) (call : Call) : d.apply call = d.extend call.tagPairs call.values := by
  cases call with
  | tag k v => rfl
  | tags ps => rfl
  | field k v =>
    rw [apply, field, Call.values]
    split <;> rfl

lemma applyAll_eq_extend (d : Draft) (calls : List Call) :
    d.applyAll calls = d.extend (givenTags calls) (givenValues calls) := by
  induction calls generalizing d with
  | nil => rfl
  | cons call calls ih =>
    refine (ih (d.apply call)).trans ?_
    rw [apply_eq_extend, givenTags, givenTags, givenValues, givenValues, List.flatMap_cons,
      List.flatMap_cons, extend, extend, extend, List.map_append, Dict.insertAll_append,
      Dict.insertAll_append]

/-- That the name is empty is reported first. -/
lemma build_eq_emptyName_iff {d : Draft} : d.build = .error .emptyName ↔ d.name = "" := by
  unfold build
  by_cases hname : d.name = ""
  · simp [hname]
  · by_cases hfields : d.fields.isEmpty = true <;> simp [hname, hfields]

lemma build_eq_noFields_iff {d : Draft} {n : String} :
    d.build = .error (.noFields n) ↔ n = d.name ∧ d.name ≠ "" ∧ d.fields.entries = [] := by
  unfold build
  by_cases hname : d.name = ""
  · simp [hname]
  · rw [if_neg (by rwa [String.isEmpty_iff])]
    by_cases hfields : d.fields.entries = []
    · simp only [Dict.isEmpty, hfields, List.isEmpty_nil, if_true, Except.error.injEq,
        RecordError.noFields.injEq, ne_eq, hname, not_false_eq_true, and_true]
      exact eq_comm
    · simp [Dict.isEmpty, hfields]

section Calls

variable (name : String) (timestamp : Int64) (calls : List Call)

lemma ofCalls_eq :
    ofCalls name timestamp calls =
      ⟨name, timestamp, .ofList (givenTags calls),
        .ofList ((givenValues calls).map fun p => (p.1, p.2.token))⟩ :=
  applyAll_eq_extend (new name timestamp) calls

@[simp] lemma name_ofCalls : (ofCalls name timestamp calls).name = name := by
  rw [ofCalls_eq]

@[simp] lemma timestamp_ofCalls : (ofCalls name timestamp calls).timestamp = timestamp := by
  rw [ofCalls_eq]

lemma get?_tags_ofCalls (k : String) :
    (ofCalls name timestamp calls).tags.get? k = lastTag? calls k := by
  rw [ofCalls_eq]
  exact Dict.get?_ofList (givenTags calls) k

lemma get?_fields_ofCalls (k : String) :
    (ofCalls name timestamp calls).fields.get? k = lastToken? calls k := by
  rw [ofCalls_eq]
  exact (Dict.get?_ofList _ k).trans (Dict.last?_map FieldValue.token (givenValues calls) k)

lemma fields_ofCalls_eq_nil_iff :
    (ofCalls name timestamp calls).fields.entries = [] ↔
      ∀ k v, .field k v ∈ calls → v.encodable = false := by
  rw [ofCalls_eq, Dict.entries_ofList_eq_nil_iff, List.map_eq_nil_iff,
    List.eq_nil_iff_forall_not_mem]
  constructor
  · intro hnone k v hcall
    rw [← Bool.not_eq_true]
    exact fun hv => hnone (k, v) (mem_givenValues_iff.2 ⟨hcall, hv⟩)
  · intro hnone p hp
    obtain ⟨hcall, hv⟩ := mem_givenValues_iff.1 hp
    exact Bool.false_ne_true ((hnone p.1 p.2 hcall).symm.trans hv)

/-- A draft is what its calls gave last, and so are its record and its line. -/
structure KeepsLast : Prop where
  tags : ∀ k, (ofCalls name timestamp calls).tags.get? k = lastTag? calls k
  fields : ∀ k, (ofCalls name timestamp calls).fields.get? k = lastToken? calls k
  tokens : ∀ k t, (ofCalls name timestamp calls).fields.get? k = some t →
    ∃ v, .field k v ∈ calls ∧ v.encodable = true ∧ v.token = t ∧ v.WrittenAs t.toList
  ok_iff : ∀ r, (ofCalls name timestamp calls).build = .ok r ↔
    name ≠ "" ∧ (∃ k v, .field k v ∈ calls ∧ v.encodable = true) ∧
      r = ⟨name, (ofCalls name timestamp calls).tags, (ofCalls name timestamp calls).fields,
        timestamp⟩
  emptyName_iff : (ofCalls name timestamp calls).build = .error .emptyName ↔ name = ""
  noFields_iff : ∀ n, (ofCalls name timestamp calls).build = .error (.noFields n) ↔
    n = name ∧ name ≠ "" ∧ ∀ k v, .field k v ∈ calls → v.encodable = false
  line : ∀ r precision, (ofCalls name timestamp calls).build = .ok r →
    ∃ tags fields, Lists (lastTag? calls) tags ∧ Lists (lastToken? calls) fields ∧
      (Line.write precision r).toList =
        Line.parts name tags fields (precision.convertMillis timestamp).toInt

variable {name timestamp calls} in
lemma token_ofCalls {k t : String} (ht : (ofCalls name timestamp calls).fields.get? k = some t) :
    ∃ v, .field k v ∈ calls ∧ v.encodable = true ∧ v.token = t ∧ v.WrittenAs t.toList := by
  rw [get?_fields_ofCalls] at ht
  obtain ⟨v, hlast, rfl⟩ := Option.map_eq_some_iff.1 ht
  obtain ⟨hcall, hv⟩ := mem_givenValues_iff.1 (Dict.mem_of_last? hlast)
  exact ⟨v, hcall, hv, rfl, v.writtenAs_token hv⟩

lemma keepsLast : KeepsLast name timestamp calls := by
  have htags := get?_tags_ofCalls name timestamp calls
  have hfields := get?_fields_ofCalls name timestamp calls
  have hnil := fields_ofCalls_eq_nil_iff name timestamp calls
  have hgiven : (∃ k v, .field k v ∈ calls ∧ v.encodable = true) ↔
      (ofCalls name timestamp calls).fields.entries ≠ [] := by
    rw [Ne, hnil]
    simp only [not_forall, Bool.not_eq_false, exists_prop]
  refine ⟨htags, hfields, fun k t => token_ofCalls, fun r => ?_, ?_, fun n => ?_, ?_⟩
  · rw [build_eq_ok_iff, hgiven, name_ofCalls, timestamp_ofCalls]
  · rw [build_eq_emptyName_iff, name_ofCalls]
  · rw [build_eq_noFields_iff, hnil, name_ofCalls]
  · intro r precision hr
    obtain ⟨_, _, rfl⟩ := build_eq_ok_iff.1 hr
    refine ⟨_, _, lists_entries htags, lists_entries hfields, ?_⟩
    rw [Line.toList_write, name_ofCalls, timestamp_ofCalls, Line.parts]

variable {calls} {other : List Call}

lemma ofCalls_congr (h : SameMaps calls other) :
    ofCalls name timestamp calls = ofCalls name timestamp other := by
  have htags : (ofCalls name timestamp calls).tags = (ofCalls name timestamp other).tags := by
    apply Dict.ext_of_get?
    intro k
    rw [get?_tags_ofCalls, get?_tags_ofCalls, h.tags]
  have hfields : (ofCalls name timestamp calls).fields = (ofCalls name timestamp other).fields := by
    apply Dict.ext_of_get?
    intro k
    rw [get?_fields_ofCalls, get?_fields_ofCalls, h.fields]
  rw [ofCalls_eq, ofCalls_eq] at htags hfields ⊢
  dsimp only at htags hfields
  rw [htags, hfields]

omit name timestamp in
lemma sameMaps_of_perm (hperm : calls.Perm other) (hapart : calls.Pairwise Call.Apart) :
    SameMaps calls other where
  tags := Dict.last?_flatMap_of_perm hperm (hapart.imp And.left)
  fields k := congrArg (Option.map FieldValue.token)
    (Dict.last?_flatMap_of_perm hperm (hapart.imp And.right) k)

end Calls

/-- The last call for a key wins, and the line depends on nothing but what is left. -/
theorem line_of_last_calls (name : String) (timestamp : Int64) (calls : List Call) :
    KeepsLast name timestamp calls ∧
    ∀ other precision,
      (SameMaps calls other →
        (ofCalls name timestamp calls).line precision =
          (ofCalls name timestamp other).line precision) ∧
      (calls.Perm other → calls.Pairwise Call.Apart →
        (ofCalls name timestamp calls).line precision =
          (ofCalls name timestamp other).line precision) := by
  refine ⟨keepsLast name timestamp calls, fun other precision => ⟨fun h => ?_, fun hp ha => ?_⟩⟩
  · rw [ofCalls_congr name timestamp h]
  · rw [ofCalls_congr name timestamp (sameMaps_of_perm hp ha)]

/-- A tag given twice, and a value that cannot be written after one that can. -/
def loads : List Call :=
  [.tag "host" "a", .field "load" (.float 0.5), .tag "host" "b", .field "load" (.float (0 / 0)),
    .field "up" (.boolean true)]

/-- What is left of them. -/
def leftLoads : List Call :=
  [.tag "host" "b", .field "load" (.float 0.5), .field "up" (.boolean true)]

/-- The first calls leave what the second give, and these may be made from the last to the first. -/
theorem line_of_last_calls_loads :
    (ofCalls "cpu" 7 loads).line .milliseconds = .ok "cpu,host=b load=0.5,up=true 7" ∧
    (ofCalls "cpu" 7 leftLoads).line .milliseconds = .ok "cpu,host=b load=0.5,up=true 7" ∧
    (ofCalls "cpu" 7 leftLoads.reverse).line .milliseconds = .ok "cpu,host=b load=0.5,up=true 7" ∧
    (∃ v, .field "load" v ∈ loads ∧ v.encodable = true ∧ v.token = "0.5" ∧
      v.WrittenAs "0.5".toList) ∧
    ∃ r tags fields, (ofCalls "cpu" 7 loads).build = .ok r ∧ Lists (lastTag? loads) tags ∧
      Lists (lastToken? loads) fields ∧
      (Line.write .seconds r).toList = Line.parts "cpu" tags fields 0 := by
  have hhalf : FieldValue.encodable (.float 0.5) = true := by decide +kernel
  have hnan : FieldValue.encodable (.float (0 / 0)) = false := by decide +kernel
  have hline : (ofCalls "cpu" 7 loads).line .milliseconds =
      .ok "cpu,host=b load=0.5,up=true 7" := by decide +kernel
  have hsame : SameMaps loads leftLoads := by
    constructor
    · intro k
      by_cases hk : "host" = k <;>
        simp [lastTag?, givenTags, loads, leftLoads, Call.tagPairs, Dict.last?, hk]
    · intro k
      simp [lastToken?, givenValues, loads, leftLoads, Call.values, hhalf, hnan]
  have hapart : leftLoads.Pairwise Call.Apart := by
    simp [leftLoads, Call.Apart, Call.tagPairs, Call.values, hhalf]
  have hleft := ((line_of_last_calls "cpu" 7 loads).2 leftLoads .milliseconds).1 hsame
  have hreverse := ((line_of_last_calls "cpu" 7 leftLoads).2 _ .milliseconds).2
    (List.reverse_perm leftLoads).symm hapart
  have hload : (ofCalls "cpu" 7 loads).fields.get? "load" = some "0.5" := by decide +kernel
  obtain ⟨r, hr⟩ : ∃ r, (ofCalls "cpu" 7 loads).build = .ok r := ⟨_, rfl⟩
  obtain ⟨tags, fields, htags, hfields, hparts⟩ :=
    (line_of_last_calls "cpu" 7 loads).1.line r .seconds hr
  exact ⟨hline, hleft ▸ hline, hreverse ▸ hleft ▸ hline,
    (line_of_last_calls "cpu" 7 loads).1.tokens "load" "0.5" hload,
    r, tags, fields, hr, htags, hfields, hparts⟩

end Draft

end Telemetry
