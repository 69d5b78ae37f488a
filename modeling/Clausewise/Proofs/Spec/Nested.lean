import Clausewise.Combinator
import Clausewise.Match.Test
import Clausewise.Proofs.Query.Path
import Clausewise.Proofs.Spec.Unfolding
import Clausewise.Proofs.Value.Entries

/-! Mapping patterns nested along a path of keys, and the query for the same path. Both test what the path leads to, but
where it leads nowhere the pattern refuses and the query goes on with the loose absence. What is assumed of queries is
that dotted paths are among them and go on field by field. -/
namespace Clausewise

namespace Value
variable {v w : Value} {k : String} {ks : List String} {levels : Nat}

/-- The values that JSON texts write: absences, truth values, numbers, texts, and lists and mappings of such values,
with texts for keys. -/
inductive Json : Value → Prop
  | null : Json null
  | bool (b : Bool) : Json (bool b)
  | number (n : Number) : Json (number n)
  | text (s : String) : Json (text s)
  | list {items : List Value} : (∀ v ∈ items, Json v) → Json (list items)
  | mapping {fields : List (String × Value)} : (∀ f ∈ fields, Json f.2) → Json (plainMapping (named fields))

/-- The value at the end of a path, if every step of it is a plain mapping that holds the key. -/
def at? : Value → List String → Option Value
  | v, [] => some v
  | mapping .plain entries, k :: ks => (lookup entries (text k)).bind fun w => at? w ks
  | _, _ :: _ => none

/-- The mapping specs nested along a path, with a spec at its end. -/
def nested (ks : List String) (spec : Value) : Value := ks.foldr (fun k inner => plainMapping [(text k, inner)]) spec

theorem Json.at?_cons (h : Json v) (k : String) (ks : List String) :
    v.at? (k :: ks) = (v.entry? (.text k)).bind fun w => w.at? ks := by
  cases h <;> rfl

/-- Only mappings have something under a text, and that is a value of the same sort. -/
theorem Json.of_entry? (h : Json v) (hw : v.entry? (.text k) = some w) : v.isObject = true ∧ Json w := by
  cases h with
  | null | bool | number | text | list => cases hw
  | mapping hfields =>
    obtain ⟨e, he, rfl⟩ := Option.map_eq_some_iff.mp hw
    obtain ⟨f, hf, rfl⟩ := List.mem_map.mp (List.mem_of_find?_eq_some he)
    exact ⟨rfl, hfields f hf⟩

theorem Json.withheld? (h : Json v) : v.withheld? = none := by
  cases h <;> rfl

theorem EndsWithin.of_nested {spec : Value} (h : (nested ks spec).EndsWithin levels) : spec.EndsWithin levels := by
  induction ks generalizing levels with
  | nil => exact h
  | cons k ks ih =>
    obtain ⟨fewer, rfl, hinside⟩ := h.exists_fewer
    exact (ih (hinside _ (List.mem_singleton.mpr rfl))).mono (Nat.le_succ fewer)

end Value

namespace Query
open Value QueryToken
variable {read : String → Except Failure Unit} {select : String → Bool → Value → Except Failure Value}
  {ks : List String} {k : String} {v : Value}

/-- What is assumed of queries: how they are read, and what they select from JSON values. -/
structure FollowsPaths (read : String → Except Failure Unit) (select : String → Bool → Value → Except Failure Value) :
    Prop where
  /-- Plain names with dots between them are a query. -/
  reads (ks : List String) : ks ≠ [] → (∀ k ∈ ks, isName k = true) → read (".".intercalate ks) = .ok ()
  /-- A path goes on with the rest of it at what its first name selects. -/
  stepwise (k : String) (ks : List String) (extended : Bool) (v : Value) : ks ≠ [] →
    (∀ l ∈ k :: ks, isName l = true) → Json v →
      select (".".intercalate (k :: ks)) extended v = (select k extended v).bind (select (".".intercalate ks) extended)
  /-- A field of a mapping is its entry, or the loose absence. -/
  entry (k : String) (extended : Bool) (fields : List (String × Value)) : isName k = true →
    Json (plainMapping (named fields)) →
      select k extended (plainMapping (named fields)) = .ok ((lookup (named fields) (.text k)).getD null)
  /-- A field of anything else is the loose absence. -/
  other (k : String) (extended : Bool) (v : Value) : isName k = true → Json v →
    (∀ fields, v ≠ plainMapping (named fields)) → select k extended v = .ok null

namespace FollowsPaths

/-- One name selects the entry under it, or else the loose absence. -/
theorem select_name (h : FollowsPaths read select) (hk : isName k = true) (extended : Bool) (hv : Json v) :
    select k extended v = .ok ((v.entry? (.text k)).getD null) := by
  cases hv with
  | null | bool | number | text | list => exact h.other k extended _ hk (by constructor <;> assumption) nofun
  | mapping hfields => exact h.entry k extended _ hk (.mapping hfields)

/-- A path selects what is at its end, or else the loose absence. -/
theorem select_path (h : FollowsPaths read select) (hks : ks ≠ []) (hnames : ∀ k ∈ ks, isName k = true)
    (extended : Bool) (hv : Json v) : select (".".intercalate ks) extended v = .ok ((v.at? ks).getD null) := by
  induction ks generalizing v with
  | nil => exact absurd rfl hks
  | cons k ks ih =>
    obtain ⟨hk, hrest⟩ := List.forall_mem_cons.mp hnames
    have hname := h.select_name hk extended hv
    rw [hv.at?_cons]
    cases ks with
    | nil =>
      refine hname.trans ?_
      cases v.entry? (.text k) <;> rfl
    | cons l ks =>
      rw [h.stepwise k (l :: ks) extended v nofun hnames hv, hname]
      cases hentry : v.entry? (.text k) with
      | none =>
        -- Where the first step leads nowhere, neither do the others from the loose absence.
        exact ih nofun hrest .null
      | some w => exact ih nofun hrest (hv.of_entry? hentry).2

end FollowsPaths

theorem select_intercalate (hk : isName k = true) (hks : ∀ k ∈ ks, isName k = true) (extended : Bool) (v : Value) :
    Query.select (".".intercalate (k :: ks)) extended v = .ok (ks.foldl fieldOf (fieldOf v k)) := by
  rw [Query.select, ofText_intercalate hk hks]
  exact (evaluate_follow extended (.field k) ks v).trans (by rw [evaluate]; rfl)

theorem select_of_isName (hk : isName k = true) (extended : Bool) (v : Value) :
    Query.select k extended v = .ok (fieldOf v k) :=
  select_intercalate hk (List.forall_mem_nil _) extended v

/-- The queries that are read and evaluated here are such queries. -/
theorem followsPaths : FollowsPaths Query.check Query.select where
  reads ks hks hnames := by
    cases ks with
    | nil => exact absurd rfl hks
    | cons k ks =>
      obtain ⟨hk, hks⟩ := List.forall_mem_cons.mp hnames
      rw [Query.check, ofText_intercalate hk hks]
      rfl
  stepwise k ks extended v hks hnames _ := by
    obtain ⟨hk, hrest⟩ := List.forall_mem_cons.mp hnames
    rw [select_of_isName hk, select_intercalate hk hrest]
    cases ks with
    | nil => exact absurd rfl hks
    | cons l ks =>
      obtain ⟨hl, hks⟩ := List.forall_mem_cons.mp hrest
      exact (select_intercalate hl hks extended _).symm
  entry k extended fields hk _ := select_of_isName hk extended _
  other k extended v hk hv hother := by
    rw [select_of_isName hk]
    cases hv with
    | null | bool | number | text | list => rfl
    | mapping hfields => exact absurd rfl (hother _)

end Query

namespace Matcher
open Value
variable {call : Caller} {v w k : Value} {m : Matcher}

/-- The mapping tests nested along a path, with a test at its end. -/
def nested (ks : List String) (m : Matcher) : Matcher := ks.foldr (fun k inner => mapping [(.text k, inner)]) m

theorem ofSpec_nested (limit : Value) (ks : List String) (spec : Value) :
    ofSpec limit (Value.nested ks spec) = nested ks (ofSpec limit spec) := by
  induction ks with
  | nil => rfl
  | cons k ks ih =>
    rw [Value.nested, List.foldr_cons, ← Value.nested, ofSpec, ofFields, ofFields, ih]
    rfl

/-- A test of one field is the test of what is under its key. -/
theorem test_mapping_singleton (hgives : v.withheld? = none) (hobject : v.isObject = true) (hk : v.entry? k = some w)
    (m : Matcher) :
    (mapping [(k, m)]).test call v = m.test call w := by
  have hcount : ¬ v.entryCount < 1 := by
    have hdiffer : KeysDiffer [(k, null)] := List.pairwise_singleton _ _
    exact Nat.not_lt.mpr (hdiffer.length_le_entryCount (List.forall_mem_singleton.mpr ⟨w, hk⟩))
  have hfields : testFields call [(k, m)] v = m.test call w := by
    rw [testFields, hk]
    simp only [testFields, Outcome.bind_eq_andThen, Outcome.pure_eq_ok, Outcome.andThen_ite_ok]
  rw [test, hgives, hobject, hfields, List.length_singleton]
  simp [hcount]

theorem test_mapping_singleton_of_entry?_eq_none (hgives : v.withheld? = none) (hk : v.entry? k = none) (m : Matcher) :
    (mapping [(k, m)]).test call v = .ok false := by
  rw [test, hgives, testFields, hk]
  exact ite_self _

/-- Nested mapping tests test what is at the end of the path, and refuse where it leads nowhere. -/
theorem test_nested (hv : Json v) (call : Caller) (ks : List String) (m : Matcher) :
    (nested ks m).test call v =
      match v.at? ks with
      | some w => m.test call w
      | none => .ok false := by
  induction ks generalizing v with
  | nil => rfl
  | cons k ks ih =>
    rw [nested, List.foldr_cons, ← nested, hv.at?_cons]
    cases hentry : v.entry? (.text k) with
    | none => exact test_mapping_singleton_of_entry?_eq_none hv.withheld? hentry _
    | some w =>
      obtain ⟨hobject, hw⟩ := hv.of_entry? hentry
      rw [test_mapping_singleton hv.withheld? hobject hentry, ih hw]
      rfl

end Matcher

namespace Registry
open Matcher Value
variable {limit spec : Value} {maxDepth : Int} {ks : List String} {p : Matcher}

/-- That the query for a path and the mapping pattern nested along it agree on a value: both test what the path leads
to, by the same inner test. -/
structure PathAgrees (call : Caller) (v : Value) (ks : List String) (q p inner : Matcher) : Prop where
  /-- Where the path leads nowhere, the query tests the loose absence. -/
  query : q.test call v = inner.test call ((v.at? ks).getD null)
  /-- Where the path leads nowhere, the pattern refuses. -/
  pattern : p.test call v =
    match v.at? ks with
    | some w => inner.test call w
    | none => .ok false
  /-- The pattern matches where the whole path exists and the query matches. -/
  pattern_iff : (p.test call v).result = .ok true ↔ (∃ w, v.at? ks = some w) ∧ (q.test call v).result = .ok true

/-- If the mapping pattern nested along a path of plain names compiles, so do the spec at its end and the query for the
path, and on JSON values the pattern tests what the query tests, except that it refuses where the path leads nowhere. -/
theorem query_agrees_with_nested {read : String → Except Failure Unit} {call : Caller}
    (hpaths : Query.FollowsPaths read call.select) (hks : ks ≠ []) (hnames : ∀ k ∈ ks, QueryToken.isName k = true)
    (hcompile : ((builtIn limit maxDepth).compile (Value.nested ks spec)).result = .ok p) (extended : Bool) :
    ∃ inner q, ((builtIn limit maxDepth).compile spec).result = .ok inner ∧
      ((builtIn limit maxDepth).queryBy read (".".intercalate ks) spec extended).result = .ok q ∧
      ∀ v, Json v → PathAgrees call v ks q p inner := by
  obtain ⟨hends, rfl⟩ := eq_ofSpec_of_compileWithin hcompile
  have hspec : ((builtIn limit maxDepth).compile spec).result = .ok (.ofSpec limit spec) :=
    result_compileWithin_of_endsWithin limit maxDepth 0 hends.of_nested
  refine ⟨_, .query (".".intercalate ks) extended (.ofSpec limit spec), hspec, ?_, ?_⟩
  · rw [queryBy, Outcome.bind_eq_andThen, Outcome.result_andThen, hspec, hpaths.reads ks hks hnames]
    rfl
  · intro v hv
    have hquery : (Matcher.query (".".intercalate ks) extended (.ofSpec limit spec)).test call v =
        (Matcher.ofSpec limit spec).test call ((v.at? ks).getD null) := by
      rw [Matcher.test, hpaths.select_path hks hnames extended hv]
      rfl
    have hpattern := test_nested hv call ks (.ofSpec limit spec)
    rw [← ofSpec_nested] at hpattern
    refine ⟨hquery, hpattern, ?_⟩
    rw [hquery, hpattern]
    cases v.at? ks with
    | none => simp
    | some w => simp

/-- The path `a.b` to the loose absence. A null at its end is matched by both, a number in place of the inner mapping is
null for the query but nothing for the pattern. -/
theorem query_agrees_with_nested_null :
    let r := builtIn usualLimit usualDepth
    let call : Caller := ⟨fun _ _ => .fail .callsTooDeep, RegexPattern.search, Query.select⟩
    let there := plainMapping [(.text "a", plainMapping [(.text "b", null)])]
    let away := plainMapping [(.text "a", .int 5)]
    ∃ p q, (r.compile (plainMapping [(.text "a", plainMapping [(.text "b", null)])])).result = .ok p ∧
      (r.queryBy Query.check "a.b" null true).result = .ok q ∧
      p.test call there = .ok true ∧ q.test call there = .ok true ∧
      p.test call away = .ok false ∧ q.test call away = .ok true := by
  intro r call there away
  have hcompile : (r.compile (Value.nested ["a", "b"] null)).result =
      .ok (.ofSpec usualLimit (Value.nested ["a", "b"] null)) :=
    result_compile_of_passes rfl (by decide)
  have hnull : (r.compile null).result = .ok (.literal null) := result_compile_of_passes rfl (by decide)
  have hpaths : Query.FollowsPaths Query.check call.select := Query.followsPaths
  obtain ⟨inner, q, hinner, hq, hagrees⟩ :=
    query_agrees_with_nested hpaths (List.cons_ne_nil "a" ["b"]) (by decide) hcompile true
  obtain rfl : inner = .literal null := Except.ok.inj (hinner.symm.trans hnull)
  have hinside : Json (plainMapping (named [("b", null)])) := .mapping (List.forall_mem_singleton.mpr .null)
  have hthere : Json (plainMapping (named [("a", plainMapping (named [("b", null)]))])) :=
    .mapping (List.forall_mem_singleton.mpr hinside)
  have haway : Json (plainMapping (named [("a", .int 5)])) := .mapping (List.forall_mem_singleton.mpr (.number _))
  have hmatches : (Matcher.literal null).test call null = .ok true := by
    rw [test]
    rfl
  have hexists : there.at? ["a", "b"] = some null := rfl
  have hmissing : away.at? ["a", "b"] = none := rfl
  refine ⟨_, q, hcompile, hq, ?_, ?_, ?_, ?_⟩
  · rw [(hagrees there hthere).pattern, hexists]
    exact hmatches
  · rw [(hagrees there hthere).query, hexists]
    exact hmatches
  · rw [(hagrees away haway).pattern, hmissing]
  · rw [(hagrees away haway).query, hmissing]
    exact hmatches

end Registry

end Clausewise
