import Clausewise.Proofs.Spec.Interpretation
import Clausewise.Proofs.Value.Entries

/-! Sequence patterns and the mapping patterns over the indices of the same specs. They compile alike, and on sequences
that tell their length they test alike, what is reported on the way included. -/
namespace Clausewise

namespace Value
variable {spec : Value} {shape : SequenceShape} {specs : List Value}

theorem kind?_of_expose_sequence (h : spec.expose = .sequence shape specs) (hshape : shape.isSpec = true) :
    spec.kind? = some .sequence := by
  have hliteral : spec.isLiteral = false := by
    cases spec <;> first | rfl | cases h
  rw [kind?, KindName.all, List.find?_cons, List.find?_cons]
  simp only [KindName.accepts, hliteral, h]
  cases shape <;> first | rfl | cases hshape

/-- What a sequence has under an index is the item there. -/
theorem entry?_int {v : Value} {items : List Value} (h : v.items? = some items) (i : Nat) :
    v.entry? (int i) = v.item? i := by
  have hindex : (int i).index? = some i := sameKey_int_iff.mp (by simp [sameKey, key?_int])
  rw [entry?_of_items? h, hindex, Option.bind_some, item?_eq_bind_items?, h, Option.bind_some]

end Value

namespace Plan
open Value

/-- Asking for the matchers under indices is compiling the specs one after the other. -/
theorem run_eachField_indexed (compile : Value → Outcome Matcher) (i : Nat) (specs : List Value)
    (next : List (Value × Matcher) → Plan) :
    (eachField (indexed i specs) next).run compile =
      (specs.mapM compile).andThen fun ms => (next (indexed i ms)).run compile := by
  induction specs generalizing i next with
  | nil => rfl
  | cons spec specs ih =>
    rw [indexed_cons, eachField, run, List.mapM_cons]
    simp only [ih, indexed_cons, Outcome.bind_eq_andThen, Outcome.pure_eq_ok, Outcome.andThen_assoc, Outcome.ok_andThen]

end Plan

namespace Matcher
open Value
variable {call : Caller} {v : Value} {items : List Value}

/-- Tests under indices are the tests of the items from the first of the indices on. -/
theorem testFields_indexed (h : v.items? = some items) (ms : List Matcher) (i : Nat) :
    testFields call (indexed i ms) v = testItems call ms v i := by
  induction ms generalizing i with
  | nil => rw [testItems, indexed, List.zipIdx_nil, List.map_nil, testFields]
  | cons m ms ih => rw [indexed_cons, testFields, testItems, entry?_int h, ih]

theorem test_sequence_of_not_isSequence (hv : v.isSequence = false) (ms : List Matcher) :
    (sequence ms).test call v = .ok false := by
  rw [test, withheld?_of_not_isSequence hv, length?_eq_map_items?, items?_of_not_isSequence hv]
  rfl

theorem test_sequence_of_refusesLength (hv : v.refusesLength = true) (ms : List Matcher) :
    (sequence ms).test call v = .fail (.complaint .tooLong) := by
  obtain ⟨items, hitems⟩ := items?_of_refusesLength hv
  rw [test, withheld?_of_refusesLength hv, length?_eq_map_items?, hitems, hv]
  rfl

theorem test_sequence_of_withheld {withheld : Withheld} (hv : v.withheld? = some withheld) (ms : List Matcher) :
    (sequence ms).test call v = .ofExcept (prefixVerdict withheld ms.length) := by
  rw [test, hv]

theorem test_mapping_of_withheld {withheld : Withheld} (hv : v.withheld? = some withheld)
    (fields : List (Value × Matcher)) : (mapping fields).test call v = .fail (.complaint withheld.items) := by
  rw [test, hv]

theorem test_sequence_eq_test_mapping (hitems : v.items? = some items) (hlength : v.refusesLength = false)
    (ms : List Matcher) : (sequence ms).test call v = ((mapping (indexed 0 ms)).test call v).iterated := by
  have htests : testFields call (indexed 0 ms) v = testItems call ms v 0 := testFields_indexed hitems ms 0
  rw [test, test, withheld?_of_items? hitems, length?_eq_map_items?, hitems, hlength, htests, isObject_of_items? hitems,
    entryCount_of_items? hitems, length_indexed]
  simp only [Option.map_some, Bool.not_true, Bool.false_or, decide_eq_true_eq, Bool.false_eq_true, if_false]
  split <;> rfl

end Matcher

namespace Registry
open Value
variable {limit : Value} {maxDepth : Int} {spec : Value} {shape : SequenceShape} {specs : List Value}

private theorem result_compile_sequence (hspec : spec.expose = .sequence shape specs) (hshape : shape.isSpec = true)
    (hdepth : 0 ≤ maxDepth) :
    ((builtIn limit maxDepth).compile spec).result =
      (specs.mapM ((builtIn limit maxDepth).compileAt 1)).result.bind fun ms => .ok (.sequence ms) := by
  rw [result_compile_of_kind? hdepth (kind?_of_expose_sequence hspec hshape)]
  simp only [KindName.plan, items?, hspec, Option.getD_some, Plan.run_each, Outcome.result_andThen]
  rfl

private theorem result_compile_indexed (hdepth : 0 ≤ maxDepth) :
    ((builtIn limit maxDepth).compile (.plainMapping (indexed 0 specs))).result =
      (specs.mapM ((builtIn limit maxDepth).compileAt 1)).result.bind fun ms => .ok (.mapping (indexed 0 ms)) := by
  have hkind : (Value.plainMapping (indexed 0 specs)).kind? = some .mapping := rfl
  rw [result_compile_of_kind? hdepth hkind]
  simp only [KindName.plan, entries?, expose, Plan.run_eachField_indexed, Outcome.result_andThen]
  rfl

/-- A sequence pattern is the mapping pattern over the indices of its specs. The two fail to compile with the same
failure, or both compile; then the sequence pattern refuses whatever is no sequence, and ends on every sequence whose
shape shows, that tells its length and hands its items out just as the mapping pattern does, except that an iteration
exhausted in a test interrupts the one over the items. On a range that refuses to tell its length the sequence pattern
fails. On a view that withholds its items the mapping pattern fails, and the sequence pattern does unless the number of
items decides. -/
theorem sequence_eq_index_mapping (hspec : spec.expose = .sequence shape specs) (hshape : shape.isSpec = true)
    (limit : Value) (maxDepth : Int) (call : Caller) :
    (∃ e, ((builtIn limit maxDepth).compile spec).result = .error e ∧
      ((builtIn limit maxDepth).compile (.plainMapping (indexed 0 specs))).result = .error e) ∨
    ∃ m m', ((builtIn limit maxDepth).compile spec).result = .ok m ∧
      ((builtIn limit maxDepth).compile (.plainMapping (indexed 0 specs))).result = .ok m' ∧
      (∀ v, v.isSequence = false → m.test call v = .ok false) ∧
      (∀ v, v.isSequence = true → v.hidesShape = false → v.withheld? = none → v.refusesLength = false →
        m.test call v = (m'.test call v).iterated) ∧
      (∀ v, v.refusesLength = true → m.test call v = .fail (.complaint .tooLong)) ∧
      ∀ v withheld, v.withheld? = some withheld →
        m.test call v = .ofExcept (Matcher.prefixVerdict withheld specs.length) ∧
        m'.test call v = .fail (.complaint withheld.items) := by
  by_cases hdepth : 0 ≤ maxDepth
  · rw [result_compile_sequence hspec hshape hdepth, result_compile_indexed hdepth]
    cases hms : (specs.mapM ((builtIn limit maxDepth).compileAt 1)).result with
    | error e => exact .inl ⟨e, rfl, rfl⟩
    | ok ms =>
      have hcount : ms.length = specs.length := Outcome.length_of_mapM hms
      refine .inr ⟨_, _, rfl, rfl, ?_, ?_, ?_, ?_⟩
      · intro v hv
        exact Matcher.test_sequence_of_not_isSequence hv ms
      · intro v hv hshape hgives hlength
        obtain ⟨items, hitems⟩ := items?_of_isSequence hv hshape hgives
        exact Matcher.test_sequence_eq_test_mapping hitems hlength ms
      · intro v hv
        exact Matcher.test_sequence_of_refusesLength hv ms
      · intro v withheld hv
        rw [← hcount]
        exact ⟨Matcher.test_sequence_of_withheld hv ms, Matcher.test_mapping_of_withheld hv _⟩
  · refine .inl ⟨.nestedTooDeep, ?_, ?_⟩ <;> rw [compile, compileAt_builtIn, if_pos (by omega)] <;> rfl

/-- A tuple of a class and a predicate, matched with a longer deque: under their indices as in the tuple, the predicate
is asked for the second item and fails. -/
theorem sequence_eq_index_mapping_failing :
    let call : Caller := .answering fun _ arguments => .fail (.absentKey (.tuple arguments))
    let specs := [.cls .int, .function { name := "f" }]
    let v := Value.sequence .deque [.int 1, .null, .int 3]
    ∃ m m', ((builtIn usualLimit 1).compile (.tuple specs)).result = .ok m ∧
      ((builtIn usualLimit 1).compile (.plainMapping [(.int 0, specs[0]), (.int 1, specs[1])])).result = .ok m' ∧
      m.test call v = (m'.test call v).iterated ∧ (m.test call v).result = .error (.absentKey (.tuple [.null])) := by
  intro call specs v
  have hcompile : ((builtIn usualLimit 1).compile (.tuple specs)).result = .ok (.ofSpec usualLimit (.tuple specs)) :=
    result_compile_of_passes rfl (by decide)
  have hspec : (Value.tuple specs).expose = .sequence .tuple specs := rfl
  rcases sequence_eq_index_mapping hspec rfl usualLimit 1 call with ⟨e, he, -⟩ | ⟨m, m', hm, hm', -, hagree, -, -⟩
  · rw [hcompile] at he
    cases he
  · refine ⟨m, m', hm, hm', hagree v rfl rfl rfl rfl, ?_⟩
    rw [eq_ofSpec_of_compile hm, test_ofSpec]
    rfl

/-- The empty list fails on a range that refuses to tell its length, which the empty mapping accepts. -/
theorem sequence_differs_on_untold_length :
    let call : Caller := .answering fun _ _ => .fail .callsTooDeep
    let v := Value.range 0 9223372036854775808 1
    ((builtIn usualLimit 0).compile (.list [])).result = .ok (.sequence []) ∧
      ((builtIn usualLimit 0).compile (.plainMapping [])).result = .ok (.mapping []) ∧ v.isSequence = true ∧
      ((Matcher.sequence []).test call v).result = .error (.complaint .tooLong) ∧
      ((Matcher.mapping []).test call v).result = .ok true := by
  intro call v
  refine ⟨result_compile_of_passes rfl (by decide), result_compile_of_passes rfl (by decide), rfl, ?_, ?_⟩
  · rw [Matcher.test]
    rfl
  · have hobject : v.isObject = true := rfl
    rw [Matcher.test, Matcher.testFields, withheld?_of_refusesLength rfl, hobject]
    simp

end Registry

end Clausewise
