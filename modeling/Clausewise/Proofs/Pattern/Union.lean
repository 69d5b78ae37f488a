import Clausewise.Combinator
import Clausewise.Proofs.Match.Decision
import Clausewise.Proofs.Pattern.Methods
import Clausewise.Proofs.Spec.Combination

/-! A clause for a union of specs, against a clause for each of them in its place. The two differ in one thing: where a
spec's test fails because an iteration in it is exhausted, the union is interrupted instead. -/
namespace Clausewise

/-- That no test of the matchers fails by exhausting an iteration, so that none can interrupt a union. -/
def Matcher.Uninterrupted (call : Caller) (ms : List Matcher) (v : Value) : Prop :=
  ∀ m ∈ ms, ∀ e, (m.test call v).result = .error e → e.outOfIteration = e

theorem Matcher.result_test_anyOf_cons (call : Caller) (m : Matcher) (ms : List Matcher) (v : Value) :
    ((anyOf (m :: ms)).test call v).result =
      match (m.test call v).result with
      | .ok true => .ok true
      | .ok false => ((anyOf ms).test call v).result
      | .error e => .error e.outOfIteration := by
  rw [test, testAny, test, Outcome.bind_eq_andThen, Outcome.iterated_andThen, Outcome.result_andThen,
    Outcome.result_iterated]
  cases (m.test call v).result with
  | error e => rfl
  | ok accepted => cases accepted <;> rfl

/-- A union decides as its parts do one after the other, wherever it stands among the clauses. -/
theorem result_dispatch_anyOf {call : Caller} {ms : List Matcher} {value : Value}
    (h : Matcher.Uninterrupted call ms value) (result : Value) (extra : List Value) (fallback : Option Value)
    (before after : List Clause) :
    (dispatch call (before ++ (.anyOf ms, result) :: after) fallback value extra).result =
      (dispatch call (before ++ (ms.map fun m => (m, result)) ++ after) fallback value extra).result := by
  rw [List.append_assoc]
  refine result_dispatch_append_congr ?_ before
  induction ms with
  | nil =>
    have hrefuses : ((Matcher.anyOf []).test call value).result = .ok false := by
      rw [Matcher.test, Matcher.testAny]
      rfl
    rw [result_dispatch_cons, hrefuses]
    rfl
  | cons m ms ih =>
    obtain ⟨hm, hms⟩ := List.forall_mem_cons.mp h
    rw [List.map_cons, List.cons_append, result_dispatch_cons, result_dispatch_cons, ← ih hms, result_dispatch_cons,
      Matcher.result_test_anyOf_cons]
    cases hresult : (m.test call value).result with
    | error e => exact congrArg Except.error (hm e hresult)
    | ok accepted => cases accepted <;> rfl

namespace Builder
variable {registry : Nat → Registry} {b : Builder}

/-- A clause with the same result for each of the specs, in order. -/
def whenEach (registry : Nat → Registry) (specs : List Value) (result : Value) (b : Builder) : Builder :=
  specs.foldl (fun b spec => (Builder.when registry spec result b).1) b

theorem whenEach_eq_of_compile {specs : List Value} {f : Value → Matcher} (hopen : b.closed = false)
    (h : ∀ spec ∈ specs, ((registry b.registry).compile spec).result = .ok (f spec)) (result : Value) :
    whenEach registry specs result b =
      { b with clauses := b.clauses ++ specs.map fun spec => (f spec, result) } := by
  have hrows : whenEach registry specs result b = whenRows registry (specs.map fun spec => (spec, result)) b := by
    rw [whenEach, whenRows, List.foldl_map]
  rw [hrows, whenRows_eq_of_compile hopen (List.forall_mem_map.mpr h), List.map_map]
  rfl

/-- On a pattern under construction with any clauses so far, a clause for the union of specs that all compile comes to
the same as a clause with the same result for each of them: whatever clauses and default follow, both patterns end
alike on every value that exhausts no iteration in the tests of the specs. Without specs the clause might as well be
left out. -/
theorem union_clause_eq_split_clauses {limit : Value} {maxDepth : Int} {specs : List Value}
    (hregistry : registry b.registry = .builtIn limit maxDepth) (hdepth : 0 ≤ maxDepth) (hopen : b.closed = false)
    (hspecs : ∀ spec ∈ specs, ∃ m, ((Registry.builtIn limit maxDepth).compile spec).result = .ok m) (result : Value) :
    ∃ union, ((Registry.builtIn limit maxDepth).either specs).result = .ok union ∧
      (Builder.when registry (.matcher union) result b).1.clauses = b.clauses ++ [(union, result)] ∧
      ∀ env pattern other after fallback,
        Environment.content? env pattern =
          some ((Builder.when registry (.matcher union) result b).1.clauses ++ after, fallback) →
        env.content? other = some ((whenEach registry specs result b).clauses ++ after, fallback) →
        ∀ depth value extra,
          Matcher.Uninterrupted (env.callWithin depth) (specs.map (.ofSpec limit)) value →
          (env.callWithin (depth + 1) pattern (value :: extra)).result =
            (env.callWithin (depth + 1) other (value :: extra)).result := by
  have hcompile : ∀ spec ∈ specs, ((registry b.registry).compile spec).result = .ok (.ofSpec limit spec) := by
    intro spec hspec
    obtain ⟨m, hm⟩ := hspecs spec hspec
    rw [hregistry, hm, Registry.eq_ofSpec_of_compile hm]
  have heither := Registry.result_either hcompile
  rw [hregistry] at heither
  have hunion : ((registry b.registry).compile (.matcher (.anyOf (specs.map (.ofSpec limit))))).result =
      .ok (.anyOf (specs.map (.ofSpec limit))) := by
    rw [hregistry]
    exact Registry.result_compile_matcher hdepth _
  refine ⟨.anyOf (specs.map (.ofSpec limit)), heither, ?_, ?_⟩
  · rw [when_eq_of_compile hopen hunion]
  · intro env pattern other after fallback hpattern hother depth value extra huninterrupted
    rw [when_eq_of_compile hopen hunion, List.append_assoc] at hpattern
    rw [whenEach_eq_of_compile hopen hcompile] at hother
    rw [Environment.callWithin_of_content? hpattern, Environment.callWithin_of_content? hother]
    refine (result_dispatch_anyOf huninterrupted result extra fallback b.clauses after).trans ?_
    rw [List.map_map]
    rfl

end Builder

end Clausewise
