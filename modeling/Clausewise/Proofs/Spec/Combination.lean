import Clausewise.Combinator
import Clausewise.Proofs.Spec.Interpretation
import Clausewise.Proofs.Spec.SelfReference
import Clausewise.Proofs.Value.Entries
import Clausewise.Stock.Functions

/-! Specs put together from elementary ones by containers and combinators, and what the combinators of specs come to. -/
namespace Clausewise

namespace Value

/-- Specs built from leaves with lists, tuples, plain mappings, unions and intersections, and with complements where
these are allowed. The combinators are made with the built-in kinds. -/
inductive BuiltFrom (leaf : Value → Prop) (negatable : Bool) : Value → Prop
  | leaf {spec : Value} : leaf spec → BuiltFrom leaf negatable spec
  | sequence {shape : SequenceShape} {specs : List Value} : shape.isSpec = true →
      (∀ spec ∈ specs, BuiltFrom leaf negatable spec) → BuiltFrom leaf negatable (.sequence shape specs)
  | mapping {fields : List (Value × Value)} : KeysDiffer fields →
      (∀ f ∈ fields, BuiltFrom leaf negatable f.2) → BuiltFrom leaf negatable (.mapping .plain fields)
  | either {limit : Value} {maxDepth : Int} {specs : List Value} {m : Matcher} :
      (∀ spec ∈ specs, BuiltFrom leaf negatable spec) →
      ((Registry.builtIn limit maxDepth).either specs).result = .ok m → BuiltFrom leaf negatable (.matcher m)
  | allOf {limit : Value} {maxDepth : Int} {specs : List Value} {m : Matcher} :
      (∀ spec ∈ specs, BuiltFrom leaf negatable spec) →
      ((Registry.builtIn limit maxDepth).allOf specs).result = .ok m → BuiltFrom leaf negatable (.matcher m)
  | negate {limit : Value} {maxDepth : Int} {spec : Value} {m : Matcher} : negatable = true →
      BuiltFrom leaf negatable spec →
      ((Registry.builtIn limit maxDepth).negate spec).result = .ok m → BuiltFrom leaf negatable (.matcher m)

theorem BuiltFrom.mono {leaf leaf' : Value → Prop} {negatable : Bool} (hleaf : ∀ spec, leaf spec → leaf' spec)
    {spec : Value} (h : BuiltFrom leaf negatable spec) : BuiltFrom leaf' negatable spec := by
  induction h with
  | leaf h => exact .leaf (hleaf _ h)
  | sequence hshape _ ih => exact .sequence hshape ih
  | mapping hdiffer _ ih => exact .mapping hdiffer ih
  | either _ hm ih => exact .either ih hm
  | allOf _ hm ih => exact .allOf ih hm
  | negate hnegatable _ hm ih => exact .negate hnegatable ih hm

end Value

namespace Matcher
variable {α : Type} {call : Caller} {v : Value} {f : α → Matcher}

end Matcher

namespace Environment
variable {env : Environment}

/-- A ready-made function does what it is meant to do, with the calls that it makes one level less deep. -/
theorem callWithin_function (hlibrary : env.library = Stock.library) (depth : Nat) (f : FunctionName)
    (arguments : List Value) :
    env.callWithin (depth + 1) (.function f) arguments =
      env.carryOut (env.callWithin depth) (Stock.meaning f arguments) := by
  rw [callWithin_succ, answer, hlibrary]
  rfl

end Environment

namespace Value
variable {call : Caller} {limit : Value}

end Value

namespace Registry
variable {limit : Value} {maxDepth : Int} {r : Registry} {specs : List Value} {spec : Value} {f : Value → Matcher}
  {m : Matcher}

/-- A matcher is a spec of its own, unless not even specs without parts are allowed. -/
theorem result_compile_matcher (hdepth : 0 ≤ maxDepth) (m : Matcher) :
    ((builtIn limit maxDepth).compile (.matcher m)).result = .ok m :=
  (result_compile_of_kind? hdepth rfl).trans rfl

/-- Compiles specs one after the other and joins their matchers. -/
def joined (r : Registry) (join : List Matcher → Matcher) (specs : List Value) : Outcome Matcher := do
  return join (← (r.compileAll specs).iterated)

theorem result_compileAll_cons (r : Registry) (spec : Value) (specs : List Value) :
    (r.compileAll (spec :: specs)).result =
      (r.compile spec).result.bind fun m => (r.compileAll specs).result.bind fun ms => .ok (m :: ms) := by
  simp only [compileAll, Outcome.bind_eq_andThen, Outcome.pure_eq_ok, Outcome.result_andThen, Outcome.result_ok]

theorem compileAll_eq_mapM (r : Registry) (specs : List Value) : r.compileAll specs = specs.mapM r.compile := by
  induction specs with
  | nil => rfl
  | cons spec specs ih => rw [compileAll, List.mapM_cons, ih]

theorem result_compileAll (h : ∀ spec ∈ specs, (r.compile spec).result = .ok (f spec)) :
    (r.compileAll specs).result = .ok (specs.map f) := by
  rw [compileAll_eq_mapM, Outcome.result_mapM h]

theorem result_joined_of_compileAll {join : List Matcher → Matcher} {ms : List Matcher}
    (h : (r.compileAll specs).result = .ok ms) : (r.joined join specs).result = .ok (join ms) :=
  Outcome.result_andThen_eq_ok_iff.mpr ⟨ms, Outcome.result_iterated_eq_ok_iff.mpr h, rfl⟩

theorem result_either (h : ∀ spec ∈ specs, (r.compile spec).result = .ok (f spec)) :
    (r.either specs).result = .ok (.anyOf (specs.map f)) :=
  result_joined_of_compileAll (result_compileAll h)

end Registry

end Clausewise
