import Clausewise.Proofs.Spec.Combination
import Clausewise.Proofs.Spec.Unfolding

/-! The laws of unions, intersections and complements. They hold of whole outcomes: what is tested, and in which order,
is the same on both sides, so a test that fails ends both with the same failure. -/
namespace Clausewise

namespace Matcher
variable {call : Caller} {v : Value} {m : Matcher} {ms xs xs' ys ys' : List Matcher}

/-- That two matchers end alike on every value, whatever functions answer. -/
def Alike (m m' : Matcher) : Prop := ∀ call v, m.test call v = m'.test call v

/-- A complement turns the verdict over, and fails where there is none. -/
theorem test_negation (call : Caller) (m : Matcher) (v : Value) :
    (negation m).test call v = (m.test call v).andThen fun verdict => .ok !verdict := by
  rw [test]
  rfl

theorem testAny_append (call : Caller) (xs ys : List Matcher) (v : Value) :
    testAny call (xs ++ ys) v =
      (testAny call xs v).andThen fun verdict => if verdict = true then .ok true else testAny call ys v := by
  induction xs with
  | nil =>
    rw [testAny]
    rfl
  | cons m xs ih =>
    rw [List.cons_append, testAny, testAny, ih, Outcome.bind_eq_andThen, Outcome.bind_eq_andThen,
      Outcome.andThen_ite_andThen]
    rfl

theorem testAll_append (call : Caller) (xs ys : List Matcher) (v : Value) :
    testAll call (xs ++ ys) v =
      (testAll call xs v).andThen fun verdict => if verdict = true then testAll call ys v else .ok false := by
  induction xs with
  | nil =>
    rw [testAll]
    rfl
  | cons m xs ih =>
    rw [List.cons_append, testAll, testAll, ih, Outcome.bind_eq_andThen, Outcome.bind_eq_andThen,
      Outcome.andThen_ite_andThen]
    rfl

/-- All complements accept what none of the matchers accepts. -/
theorem testAll_map_negation (call : Caller) (ms : List Matcher) (v : Value) :
    testAll call (ms.map .negation) v = (testAny call ms v).andThen fun verdict => .ok !verdict := by
  induction ms with
  | nil =>
    rw [List.map_nil, testAll, testAny]
    rfl
  | cons m ms ih =>
    rw [List.map_cons, testAll, testAny, ih, test_negation, Outcome.bind_eq_andThen, Outcome.bind_eq_andThen,
      Outcome.andThen_ite_andThen, Outcome.andThen_assoc]
    apply congrArg
    funext verdict
    cases verdict <;> rfl

theorem testAny_map_negation (call : Caller) (ms : List Matcher) (v : Value) :
    testAny call (ms.map .negation) v = (testAll call ms v).andThen fun verdict => .ok !verdict := by
  induction ms with
  | nil =>
    rw [List.map_nil, testAll, testAny]
    rfl
  | cons m ms ih =>
    rw [List.map_cons, testAll, testAny, ih, test_negation, Outcome.bind_eq_andThen, Outcome.bind_eq_andThen,
      Outcome.andThen_ite_andThen, Outcome.andThen_assoc]
    apply congrArg
    funext verdict
    cases verdict <;> rfl

theorem alike_negation_anyOf (ms : List Matcher) : Alike (.negation (.anyOf ms)) (.allOf (ms.map .negation)) := by
  intro call v
  rw [test_negation, test, test, testAll_map_negation, Outcome.iterated_andThen]
  rfl

theorem alike_negation_allOf (ms : List Matcher) : Alike (.negation (.allOf ms)) (.anyOf (ms.map .negation)) := by
  intro call v
  rw [test_negation, test, test, testAny_map_negation, Outcome.iterated_andThen]
  rfl

theorem alike_negation_negation (m : Matcher) : Alike (.negation (.negation m)) m := by
  intro call v
  rw [test_negation, test_negation, Outcome.andThen_assoc]
  simp

/-- That a way to join matchers takes apart what is joined in the same way inside it. -/
structure Unnests (join : List Matcher → Matcher) : Prop where
  cons (m : Matcher) {xs xs' : List Matcher} : Alike (join xs) (join xs') → Alike (join (m :: xs)) (join (m :: xs'))
  splice {xs xs' ys ys' : List Matcher} : Alike (join xs) (join xs') → Alike (join ys) (join ys') →
    Alike (join (join xs :: ys)) (join (xs' ++ ys'))

theorem unnests_anyOf : Unnests anyOf where
  cons m xs xs' hxs := by
    intro call v
    have htail := hxs call v
    rw [test, test] at htail
    rw [test, test, testAny, testAny]
    refine Outcome.iterated_andThen_congr rfl fun accepted => ?_
    cases accepted with
    | true => rfl
    | false => exact htail
  splice hxs hys := by
    intro call v
    have hinner := hxs call v
    have htail := hys call v
    rw [test, test] at hinner htail
    rw [test, test, testAny, test, testAny_append]
    refine Outcome.iterated_andThen_congr ((Outcome.iterated_iterated _).trans hinner) fun accepted => ?_
    cases accepted with
    | true => rfl
    | false => exact htail

theorem unnests_allOf : Unnests allOf where
  cons m xs xs' hxs := by
    intro call v
    have htail := hxs call v
    rw [test, test] at htail
    rw [test, test, testAll, testAll]
    refine Outcome.iterated_andThen_congr rfl fun accepted => ?_
    cases accepted with
    | false => rfl
    | true => exact htail
  splice hxs hys := by
    intro call v
    have hinner := hxs call v
    have htail := hys call v
    rw [test, test] at hinner htail
    rw [test, test, testAll, test, testAll_append]
    refine Outcome.iterated_andThen_congr ((Outcome.iterated_iterated _).trans hinner) fun accepted => ?_
    cases accepted with
    | false => rfl
    | true => exact htail

end Matcher

namespace Registry
open Matcher
variable {r : Registry} {limit : Value} {maxDepth : Int} {specs : List Value} {join : List Matcher → Matcher}

/-- That two constructions from specs agree. Either some spec does not compile, and both fail as the first of these
does; or all compile, and both give matchers that end alike on every value. -/
inductive AgreeOn (r : Registry) (specs : List Value) (left right : Outcome Matcher) : Prop
  | failing {before after : List Value} {bad : Value} {e : Failure} : specs = before ++ bad :: after →
      (∀ spec ∈ before, ∃ m, (r.compile spec).result = .ok m) → (r.compile bad).result = .error e →
      left.result = .error e → right.result = .error e → AgreeOn r specs left right
  | alike {m m' : Matcher} : (∀ spec ∈ specs, ∃ m, (r.compile spec).result = .ok m) →
      left.result = .ok m → right.result = .ok m' → Alike m m' → AgreeOn r specs left right

/-- That specs are taken out of the matchers among other specs in which they were joined, at any depth. -/
inductive Flattened (combine : List Value → Outcome Matcher) : List Value → List Value → Prop
  | nil : Flattened combine [] []
  | keep (spec : Value) {specs flat : List Value} : Flattened combine specs flat →
      Flattened combine (spec :: specs) (spec :: flat)
  | splice {inner innerFlat specs flat : List Value} {m : Matcher} : (combine inner).result = .ok m →
      Flattened combine inner innerFlat → Flattened combine specs flat →
      Flattened combine (.matcher m :: specs) (innerFlat ++ flat)

theorem result_compileAll_append (r : Registry) (xs ys : List Value) :
    (r.compileAll (xs ++ ys)).result =
      (r.compileAll xs).result.bind fun ms => (r.compileAll ys).result.bind fun ms' => .ok (ms ++ ms') := by
  simp only [compileAll_eq_mapM, List.mapM_append, Outcome.bind_eq_andThen, Outcome.pure_eq_ok, Outcome.result_andThen,
    Outcome.result_ok]

/-- Complementing specs one after the other is compiling them and complementing their matchers. -/
theorem mapM_negate (r : Registry) (specs : List Value) :
    specs.mapM r.negate = (r.compileAll specs).andThen fun ms => .ok (ms.map .negation) := by
  induction specs with
  | nil => rfl
  | cons spec specs ih =>
    rw [List.mapM_cons, compileAll, ih, negate]
    simp only [Outcome.bind_eq_andThen, Outcome.pure_eq_ok, Outcome.andThen_assoc, Outcome.ok_andThen, List.map_cons]

theorem result_compileAll_matchers (hdepth : 0 ≤ maxDepth) (ms : List Matcher) :
    ((builtIn limit maxDepth).compileAll (ms.map .matcher)).result = .ok ms := by
  induction ms with
  | nil => rfl
  | cons m ms ih =>
    rw [List.map_cons, result_compileAll_cons, result_compile_matcher hdepth, ih]
    rfl

theorem result_allOf_matchers (hdepth : 0 ≤ maxDepth) (ms : List Matcher) :
    ((builtIn limit maxDepth).allOf (ms.map .matcher)).result = .ok (.allOf ms) :=
  result_joined_of_compileAll (result_compileAll_matchers hdepth ms)

/-- Compiling specs one after the other fails as the first that does not compile, or gives a matcher for each. -/
theorem compileAll_cases (r : Registry) (specs : List Value) :
    (∃ before bad after e, specs = before ++ bad :: after ∧ (∀ spec ∈ before, ∃ m, (r.compile spec).result = .ok m) ∧
      (r.compile bad).result = .error e ∧ (r.compileAll specs).result = .error e) ∨
    (∀ spec ∈ specs, ∃ m, (r.compile spec).result = .ok m) ∧ ∃ ms, (r.compileAll specs).result = .ok ms := by
  induction specs with
  | nil => exact .inr ⟨nofun, [], rfl⟩
  | cons spec specs ih =>
    rw [result_compileAll_cons]
    cases hspec : (r.compile spec).result with
    | error e => exact .inl ⟨[], spec, specs, e, rfl, nofun, hspec, rfl⟩
    | ok m =>
      have hhead : ∃ m, (r.compile spec).result = .ok m := ⟨m, hspec⟩
      rcases ih with ⟨before, bad, after, e, rfl, hbefore, hbad, herror⟩ | ⟨hspecs, ms, hms⟩
      · refine .inl ⟨spec :: before, bad, after, e, rfl, List.forall_mem_cons.mpr ⟨hhead, hbefore⟩, hbad, ?_⟩
        rw [herror]
        rfl
      · refine .inr ⟨List.forall_mem_cons.mpr ⟨hhead, hspecs⟩, m :: ms, ?_⟩
        rw [hms]
        rfl

/-- Two constructions agree if both fail where the specs do not compile, and are alike where they do. -/
theorem agreeOn_of_compileAll {left right : Outcome Matcher}
    (hfail : ∀ e, (r.compileAll specs).result = .error e → left.result = .error e ∧ right.result = .error e)
    (halike : ∀ ms, (r.compileAll specs).result = .ok ms →
      ∃ m m', left.result = .ok m ∧ right.result = .ok m' ∧ Alike m m') : r.AgreeOn specs left right := by
  rcases compileAll_cases r specs with ⟨before, bad, after, e, hsplit, hbefore, hbad, herror⟩ | ⟨hspecs, ms, hms⟩
  · obtain ⟨hleft, hright⟩ := hfail e herror
    exact .failing hsplit hbefore hbad hleft hright
  · obtain ⟨m, m', hleft, hright, h⟩ := halike ms hms
    exact .alike hspecs hleft hright h

theorem agreeOn_of_result {left right : Outcome Matcher} {f g : List Matcher → Matcher}
    (hleft : left.result = (r.compileAll specs).result.bind fun ms => .ok (f ms))
    (hright : right.result = (r.compileAll specs).result.bind fun ms => .ok (g ms))
    (h : ∀ ms, Alike (f ms) (g ms)) : r.AgreeOn specs left right := by
  apply agreeOn_of_compileAll
  · intro e he
    rw [hleft, hright, he]
    exact ⟨rfl, rfl⟩
  · intro ms hms
    rw [hleft, hright, hms]
    exact ⟨_, _, rfl, rfl, h ms⟩

theorem result_joined (specs : List Value) :
    ((builtIn limit maxDepth).joined join specs).result =
      ((builtIn limit maxDepth).compileAll specs).result.bind fun ms => .ok (join ms) := by
  have hcompileAll : ((builtIn limit maxDepth).compileAll specs).iterated.result =
      ((builtIn limit maxDepth).compileAll specs).result := by
    refine Outcome.result_iterated_of_forall fun e he => ?_
    rcases compileAll_cases (builtIn limit maxDepth) specs with
      ⟨before, bad, after, e', -, -, hbad, herror⟩ | ⟨-, ms, hms⟩
    · obtain rfl := Except.error.inj (herror.symm.trans he)
      exact outOfIteration_of_compile hbad
    · rw [hms] at he
      cases he
  rw [joined, Outcome.bind_eq_andThen, Outcome.result_andThen, hcompileAll]
  rfl

private theorem result_negate_joined (hdepth : 0 ≤ maxDepth) (specs : List Value) :
    ((builtIn limit maxDepth).joined join specs >>= fun m => (builtIn limit maxDepth).negate (.matcher m)).result =
      ((builtIn limit maxDepth).compileAll specs).result.bind fun ms => .ok (.negation (join ms)) := by
  simp only [negate, Outcome.bind_eq_andThen, Outcome.pure_eq_ok, Outcome.result_andThen, result_joined,
    result_compile_matcher hdepth]
  cases ((builtIn limit maxDepth).compileAll specs).result <;> rfl

private theorem result_joined_negate (hdepth : 0 ≤ maxDepth) (specs : List Value) :
    (specs.mapM (builtIn limit maxDepth).negate >>= fun ms =>
        (builtIn limit maxDepth).joined join (ms.map .matcher)).result =
      ((builtIn limit maxDepth).compileAll specs).result.bind fun ms => .ok (join (ms.map .negation)) := by
  simp only [mapM_negate, Outcome.bind_eq_andThen, Outcome.andThen_assoc, Outcome.ok_andThen, Outcome.result_andThen,
    result_joined, result_compileAll_matchers hdepth]
  rfl

/-- That specs compile with the same failure, or to matchers that end alike when they are joined. -/
inductive JoinedAlike (join : List Matcher → Matcher) :
    Except Failure (List Matcher) → Except Failure (List Matcher) → Prop
  | error (e : Failure) : JoinedAlike join (.error e) (.error e)
  | ok {ms ms' : List Matcher} : Alike (join ms) (join ms') → JoinedAlike join (.ok ms) (.ok ms')

/-- Specs compile as before when some are taken out of matchers in which they were joined. -/
private theorem joinedAlike_of_flattened (hdepth : 0 ≤ maxDepth) (hjoin : Unnests join) {specs flat : List Value}
    (h : Flattened ((builtIn limit maxDepth).joined join) specs flat) :
    JoinedAlike join ((builtIn limit maxDepth).compileAll specs).result
      ((builtIn limit maxDepth).compileAll flat).result := by
  induction h with
  | nil => exact .ok fun call v => rfl
  | @keep spec specs flat _ ih =>
    rw [result_compileAll_cons, result_compileAll_cons]
    cases (builtIn limit maxDepth).compile spec |>.result with
    | error e => exact .error e
    | ok m =>
      generalize ((builtIn limit maxDepth).compileAll specs).result = left,
        ((builtIn limit maxDepth).compileAll flat).result = right at ih ⊢
      cases ih with
      | error e => exact .error e
      | ok htail => exact .ok (hjoin.cons m htail)
  | @splice inner innerFlat specs flat m hm _ _ ihinner ih =>
    obtain ⟨xs, hxs, hdone⟩ := Outcome.result_andThen_eq_ok_iff.mp hm
    rw [Outcome.result_iterated_eq_ok_iff] at hxs
    obtain rfl := Except.ok.inj hdone
    rw [hxs] at ihinner
    rw [result_compileAll_cons, result_compile_matcher hdepth, result_compileAll_append]
    generalize ((builtIn limit maxDepth).compileAll specs).result = left,
      ((builtIn limit maxDepth).compileAll flat).result = right,
      ((builtIn limit maxDepth).compileAll innerFlat).result = taken at ih ihinner ⊢
    cases ihinner with
    | ok hinner =>
      cases ih with
      | error e => exact .error e
      | ok htail => exact .ok (hjoin.splice hinner htail)

private theorem agreeOn_flattened (hdepth : 0 ≤ maxDepth) (hjoin : Unnests join) {specs flat : List Value}
    (h : Flattened ((builtIn limit maxDepth).joined join) specs flat) :
    (builtIn limit maxDepth).AgreeOn specs ((builtIn limit maxDepth).joined join specs)
      ((builtIn limit maxDepth).joined join flat) := by
  have halike := joinedAlike_of_flattened hdepth hjoin h
  apply agreeOn_of_compileAll
  · intro e he
    rw [he] at halike
    rw [result_joined, result_joined, he]
    generalize ((builtIn limit maxDepth).compileAll flat).result = right at halike ⊢
    cases halike with
    | error => exact ⟨rfl, rfl⟩
  · intro ms hms
    rw [hms] at halike
    rw [result_joined, result_joined, hms]
    generalize ((builtIn limit maxDepth).compileAll flat).result = right at halike ⊢
    cases halike with
    | ok h => exact ⟨_, _, rfl, rfl, h⟩

private theorem agreeOn_negate_negate (hdepth : 0 ≤ maxDepth) (spec : Value) :
    (builtIn limit maxDepth).AgreeOn [spec]
      ((builtIn limit maxDepth).negate spec >>= fun m => (builtIn limit maxDepth).negate (.matcher m))
      ((builtIn limit maxDepth).compile spec) := by
  have htwice :
      ((builtIn limit maxDepth).negate spec >>= fun m => (builtIn limit maxDepth).negate (.matcher m)).result =
        ((builtIn limit maxDepth).compile spec).result.bind fun m => .ok (.negation (.negation m)) := by
    simp only [negate, Outcome.bind_eq_andThen, Outcome.pure_eq_ok, Outcome.andThen_assoc, Outcome.ok_andThen,
      Outcome.result_andThen, result_compile_matcher hdepth]
    rfl
  cases hspec : ((builtIn limit maxDepth).compile spec).result with
  | error e =>
    rw [hspec] at htwice
    exact .failing (show [spec] = [] ++ spec :: [] from rfl) nofun hspec htwice hspec
  | ok m =>
    rw [hspec] at htwice
    exact .alike (List.forall_mem_singleton.mpr ⟨m, hspec⟩) htwice hspec (alike_negation_negation m)

/-- The laws of Boolean algebra for combinators made with the built-in kinds. The complement of a union is the
intersection of the complements, the complement of an intersection the union of the complements, the complement of a
complement the spec itself; and unions may be taken out of unions, intersections out of intersections, at any depth.
Both sides fail as the first spec that does not compile, or end alike on every value, also where a test fails. -/
theorem combinator_laws (hdepth : 0 ≤ maxDepth) (limit : Value) (specs : List Value) :
    let r := builtIn limit maxDepth
    r.AgreeOn specs (r.either specs >>= fun m => r.negate (.matcher m))
      (specs.mapM r.negate >>= fun ms => r.allOf (ms.map .matcher)) ∧
    r.AgreeOn specs (r.allOf specs >>= fun m => r.negate (.matcher m))
      (specs.mapM r.negate >>= fun ms => r.either (ms.map .matcher)) ∧
    (∀ spec, r.AgreeOn [spec] (r.negate spec >>= fun m => r.negate (.matcher m)) (r.compile spec)) ∧
    (∀ flat, Flattened r.either specs flat → r.AgreeOn specs (r.either specs) (r.either flat)) ∧
    ∀ flat, Flattened r.allOf specs flat → r.AgreeOn specs (r.allOf specs) (r.allOf flat) := by
  intro r
  refine ⟨?_, ?_, ?_, ?_, ?_⟩
  · exact agreeOn_of_result (result_negate_joined hdepth specs) (result_joined_negate hdepth specs)
      alike_negation_anyOf
  · exact agreeOn_of_result (result_negate_joined hdepth specs) (result_joined_negate hdepth specs)
      alike_negation_allOf
  · exact agreeOn_negate_negate hdepth
  · exact fun flat h => agreeOn_flattened hdepth unnests_anyOf h
  · exact fun flat h => agreeOn_flattened hdepth unnests_allOf h

/-- The second of three specs does not compile, which is the failure of both sides; and a predicate that fails in a
union inside a union fails just so when it is taken out. -/
theorem combinator_laws_failing :
    let r := builtIn usualLimit 1
    let call : Caller := .answering fun _ arguments => .fail (.absentKey (.tuple arguments))
    let f := Value.function { name := "f" }
    let bad := [.cls .int, .set false [], .sequence .deque []]
    let nested := [.cls .str, .matcher (.anyOf [.instanceOf [.int], .predicate f])]
    (bad.mapM r.negate >>= fun ms => r.allOf (ms.map .matcher)).result = .error (.unclassifiable (.set false [])) ∧
      ∃ m m', (r.either nested).result = .ok m ∧ (r.either [.cls .str, .cls .int, f]).result = .ok m' ∧
        m.test call .null = m'.test call .null ∧
        (m.test call .null).result = .error (.absentKey (.tuple [.null])) := by
  intro r call f bad nested
  have hclass (c : Class) : ((builtIn usualLimit 1).compile (.cls c)).result = .ok (.instanceOf [c]) := by
    rw [compile, compileAt_builtIn]
    rfl
  have hpredicate : ((builtIn usualLimit 1).compile f).result = .ok (.predicate f) := by
    rw [compile, compileAt_builtIn]
    rfl
  have hset : ((builtIn usualLimit 1).compile (.set false [])).result =
      .error (.unclassifiable (.set false [])) := by
    rw [compile, compileAt_builtIn]
    rfl
  constructor
  · obtain ⟨hunion, -⟩ := combinator_laws (show 0 ≤ 1 by decide) usualLimit bad
    have hleft : (r.either bad >>= fun m => r.negate (.matcher m)).result =
        .error (.unclassifiable (.set false [])) := by
      rw [Outcome.bind_eq_andThen, Outcome.result_andThen, show (r.either bad).result = _ from result_joined bad]
      simp only [bad, result_compileAll_cons, hclass, hset]
      rfl
    cases hunion with
    | failing _ _ _ hleft' hright =>
      rw [hright]
      exact hleft'.symm.trans hleft
    | alike _ hleft' =>
      rw [hleft] at hleft'
      cases hleft'
  · let inner := Matcher.anyOf [.instanceOf [.int], .predicate f]
    obtain ⟨-, -, -, hunions, -⟩ := combinator_laws (show 0 ≤ 1 by decide) usualLimit nested
    have hinner : (r.either [.cls .int, f]).result = .ok inner := by
      refine (result_joined _).trans ?_
      simp only [result_compileAll_cons, hclass, hpredicate]
      rfl
    have hmatcher (m : Matcher) : ((builtIn usualLimit 1).compile (.matcher m)).result = .ok m :=
      result_compile_matcher (by decide) m
    have hnested : (r.either nested).result = .ok (.anyOf [.instanceOf [.str], inner]) := by
      refine (result_joined _).trans ?_
      simp only [nested, result_compileAll_cons, hclass, hmatcher]
      rfl
    have hflat : Flattened r.either nested [.cls .str, .cls .int, f] :=
      .keep _ (.splice hinner (.keep _ (.keep _ .nil)) .nil)
    cases hunions _ hflat with
    | failing _ _ _ hleft =>
      rw [hnested] at hleft
      cases hleft
    | @alike m m' _ hleft hright halike =>
      refine ⟨m, m', hleft, hright, halike call .null, ?_⟩
      obtain rfl : m = .anyOf [.instanceOf [.str], inner] := Except.ok.inj (hleft.symm.trans hnested)
      simp only [inner, Matcher.test, Matcher.testAny]
      rfl

end Registry

end Clausewise
