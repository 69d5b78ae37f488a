import Clausewise.Match.Call

/-! Dispatch clause by clause, apart from what it reports: the first clause that accepts or fails decides, the default
comes after all of them, and patterns with the same clauses and default end alike. -/
namespace Clausewise

/-- What a result has to come to: a constant is unwrapped, whatever else can be called answers the value and the extra
arguments, and everything else is the result itself. -/
inductive Produces (call : Caller) (value : Value) (extra : List Value) : Value → Except Failure Value → Prop
  | constant (v : Value) : Produces call value extra (.constant v) (.ok v)
  | answer {result : Value} : result.isCallable = true →
      Produces call value extra result (call result (value :: extra)).result
  | plain {result : Value} : (∀ v, result ≠ .constant v) → result.isCallable = false →
      Produces call value extra result (.ok result)

/-- That a matcher neither accepts a value nor fails on it. -/
def Refuses (call : Caller) (value : Value) (m : Matcher) : Prop := (m.test call value).result = .ok false

/-- How a dispatch has to end: by the first clause whose matcher does not refuse the value, or else by the default. -/
inductive Prescribed (call : Caller) (value : Value) (extra : List Value) (clauses : List Clause)
    (fallback : Option Value) : Except Failure Value → Prop
  | failure {before after : List Clause} {m : Matcher} {result : Value} {e : Failure} :
      clauses = before ++ (m, result) :: after → (∀ c ∈ before, Refuses call value c.1) →
      (m.test call value).result = .error e → Prescribed call value extra clauses fallback (.error e)
  | clause {before after : List Clause} {m : Matcher} {result : Value} {o : Except Failure Value} :
      clauses = before ++ (m, result) :: after → (∀ c ∈ before, Refuses call value c.1) →
      (m.test call value).result = .ok true → Produces call value extra result o →
      Prescribed call value extra clauses fallback o
  | default {result : Value} {o : Except Failure Value} : (∀ c ∈ clauses, Refuses call value c.1) →
      fallback = some result → Produces call value extra result o → Prescribed call value extra clauses fallback o
  | unmatched : (∀ c ∈ clauses, Refuses call value c.1) → fallback = none →
      Prescribed call value extra clauses fallback (.error (.about .unmatched value))

section
variable {call : Caller} {value : Value} {extra : List Value} {fallback fallback' : Option Value}

private theorem produce_of_isCallable {result : Value} (h : result.isCallable = true) :
    produce call result value extra = call result (value :: extra) := by
  cases result with
  | constant => cases h
  | _ => simp [produce, h]

theorem produces_iff {result : Value} {o : Except Failure Value} :
    Produces call value extra result o ↔ (produce call result value extra).result = o := by
  constructor
  · intro h
    cases h with
    | constant v => rfl
    | answer hcallable => rw [produce_of_isCallable hcallable]
    | plain hconstant hcallable =>
      cases result <;> first | exact absurd rfl (hconstant _) | simp [produce, hcallable]
  · rintro rfl
    cases hcallable : result.isCallable with
    | true =>
      rw [produce_of_isCallable hcallable]
      exact .answer hcallable
    | false =>
      cases result with
      | constant v => exact .constant v
      | _ =>
        simp only [produce, hcallable, Bool.false_eq_true, if_false]
        exact .plain (by simp) hcallable

/-- A dispatch ends as the production of the result that the search finds, or else of the default. -/
theorem result_dispatch (clauses : List Clause) :
    (dispatch call clauses fallback value extra).result =
      (firstMatch call clauses value).result.bind fun found =>
        match found.or fallback with
        | some result => (produce call result value extra).result
        | none => .error (.about .unmatched value) := by
  unfold dispatch
  rw [Outcome.bind_eq_andThen, Outcome.result_andThen]
  congr 1
  funext found
  cases found with
  | some result => rfl
  | none =>
    cases fallback with
    | some result => exact Outcome.result_andThen (.report (.fellBack value)) fun _ => produce call result value extra
    | none => rfl

theorem result_dispatch_nil :
    (dispatch call [] fallback value extra).result =
      match fallback with
      | some result => (produce call result value extra).result
      | none => .error (.about .unmatched value) :=
  result_dispatch []

/-- A list of clauses ends as its first clause, unless that one refuses the value. -/
theorem result_dispatch_cons (m : Matcher) (result : Value) (rest : List Clause) :
    (dispatch call ((m, result) :: rest) fallback value extra).result =
      match (m.test call value).result with
      | .ok true => (produce call result value extra).result
      | .ok false => (dispatch call rest fallback value extra).result
      | .error e => .error e := by
  rw [result_dispatch, firstMatch, Outcome.bind_eq_andThen, Outcome.result_andThen]
  cases (m.test call value).result with
  | error e => rfl
  | ok accepted =>
    cases accepted with
    | true => rfl
    | false => rw [result_dispatch]; rfl

/-- Clauses that refuse the value are passed over. -/
theorem result_dispatch_append_of_refuses {before : List Clause} (h : ∀ c ∈ before, Refuses call value c.1)
    (rest : List Clause) :
    (dispatch call (before ++ rest) fallback value extra).result =
      (dispatch call rest fallback value extra).result := by
  induction before with
  | nil => rfl
  | cons c before ih =>
    obtain ⟨hc, hbefore⟩ := List.forall_mem_cons.mp h
    rw [Refuses] at hc
    rw [List.cons_append, result_dispatch_cons, hc, ih hbefore]

/-- What follows the same clauses may be exchanged for what ends alike. -/
theorem result_dispatch_append_congr {rest rest' : List Clause}
    (h : (dispatch call rest fallback value extra).result = (dispatch call rest' fallback' value extra).result)
    (before : List Clause) :
    (dispatch call (before ++ rest) fallback value extra).result =
      (dispatch call (before ++ rest') fallback' value extra).result := by
  induction before with
  | nil => exact h
  | cons c before ih => rw [List.cons_append, List.cons_append, result_dispatch_cons, result_dispatch_cons, ih]

/-- After a clause that does not refuse the value, neither further clauses nor the default make a difference. -/
theorem result_dispatch_eq_of_not_refuses {c : Clause} (h : ¬ Refuses call value c.1)
    (before after after' : List Clause) :
    (dispatch call (before ++ c :: after) fallback value extra).result =
      (dispatch call (before ++ c :: after') fallback' value extra).result := by
  refine result_dispatch_append_congr ?_ before
  rw [Refuses] at h
  rw [result_dispatch_cons, result_dispatch_cons]
  split <;> simp_all

/-- Every list of clauses either refuses the value throughout or has a first clause that does not. -/
theorem forall_refuses_or_exists_first (call : Caller) (value : Value) (clauses : List Clause) :
    (∀ c ∈ clauses, Refuses call value c.1) ∨
      ∃ before c after, clauses = before ++ c :: after ∧ (∀ d ∈ before, Refuses call value d.1) ∧
        ¬ Refuses call value c.1 := by
  induction clauses with
  | nil => exact Or.inl (by simp)
  | cons c rest ih =>
    by_cases hc : Refuses call value c.1
    · rcases ih with hrest | ⟨before, d, after, rfl, hbefore, hd⟩
      · exact Or.inl (List.forall_mem_cons.mpr ⟨hc, hrest⟩)
      · exact Or.inr ⟨c :: before, d, after, rfl, List.forall_mem_cons.mpr ⟨hc, hbefore⟩, hd⟩
    · exact Or.inr ⟨[], c, rest, rfl, by simp, hc⟩

theorem prescribed_iff {clauses : List Clause} {o : Except Failure Value} :
    Prescribed call value extra clauses fallback o ↔
      (dispatch call clauses fallback value extra).result = o := by
  constructor
  · intro h
    cases h with
    | failure hsplit hbefore htest =>
      rw [hsplit, result_dispatch_append_of_refuses hbefore, result_dispatch_cons, htest]
    | clause hsplit hbefore htest hresult =>
      rw [hsplit, result_dispatch_append_of_refuses hbefore, result_dispatch_cons, htest]
      exact produces_iff.mp hresult
    | default hall hfallback hresult =>
      rw [← List.append_nil clauses, result_dispatch_append_of_refuses hall, result_dispatch_nil, hfallback]
      exact produces_iff.mp hresult
    | unmatched hall hfallback =>
      rw [← List.append_nil clauses, result_dispatch_append_of_refuses hall, result_dispatch_nil, hfallback]
  · rintro rfl
    rcases forall_refuses_or_exists_first call value clauses with hall | ⟨before, ⟨m, result⟩, after, rfl, hbefore, hc⟩
    · rw [← List.append_nil clauses, result_dispatch_append_of_refuses hall, result_dispatch_nil, List.append_nil]
      cases fallback with
      | some result => exact .default hall rfl (produces_iff.mpr rfl)
      | none => exact .unmatched hall rfl
    · rw [result_dispatch_append_of_refuses hbefore, result_dispatch_cons]
      cases htest : (m.test call value).result with
      | error e => exact .failure rfl hbefore htest
      | ok accepted =>
        cases accepted with
        | true => exact .clause rfl hbefore htest (produces_iff.mpr rfl)
        | false => exact absurd htest hc

end

namespace Environment
variable {env : Environment}

/-- The clauses and the default of a pattern, closed or under construction. -/
def content? (env : Environment) : Value → Option (List Clause × Option Value)
  | .builder id => (env.builder? id).map fun b => (b.clauses, b.fallback)
  | .closed _ clauses fallback => some (clauses, fallback)
  | _ => none

/-- A pattern dispatches through its clauses and its default, and calls back one level less deep. -/
theorem callWithin_of_content? {pattern : Value} {clauses : List Clause} {fallback : Option Value}
    (h : env.content? pattern = some (clauses, fallback)) (depth : Nat) (value : Value) (extra : List Value) :
    env.callWithin (depth + 1) pattern (value :: extra) =
      dispatch (env.callWithin depth) clauses fallback value extra := by
  cases pattern with
  | builder id =>
    obtain ⟨b, hb, hcontent⟩ := Option.map_eq_some_iff.mp h
    obtain ⟨rfl, rfl⟩ := Prod.mk.inj hcontent
    simp only [callWithin_succ, answer, hb, dispatchArguments]
  | closed id =>
    obtain ⟨rfl, rfl⟩ := Prod.mk.inj (Option.some.inj h)
    rfl
  | _ => cases h

/-- Every dispatch ends by the first clause whose matcher accepts the value or fails, or else by the default: with the
failure, or with what the result comes to, and without a default because nothing matched, or because that cannot be
told of the value. The clauses after one that decides may be replaced by any others, and the default too. A closed
pattern and one under construction with the same clauses and the same default end alike, whatever they report. -/
theorem dispatch_by_first_decisive_clause {pattern : Value} {clauses : List Clause} {fallback : Option Value}
    (h : env.content? pattern = some (clauses, fallback)) (depth : Nat) (value : Value) (extra : List Value) :
    (∀ o, (env.callWithin (depth + 1) pattern (value :: extra)).result = o ↔
      Prescribed (env.callWithin depth) value extra clauses fallback o) ∧
    (∀ before c after other after' fallback', clauses = before ++ c :: after →
      ¬ Refuses (env.callWithin depth) value c.1 →
      env.content? other = some (before ++ c :: after', fallback') →
      (env.callWithin (depth + 1) other (value :: extra)).result =
        (env.callWithin (depth + 1) pattern (value :: extra)).result) ∧
    ∀ other, env.content? other = some (clauses, fallback) →
      env.callWithin (depth + 1) other (value :: extra) = env.callWithin (depth + 1) pattern (value :: extra) := by
  rw [callWithin_of_content? h]
  refine ⟨fun o => prescribed_iff.symm, ?_, fun other hother => callWithin_of_content? hother depth value extra⟩
  rintro before c after other after' fallback' rfl hc hother
  rw [callWithin_of_content? hother]
  exact result_dispatch_eq_of_not_refuses hc before after' after

/-- A constant that could be called is not, a predicate that fails ends the dispatch, and the clause after it makes no
difference to that. -/
theorem dispatch_by_first_decisive_clause_failing :
    let f := Value.function { name := "f" }
    let lib := { Library.empty with meaning := fun _ arguments => .fail (.absentKey (.tuple arguments)) }
    let decisive : List Clause := [(.literal .null, .constant f), (.predicate f, .null)]
    let env : Environment := ⟨lib, fun _ => none, fun _ => some ⟨0, decisive ++ [(.always, f)], none, false⟩⟩
    (env.call (.builder 0) [.null]).result = .ok f ∧
      (env.call (.builder 0) [.bool true]).result = .error (.absentKey (.tuple [.bool true])) ∧
      (env.call (.closed 0 decisive (some .undefined)) [.bool true]).result =
        .error (.absentKey (.tuple [.bool true])) := by
  intro f lib decisive env
  have hcontent : env.content? (.builder 0) = some (decisive ++ [(.always, f)], none) := rfl
  have hrefuses : ∀ c ∈ [((.literal .null, .constant f) : Clause)], Refuses (env.callWithin 489) (.bool true) c.1 :=
    List.forall_mem_singleton.mpr (by rw [Refuses, Matcher.test]; rfl)
  have hfails : (Matcher.test (env.callWithin 489) (.predicate f) (.bool true)).result =
      .error (.absentKey (.tuple [.bool true])) := by
    rw [Matcher.test]
    rfl
  have haccepts : (Matcher.test (env.callWithin 489) (.literal .null) .null).result = .ok true := by
    rw [Matcher.test]
    rfl
  obtain ⟨hends, hkeeps, -⟩ := dispatch_by_first_decisive_clause hcontent 489 (.bool true) []
  have hbuilder := (hends _).mpr
    (.failure (show _ = [_] ++ (.predicate f, .null) :: [(.always, f)] from rfl) hrefuses hfails)
  refine ⟨?_, hbuilder, ?_⟩
  · refine ((dispatch_by_first_decisive_clause hcontent 489 .null []).1 _).mpr ?_
    exact .clause (show _ = [] ++ (.literal .null, .constant f) :: [_, (.always, f)] from rfl) (by simp) haccepts
      (.constant f)
  · have hdecides : ¬ Refuses (env.callWithin 489) (.bool true) (.predicate f) := by simp [Refuses, hfails]
    exact (hkeeps [_] (.predicate f, .null) _ _ [] (some .undefined) rfl hdecides rfl).trans hbuilder

end Environment

end Clausewise
