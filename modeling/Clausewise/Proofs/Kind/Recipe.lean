import Clausewise.Proofs.Kind.Resolution

/-! Plans carried out in two ways that agree, and recipes, which are plans with a choice of depth. Compiling by the
plans of the kinds is a case of compiling by recipes. -/
namespace Clausewise

namespace Outcome
variable {α β : Type} {excused : Failure → Prop} {o o' : Outcome α}

/-- That the second computation is the first, unless the first fails in an excused way. -/
def SameUnless (excused : Failure → Prop) (o o' : Outcome α) : Prop :=
  (∃ e, excused e ∧ o.result = .error e) ∨ o' = o

theorem SameUnless.refl (excused : Failure → Prop) (o : Outcome α) : o.SameUnless excused o := Or.inr rfl

theorem SameUnless.andThen {next next' : α → Outcome β} (h : o.SameUnless excused o')
    (hnext : ∀ a, (next a).SameUnless excused (next' a)) :
    (o.andThen next).SameUnless excused (o'.andThen next') := by
  rcases h with ⟨e, hexcused, hfails⟩ | heq
  · exact Or.inl ⟨e, hexcused, by rw [result_andThen, hfails]; rfl⟩
  · rw [heq]
    cases hresult : o.result with
    | error e => exact Or.inr (by simp only [Outcome.andThen, hresult])
    | ok a =>
      rcases hnext a with ⟨e, hexcused, hfails⟩ | hsame
      · exact Or.inl ⟨e, hexcused, by rw [result_andThen, hresult]; exact hfails⟩
      · exact Or.inr (by simp only [Outcome.andThen, hresult, hsame])

theorem SameUnless.eq (h : o.SameUnless excused o') (hresult : ∀ e, excused e → o.result ≠ .error e) : o' = o := by
  rcases h with ⟨e, hexcused, hfails⟩ | heq
  · exact absurd hfails (hresult e hexcused)
  · exact heq

end Outcome

/-- A plan that says for each spec it asks for at which depth it stands. -/
inductive Recipe where
  | done (m : Matcher)
  | fail (e : Failure)
  | child (depth : Int) (spec : Value) (next : Matcher → Recipe)

namespace Recipe

/-- Runs a recipe; `compile` supplies the matchers that it asks for. -/
def run (compile : Int → Value → Outcome Matcher) : Recipe → Outcome Matcher
  | done m => .ok m
  | fail e => .fail e
  | child depth spec next => (compile depth spec).andThen fun m => (next m).run compile

theorem run_sameUnless {excused : Failure → Prop} {compile compile' : Int → Value → Outcome Matcher}
    (h : ∀ depth spec, (compile depth spec).SameUnless excused (compile' depth spec)) (recipe : Recipe) :
    (recipe.run compile).SameUnless excused (recipe.run compile') := by
  induction recipe with
  | done m => exact .refl excused _
  | fail e => exact .refl excused _
  | child depth spec next ih => exact (h depth spec).andThen ih

end Recipe

namespace Plan

/-- The recipe of a plan, all of whose specs stand at one depth. -/
def recipe (depth : Int) : Plan → Recipe
  | done m => .done m
  | fail e => .fail e
  | child spec next => .child depth spec fun m => (next m).recipe depth

theorem run_recipe (compile : Int → Value → Outcome Matcher) (depth : Int) (plan : Plan) :
    (plan.recipe depth).run compile = plan.run (compile depth) := by
  induction plan with
  | done m => rfl
  | fail e => rfl
  | child spec next ih => simp only [recipe, Recipe.run, run, ih]

theorem run_sameUnless {excused : Failure → Prop} {compile compile' : Value → Outcome Matcher}
    (h : ∀ spec, (compile spec).SameUnless excused (compile' spec)) (plan : Plan) :
    (plan.run compile).SameUnless excused (plan.run compile') := by
  have hrecipe := Recipe.run_sameUnless (fun _ spec => h spec) (plan.recipe 0)
  rwa [run_recipe, run_recipe] at hrecipe

end Plan

namespace Registry

/-- Compiles a spec at a depth with a recipe for each kind, where compiling may lead to so many nested calls. -/
def compileFollowing (r : Registry) (recipe : Kind → Int → Value → Recipe) : Nat → Int → Value → Outcome Matcher
  | 0, _, _ => .fail .callsTooDeep
  | calls + 1, depth, spec =>
    if r.maxDepth < depth then .fail .nestedTooDeep
    else (r.resolve spec).andThen fun k => (recipe k depth spec).run (r.compileFollowing recipe calls)

/-- Following the plans of the kinds is compiling, if there may be as many nested calls as there are depths left. -/
theorem compileFollowing_plans (r : Registry) {calls : Nat} {depth : Int} (h : r.maxDepth - depth < calls)
    (spec : Value) :
    r.compileFollowing (fun k depth spec => (k.plan depth spec).recipe (depth + 1)) (calls + 1) depth spec =
      r.compileAt depth spec := by
  induction calls generalizing depth spec with
  | zero => rw [compileFollowing, compileAt_step, if_pos (by omega), if_pos (by omega)]
  | succ calls ih =>
    rw [compileFollowing, compileAt_step]
    split
    · rfl
    · have hinner : r.compileFollowing (fun k depth spec => (k.plan depth spec).recipe (depth + 1)) (calls + 1)
          (depth + 1) = r.compileAt (depth + 1) := funext fun spec => ih (by omega) spec
      simp only [Plan.run_recipe, hinner]

end Registry

end Clausewise
