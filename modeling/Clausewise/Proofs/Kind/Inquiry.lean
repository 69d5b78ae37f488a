import Clausewise.Proofs.Kind.Recipe

/-! Compilers that use their registry as they like: they may have specs compiled at any depth, and go on when that
fails, have specs resolved, and look at the kinds and at the depth that is allowed. Recipes are a case of this. -/
namespace Clausewise

/-- Goes on whether there is a result or a failure. -/
def Outcome.whatever {α β : Type} (o : Outcome α) (next : Except Failure α → Outcome β) : Outcome β :=
  ⟨o.events ++ (next o.result).events, (next o.result).result⟩

/-- What a compiler asks of its registry, one thing after the other, until it has a matcher or a failure. -/
inductive Inquiry where
  | done (m : Matcher)
  | fail (e : Failure)
  /-- Has a spec compiled at a depth. -/
  | compile (depth : Int) (spec : Value) (next : Except Failure Matcher → Inquiry)
  /-- Has a spec resolved. -/
  | resolve (spec : Value) (next : Except Failure Kind → Inquiry)
  /-- Asks for the kinds, in the order in which they are tried. -/
  | kinds (next : List Kind → Inquiry)
  | maxDepth (next : Int → Inquiry)

namespace Inquiry

/-- Runs an inquiry in a registry; `supply` compiles the specs that it asks for. -/
def run (r : Registry) (supply : Int → Value → Outcome Matcher) : Inquiry → Outcome Matcher
  | done m => .ok m
  | fail e => .fail e
  | compile depth spec next => (supply depth spec).whatever fun answer => (next answer).run r supply
  | resolve spec next => (r.resolve spec).whatever fun answer => (next answer).run r supply
  | kinds next => (next r.trialOrder).run r supply
  | maxDepth next => (next r.maxDepth).run r supply

/-- What an inquiry can learn of a registry is the order of its kinds and the depth that it allows. -/
theorem run_congr {r r' : Registry} (htrial : r.trialOrder = r'.trialOrder) (hdepth : r.maxDepth = r'.maxDepth)
    (supply : Int → Value → Outcome Matcher) (inquiry : Inquiry) : inquiry.run r supply = inquiry.run r' supply := by
  have hresolve (spec : Value) : r.resolve spec = r'.resolve spec := by rw [Registry.resolve, Registry.resolve, htrial]
  induction inquiry with
  | done m => rfl
  | fail e => rfl
  | compile depth spec next ih => simp only [run, ih]
  | resolve spec next ih => simp only [run, hresolve, ih]
  | kinds next ih => rw [run, run, htrial, ih]
  | maxDepth next ih => rw [run, run, hdepth, ih]

end Inquiry

namespace Recipe

/-- The inquiry that a recipe makes, which ends where a spec that it asks for does not compile. -/
def inquiry : Recipe → Inquiry
  | done m => .done m
  | fail e => .fail e
  | child depth spec next => .compile depth spec fun
    | .ok m => (next m).inquiry
    | .error e => .fail e

theorem run_inquiry (r : Registry) (compile : Int → Value → Outcome Matcher) (recipe : Recipe) :
    recipe.inquiry.run r compile = recipe.run compile := by
  induction recipe with
  | done m => rfl
  | fail e => rfl
  | child depth spec next ih =>
    rw [inquiry, Inquiry.run, run, Outcome.whatever, Outcome.andThen]
    cases (compile depth spec).result with
    | ok m => simp only [ih]
    | error e => simp only [Inquiry.run, Outcome.fail, List.append_nil]

end Recipe

namespace Registry
variable {r r' : Registry}

/-- Compiles a spec at a depth with an inquiry for each kind, where compiling may lead to so many nested calls. -/
def compileAsking (r : Registry) (inquiry : Kind → Int → Value → Inquiry) : Nat → Int → Value → Outcome Matcher
  | 0, _, _ => .fail .callsTooDeep
  | calls + 1, depth, spec =>
    if r.maxDepth < depth then .fail .nestedTooDeep
    else (r.resolve spec).andThen fun k => (inquiry k depth spec).run r (r.compileAsking inquiry calls)

theorem compileAsking_recipes (r : Registry) (recipe : Kind → Int → Value → Recipe) (calls : Nat) (depth : Int)
    (spec : Value) :
    r.compileAsking (fun k depth spec => (recipe k depth spec).inquiry) calls depth spec =
      r.compileFollowing recipe calls depth spec := by
  induction calls generalizing depth spec with
  | zero => rfl
  | succ calls ih =>
    have hinner : r.compileAsking (fun k depth spec => (recipe k depth spec).inquiry) calls =
        r.compileFollowing recipe calls := funext fun depth => funext fun spec => ih depth spec
    simp only [compileAsking, compileFollowing, hinner, Recipe.run_inquiry]

theorem compileAsking_congr (htrial : r.trialOrder = r'.trialOrder) (hdepth : r.maxDepth = r'.maxDepth)
    (inquiry : Kind → Int → Value → Inquiry) (calls : Nat) (depth : Int) (spec : Value) :
    r.compileAsking inquiry calls depth spec = r'.compileAsking inquiry calls depth spec := by
  induction calls generalizing depth spec with
  | zero => rfl
  | succ calls ih =>
    have hinner : r.compileAsking inquiry calls = r'.compileAsking inquiry calls :=
      funext fun depth => funext fun spec => ih depth spec
    simp only [compileAsking, resolve, htrial, hdepth, hinner, Inquiry.run_congr htrial hdepth]

end Registry

end Clausewise
