import Clausewise.Outcome
/-!
Plans: how a kind of pattern compiles its specs. A plan ends with a matcher or a failure, or asks for the
matcher of a further spec and goes on with it. Whoever runs the plan supplies that matcher, so a plan cannot
tell how deep it stands, cannot catch the failure of a spec it asks for, and makes no other use of the
registry.
-/

namespace Clausewise

/-- A plan for a matcher. -/
inductive Plan where
  | done (m : Matcher)
  | fail (e : Failure)
  | child (spec : Value) (next : Matcher → Plan)

instance : Inhabited Plan := ⟨.done .always⟩

namespace Plan

/-- Runs a plan; `compile` supplies the matchers that it asks for. -/
def run (compile : Value → Outcome Matcher) : Plan → Outcome Matcher
  | done m => .ok m
  | fail e => .fail e
  | child spec next => (compile spec).andThen fun m => (next m).run compile

/-- Asks for the matchers of the specs one after the other. -/
def each : List Value → (List Matcher → Plan) → Plan
  | [], next => next []
  | spec :: specs, next => child spec fun m => each specs fun ms => next (m :: ms)

/-- Asks for the matcher of the spec under each key, one after the other. -/
def eachField : List (Value × Value) → (List (Value × Matcher) → Plan) → Plan
  | [], next => next []
  | (key, spec) :: rest, next => child spec fun m => eachField rest fun fields => next ((key, m) :: fields)

end Plan

end Clausewise
