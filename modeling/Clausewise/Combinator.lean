import Clausewise.Kind.BuiltIn
import Clausewise.Query.Select
/-!
Combinators: matchers made of specs and bounds. The specs of a combinator are compiled when it is made, from
left to right, and the first that does not compile is its failure.
-/

namespace Clausewise

namespace Registry

/-- Compiles specs one after the other. -/
def compileAll (r : Registry) : List Value → Outcome (List Matcher)
  | [] => .ok []
  | spec :: specs => do
    let m ← r.compile spec
    return m :: (← r.compileAll specs)

/-- Accepts what one of the specs accepts. -/
def either (r : Registry) (specs : List Value) : Outcome Matcher := do
  return .anyOf (← (r.compileAll specs).iterated)

/-- Accepts what all the specs accept. -/
def allOf (r : Registry) (specs : List Value) : Outcome Matcher := do
  return .allOf (← (r.compileAll specs).iterated)

/-- Accepts what the spec does not accept. -/
def negate (r : Registry) (spec : Value) : Outcome Matcher := do
  return .negation (← r.compile spec)

/-- Accepts a value if the spec accepts what a query selects from it. The spec is compiled before `read` reads the
query, and a query that it refuses makes no matcher. -/
def queryBy (read : String → Except Failure Unit) (r : Registry) (source : String) (spec : Value)
    (extended : Bool) : Outcome Matcher := do
  let inner ← r.compile spec
  Outcome.ofExcept (read source)
  return .query source extended inner

def query (r : Registry) (source : String) (spec : Value) (extended : Bool) : Outcome Matcher :=
  r.queryBy Query.check source spec extended

end Registry

namespace Matcher

def class? : Value → Option Class
  | .cls c => some c
  | _ => none

/-- Whether a compiled spec is the spec itself. A spec that is a matcher shows in the written form of every
other matcher made of it, so the two have one written form only if they are the same. -/
def isSpec (summaries : Nat → BuilderSummary) (m : Matcher) : Value → Bool
  | .matcher spec => m.display summaries == spec.display summaries
  | _ => false

/-- Accepts the instances of at least one of the classes; there must be one, and nothing but classes. -/
def instanceOfAny (classes : List Value) : Except Failure Matcher :=
  match classes.mapM class? with
  | some (c :: cs) => .ok (.instanceOf (c :: cs))
  | _ => .error .noClasses

end Matcher

end Clausewise
