import Clausewise.Kind.Plan
/-!
Registries of kinds. A kind accepts some specs and has a plan for each; a registry tries its kinds by
descending priority, among equals in the order of registration, and the first that accepts a spec compiles
it. Specs nest at most to the depth that the registry allows, so compiling ends also for a spec that contains
itself.
-/

namespace Clausewise

/-- A registered kind of pattern. -/
structure Kind where
  label : KindLabel
  priority : Int
  accepts : Value → Except Failure Bool
  /-- The plan for a spec at a depth. -/
  plan : Int → Value → Plan
deriving Inhabited

/-- Kinds in the order of registration, with the greatest depth that specs may have. -/
structure Registry where
  kinds : List Kind
  maxDepth : Int
deriving Inhabited

namespace Registry

def register (r : Registry) (k : Kind) : Registry := { r with kinds := r.kinds ++ [k] }

/-- The kinds in the order in which they are tried. -/
def trialOrder (r : Registry) : List Kind := r.kinds.mergeSort fun a b => decide (b.priority ≤ a.priority)

/-- The first of the kinds that accepts a spec. A kind that fails to decide ends the search. -/
def firstAccepting : List Kind → Value → Except Failure Kind
  | [], spec => .error (.about .unclassifiable spec)
  | k :: ks, spec =>
    match k.accepts spec with
    | .ok true => .ok k
    | .ok false => firstAccepting ks spec
    | .error e => .error e

def resolve (r : Registry) (spec : Value) : Outcome Kind :=
  match firstAccepting r.trialOrder spec with
  | .ok k => ⟨[.resolved k.label spec], .ok k⟩
  | .error e => .fail e

/-- The name of the kind that a spec resolves to. -/
def classify (r : Registry) (spec : Value) : Outcome KindLabel := do
  return (← r.resolve spec).label

/-- Compiles a spec at a depth, with so many levels of depth left from there on. -/
def compileWithin (r : Registry) : Nat → Int → Value → Outcome Matcher
  | 0, _, _ => .fail .nestedTooDeep
  | levels + 1, depth, spec =>
    (r.resolve spec).andThen fun k => (k.plan depth spec).run (compileWithin r levels (depth + 1))

/-- Compiles a spec that stands at a depth. -/
def compileAt (r : Registry) (depth : Int) (spec : Value) : Outcome Matcher :=
  r.compileWithin (r.maxDepth + 1 - depth).toNat depth spec

def compile (r : Registry) (spec : Value) : Outcome Matcher := r.compileAt 0 spec

end Registry

end Clausewise
