import Clausewise.Kind.Registry
import Clausewise.Value.Family
/-!
The seven built-in kinds of pattern: literals, sequences, regular expressions, classes, categories, mappings
and predicates, and the registry that holds them. Every value that can be a pattern belongs to one of them,
and only classes belong to two.
-/

namespace Clausewise

namespace KindName

/-- Whether a spec belongs to the kind. -/
def accepts : KindName → Value → Bool
  | literal, spec => spec.isLiteral
  | sequence, spec =>
    match spec.expose with
    | .sequence .list _ | .sequence .tuple _ | .sequence .point _ => true
    | _ => false
  | regex, spec => match spec with | .regex _ => true | _ => false
  | constructor, spec => match spec with | .cls _ => true | _ => false
  | category, spec => match spec with | .category _ => true | _ => false
  | mapping, spec => match spec.expose with | .mapping .plain _ => true | _ => false
  | predicate, spec => spec.isCallable

/-- The plan of the kind for a spec that belongs to it; `limit` is the time limit of searches. -/
def plan (limit : Value) : KindName → Value → Plan
  | literal, spec => .done (.literal spec)
  | sequence, spec => .each (spec.items?.getD []) fun ms => .done (.sequence ms)
  | regex, spec =>
    match spec with
    | .regex p => .done (.regex p limit)
    | _ => .fail .noSuchOperation
  | constructor, spec =>
    match spec with
    | .cls c => .done (.instanceOf [c])
    | _ => .fail (.complaint .types)
  | category, spec =>
    match spec with
    | .category c => .done (.category c)
    | _ => .fail (.absentKey spec)
  | mapping, spec =>
    match spec.entries? with
    | some entries => .eachField entries fun fields => .done (.mapping fields)
    | none => .fail .noSuchOperation
  | predicate, spec =>
    match spec with
    | .matcher m => .done m
    | _ => .done (.predicate spec)

def priority : KindName → Int
  | literal => 70
  | sequence => 60
  | regex => 50
  | constructor => 40
  | category => 30
  | mapping => 20
  | predicate => 10

end KindName

namespace Kind

def builtIn (limit : Value) (name : KindName) (label : KindLabel) (priority : Int) : Kind :=
  ⟨label, priority, fun spec => .ok (name.accepts spec), fun _ spec => name.plan limit spec⟩

end Kind

namespace Registry

/-- The time limit of searches where none is asked for: two seconds. -/
def usualLimit : Value := .number (.float (.ofInt 2))

/-- The greatest depth of specs where none is asked for. -/
def usualDepth : Int := 100

def builtIn (limit : Value) (maxDepth : Int) : Registry where
  kinds := KindName.all.map fun name => .builtIn limit name (.builtIn name) name.priority
  maxDepth := maxDepth

/-- The registry that is used where no other is given. -/
def standard : Registry := builtIn usualLimit usualDepth

end Registry

end Clausewise
