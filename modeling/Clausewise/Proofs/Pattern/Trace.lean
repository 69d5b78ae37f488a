import Clausewise.Proofs.Kind.Descent
import Clausewise.Proofs.Match.Decision
import Clausewise.Proofs.Match.Reports
import Clausewise.Proofs.Pattern.Runs
import Mathlib.Data.List.TakeWhile

/-! What is reported on the way, event by event. Compiling reports the specs that it classifies, in preorder up to the
first that it refuses; registering a clause reports its place; and a dispatch reports that no clause decides, if so.
Where reports are written as they come, the first that cannot be written is the end of all this. -/
namespace Clausewise

namespace Outcome
variable {α : Type}

end Outcome

namespace Event

end Event

namespace Registry
variable {limit : Value} {maxDepth : Int} {visits : List (Nat × Value)}

/-- The report of a spec that a built-in kind decides on. -/
def resolution? (visit : Nat × Value) : Option Event :=
  visit.2.kind?.map fun k => .resolved (.builtIn k) visit.2

/-- What compiling reports with visits ahead of it: each of them with its kind, in order, up to the first that does not
pass, which is what it fails for. -/
inductive Traced (maxDepth : Int) (visits : List (Nat × Value)) {α : Type} : Outcome α → Prop
  | compiled {events : List Event} {a : α} : events.map some = visits.map resolution? →
      Traced maxDepth visits ⟨events, .ok a⟩
  | refused {before after : List (Nat × Value)} {x : Nat × Value} {events : List Event} :
      visits = before ++ x :: after → ¬ Passes maxDepth x → events.map some = before.map resolution? →
      Traced maxDepth visits ⟨events, .error (refusalOf maxDepth x)⟩

end Registry

namespace Builder
variable {registry : Nat → Registry} {b : Builder} {spec result : Value}

/-- What registering a clause reports: what compiling its spec does, and then the place that the clause has and its
matcher; if it fails, what has been reported by then. -/
inductive Traced (compiled : Outcome Matcher) (b : Builder) : Outcome Unit → Prop
  | registered {m : Matcher} : b.closed = false → compiled.result = .ok m →
      Traced compiled b ⟨compiled.events ++ [.registered b.clauses.length m], .ok ()⟩
  | refused {e : Failure} : b.closed = false → compiled.result = .error e →
      Traced compiled b ⟨compiled.events, .error e⟩
  | sealed : b.closed = true → Traced compiled b (.fail (.sealed (.text "when")))

end Builder

namespace Session
variable {s : Session} {name : String} {id : Nat} {b b' : Builder}

end Session

section
variable {call : Caller} {value : Value} {extra : List Value} {clauses : List Clause} {fallback : Option Value}

end

end Clausewise
