import Clausewise.Proofs.Spec.Verdict

/-! Compiling a spec and testing with its matcher, against asking the spec itself. The two come to the same verdicts
and fail alike, apart from two things that only the matcher of a list does: it asks the value for its length, which
very long ranges refuse to tell, and it goes through the items in an iteration, where a failure by exhaustion becomes
another. -/
namespace Clausewise

namespace Outcome
variable {α β : Type} {o o' : Outcome α} {next next' : α → Outcome β}

/-- That an operation ends as another does, or as the other does when it is a step of an iteration. -/
def Follows (o o' : Outcome α) : Prop := o = o' ∨ o = o'.iterated

theorem Follows.refl (o : Outcome α) : o.Follows o := .inl rfl

/-- An operation that has a result is followed by itself only, and one that fails has no continuation. -/
theorem Follows.andThen (h : o.Follows o') (hnext : ∀ a, (next a).Follows (next' a)) :
    (o.andThen next).Follows (o'.andThen next') := by
  obtain ⟨events, e | a⟩ := o'
  · rcases h with rfl | rfl
    · exact .inl rfl
    · exact .inr rfl
  · obtain rfl : o = ⟨events, .ok a⟩ := h.elim id id
    rcases hnext a with heq | heq
    · left
      simp only [andThen, heq]
    · right
      simp only [andThen, heq]
      rfl

/-- In an iteration the two end alike. -/
theorem Follows.iterated (h : o.Follows o') : o.iterated = o'.iterated := by
  rcases h with rfl | rfl
  · rfl
  · exact iterated_iterated o'

end Outcome

namespace Value

mutual

/-- Whether a spec holds of a value, read off the spec. A list holds of the sequences that are long enough if its specs
hold of the first items, a mapping of the values with enough entries if it has its keys and what is under them holds
there, both from the first to the first that does not. -/
def holds (limit : Value) (call : Caller) : Value → Value → Outcome Bool
  | .sequence _ specs, v =>
    match v.withheld? with
    | some withheld => .ofExcept (Matcher.prefixVerdict withheld specs.length)
    | none =>
      match v.items? with
      | none => .ok false
      | some items => if items.length < specs.length then .ok false else holdsOfItems limit call specs items
  | .mapping _ fields, v =>
    match v.withheld? with
    | some withheld => .fail (.complaint withheld.items)
    | none =>
      if v.isObject && decide (fields.length ≤ v.entryCount) then holdsOfEntries limit call fields v else .ok false
  | .cyclic body, v => holds limit call body v
  | .regex p, v => .ofExcept (p.verdictBy (call.search p) limit v)
  | .cls c, v => .ofExcept (v.isInstanceOfAny [c])
  | .category c, v => .ok (c.contains v)
  | .matcher m, v => m.test call v
  | spec, v =>
    if spec.isLiteral then .ofComparison (spec.strictEqual v)
    else do return (← call spec [v]).truth

def holdsOfItems (limit : Value) (call : Caller) : List Value → List Value → Outcome Bool
  | [], _ => .ok true
  | _ :: _, [] => .ok false
  | spec :: specs, item :: items => do
    if ← holds limit call spec item then holdsOfItems limit call specs items else return false

def holdsOfEntries (limit : Value) (call : Caller) : List (Value × Value) → Value → Outcome Bool
  | [], _ => .ok true
  | (key, spec) :: rest, v =>
    match v.entry? key with
    | none => .ok false
    | some entry => do
      if ← holds limit call spec entry then holdsOfEntries limit call rest v else return false

end

variable {limit v : Value} {call : Caller} {specs items : List Value} {fields : List (Value × Value)}

end Value

namespace Registry
open Value
variable {limit spec v : Value} {maxDepth : Int} {m : Matcher}

end Registry

end Clausewise
