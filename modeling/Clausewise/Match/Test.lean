import Clausewise.Outcome
import Clausewise.Value.Family
import Clausewise.Match.Search
/-!
What matchers test. Container patterns are floors: a sequence pattern looks at the first items, a mapping
pattern at the entries under its own keys, and whatever else the value holds does not matter. Tests run from
left to right and stop at the first that decides. How functions and classes answer, how searches end and what queries
select are parameters.
-/

namespace Clausewise

/-- What tests depend on beyond the matcher and the value. -/
structure Caller where
  /-- How a callable value answers a list of arguments. -/
  answer : Value → List Value → Outcome Value
  /-- How a search for a regular expression ends. -/
  search : RegexPattern → Array Nat → SearchEnd
  /-- What the query that a text writes selects from a value; `extended` queries know one more function. -/
  select : String → (extended : Bool) → Value → Except Failure Value

instance : CoeFun Caller fun _ => Value → List Value → Outcome Value := ⟨Caller.answer⟩

/-- Answers calls, but finds nothing and selects nothing. -/
def Caller.answering (answer : Value → List Value → Outcome Value) : Caller :=
  ⟨answer, fun _ _ => .missing, fun _ _ _ => .error .noSuchOperation⟩

namespace Matcher

/-- A comparison that cannot be made because of the types at hand counts as a no. -/
def forgiving : Except ComparisonFault Bool → Except Failure Bool
  | .ok holds => .ok holds
  | .error e => if e.isAboutTypes then .ok false else .error e.toFailure

def comparisonVerdict (c : Comparison) (v bound : Value) : Except Failure Bool :=
  forgiving (Value.ordered c v bound)

/-- Whether a value lies between two bounds, both included. The lower bound is asked first. -/
def rangeVerdict (low high v : Value) : Except Failure Bool :=
  forgiving do
    if ← Value.ordered .le low v then Value.ordered .le v high else .ok false

/-- What a test of so many items from the first comes to on a sequence that withholds them. They are not asked for if
there are too few, nor if the test is of none. -/
def prefixVerdict (withheld : Value.Withheld) (count : Nat) : Except Failure Bool :=
  match withheld.length with
  | .error complaint => .error (.complaint complaint)
  | .ok n => if n < count then .ok false else if count = 0 then .ok true else .error (.complaint withheld.items)

/-- Whether a value is the integer `d`; no other number will do. -/
def isDepth (d : Int) : Value → Bool
  | .number (.int n) => n == d
  | _ => false

mutual

def test (call : Caller) : Matcher → Value → Outcome Bool
  | always, _ => .ok true
  | literal expected, v => .ofComparison (expected.strictEqual v)
  | sequence items, v =>
    match v.withheld? with
    | some withheld => .ofExcept (prefixVerdict withheld items.length)
    | none =>
      match v.length? with
      | none => .ok false
      | some n =>
        if v.refusesLength then .fail (.complaint .tooLong)
        else if n < items.length then .ok false else (testItems call items v 0).iterated
  | mapping fields, v =>
    match v.withheld? with
    | some withheld => .fail (.complaint withheld.items)
    | none =>
      if !v.isObject || v.entryCount < fields.length then .ok false else testFields call fields v
  | regex pattern limit, v => .ofExcept (pattern.verdictBy (call.search pattern) limit v)
  | instanceOf classes, v => .ofExcept (v.isInstanceOfAny classes)
  | category c, v => .ok (c.contains v)
  | predicate callee, v => do return (← call callee [v]).truth
  | anyOf alternatives, v => (testAny call alternatives v).iterated
  | allOf conditions, v => (testAll call conditions v).iterated
  | negation inner, v => do return !(← test call inner v)
  | query source extended inner, v => do
    test call inner (← Outcome.ofExcept (call.select source extended v))
  | comparison c bound, v => .ofExcept (comparisonVerdict c v bound)
  | between low high, v => .ofExcept (rangeVerdict low high v)
  | equality expected, v => .ofComparison (v.equal expected)
  | verdict answer, _ => .ok answer
  | depth d, v => .ok (isDepth d v)

/-- Whether the matchers accept the items of a sequence, from an index on. -/
def testItems (call : Caller) : List Matcher → Value → Nat → Outcome Bool
  | [], _, _ => .ok true
  | m :: ms, v, i =>
    match v.item? i with
    | none => .ok false
    | some item => do
      if ← test call m item then testItems call ms v (i + 1) else return false

/-- Whether a value has every key and the matchers accept the values there. -/
def testFields (call : Caller) : List (Value × Matcher) → Value → Outcome Bool
  | [], _ => .ok true
  | (k, m) :: rest, v =>
    match v.entry? k with
    | none => .ok false
    | some entry => do
      if ← test call m entry then testFields call rest v else return false

/-- Whether one of the matchers accepts a value. -/
def testAny (call : Caller) : List Matcher → Value → Outcome Bool
  | [], _ => .ok false
  | m :: ms, v => do
    if ← test call m v then return true else testAny call ms v

/-- Whether all the matchers accept a value. -/
def testAll (call : Caller) : List Matcher → Value → Outcome Bool
  | [], _ => .ok true
  | m :: ms, v => do
    if ← test call m v then testAll call ms v else return false

end

end Matcher

end Clausewise
