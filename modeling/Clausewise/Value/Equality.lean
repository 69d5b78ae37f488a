import Clausewise.Value.Entries
/-!
Equality of values. Classes with a rule of their own decide for their instances, asked on the left side
first; otherwise numbers are equal by exact value, texts and bytes by content, sequences of one shape item
by item, mappings by entries, sets by elements, and everything else only to itself.
-/

namespace Clausewise

/-- Why a comparison of two values has no answer. -/
inductive ComparisonFault where
  /-- An invalid operation of decimal arithmetic. -/
  | invalid
  /-- The two values have no order. -/
  | unordered
  /-- A class refuses the comparison. -/
  | refused (refusal : Refusal)
  /-- The comparison of containers that contain themselves goes on for ever. -/
  | endless
deriving DecidableEq, Inhabited

/-- The fault of values whose numbers cannot be compared. -/
def NumberFault.toComparison : NumberFault → ComparisonFault
  | invalid => .invalid
  | unordered => .unordered

/-- The verdict on two numbers as one on values. -/
def liftNumbers {α : Type} : Except NumberFault α → Except ComparisonFault α
  | .ok a => .ok a
  | .error e => .error e.toComparison

namespace Value

mutual

/-- How many values a value is built from, for bounds on comparisons. -/
def weight : Value → Nat
  | sequence _ items => weightOfAll items + 1
  | mapping _ entries => weightOfEntries entries + 1
  | layers maps => weightOfAll maps + 1
  | set _ elements => weightOfAll elements + 1
  | constant v => weight v + 1
  | cyclic body => weight body + 1
  | _ => 1

def weightOfAll : List Value → Nat
  | [] => 0
  | v :: vs => weight v + weightOfAll vs

/-- The weights of the values of the entries together. -/
def weightOfEntries : List (Value × Value) → Nat
  | [] => 0
  | (_, v) :: rest => weight v + weightOfEntries rest

end

/-- The rule that the class of an instance has for `==`, if it is not identity. -/
def equalityRule? : Value → Option (Except ComparisonFault Bool)
  | object _ c _ =>
    match c.traits.equality with
    | .identity => none
    | .answers verdict => some (.ok verdict)
    | .refuses refusal => some (.error (.refused refusal))
  | _ => none

/-- Items compared one by one, up to the first pair that differs; lists that only differ in length do. -/
def itemsEqual (eq : Value → Value → Except ComparisonFault Bool) :
    List Value → List Value → Except ComparisonFault Bool
  | [], [] => .ok true
  | a :: as, b :: bs =>
    match eq a b with
    | .ok true => itemsEqual eq as bs
    | verdict => verdict
  | _, _ => .ok false

/-- Whether every entry of the first mapping has an equal one in the second. -/
def entriesWithin (eq : Value → Value → Except ComparisonFault Bool) (whole : List (Value × Value)) :
    List (Value × Value) → Except ComparisonFault Bool
  | [] => .ok true
  | (k, v) :: rest =>
    match lookup whole k with
    | none => .ok false
    | some w =>
      match eq v w with
      | .ok true => entriesWithin eq whole rest
      | verdict => verdict

/-- The count under a key; a missing one is zero. -/
def countOf (entries : List (Value × Value)) (k : Value) : Value := (lookup entries k).getD (int 0)

/-- Whether a test holds of the counts in two counters under each of the keys. -/
def countsAgree (test : Value → Value → Except ComparisonFault Bool) (left right : List (Value × Value)) :
    List Value → Except ComparisonFault Bool
  | [] => .ok true
  | k :: ks =>
    match test (countOf left k) (countOf right k) with
    | .ok true => countsAgree test left right ks
    | verdict => verdict

/-- Equality of mappings: counters take a missing count for zero, two ordered mappings also need the same
order of keys, all others the same entries in any order. -/
def mappingsEqual (eq : Value → Value → Except ComparisonFault Bool) (a b : Value)
    (left right : List (Value × Value)) : Except ComparisonFault Bool :=
  match a, b with
  | mapping .counter _, mapping .counter _ =>
    countsAgree eq left right (left.map (·.1) ++ right.map (·.1))
  | mapping .ordered _, mapping .ordered _ =>
    if left.length != right.length then .ok false
    else
      match entriesWithin eq right left with
      | .ok true => .ok ((left.zip right).all fun e => e.1.1.sameKey e.2.1)
      | verdict => verdict
  | _, _ => if left.length != right.length then .ok false else entriesWithin eq right left

/-- The content of a value that holds bytes in any shape. -/
def rawBytes? : Value → Option (List UInt8)
  | bytes content => some content
  | buffer .array content | buffer .view content => some content
  | _ => none

/-- Whether each element of the first set is in the second. -/
def elementsWithin (whole part : List Value) : Bool := part.all fun e => whole.any e.sameKey

/-- Whether two sequences of these shapes compare item by item. -/
def comparableShapes : SequenceShape → SequenceShape → Bool
  | .list, .list => true
  | .list, .wrappedList => true
  | .wrappedList, .list => true
  | .wrappedList, .wrappedList => true
  | .deque, .deque => true
  | .tuple, .tuple => true
  | .tuple, .point => true
  | .point, .tuple => true
  | .point, .point => true
  | _, _ => false

/-- Whether sequences of this shape first compare their lengths. -/
def comparesLengthFirst : SequenceShape → Bool
  | .tuple => false
  | .point => false
  | _ => true

/-- Equality where no class has a rule of its own; `eq` compares the parts. -/
def partsEqual (eq : Value → Value → Except ComparisonFault Bool) (a b : Value) :
    Except ComparisonFault Bool :=
  match a.number?, b.number?, a.text?, b.text?, a.rawBytes?, b.rawBytes?, a.entries?, b.entries? with
  | some m, some n, _, _, _, _, _, _ => liftNumbers (m.equal n)
  | _, _, some s, some t, _, _, _, _ => .ok (s == t)
  | _, _, _, _, some s, some t, _, _ => .ok (s == t)
  | _, _, _, _, _, _, some left, some right => mappingsEqual eq a b left right
  | _, _, _, _, _, _, _, _ =>
    match a, b with
    | sequence p xs, sequence q ys =>
      if !comparableShapes p q then .ok false
      else if comparesLengthFirst p && xs.length != ys.length then .ok false
      else itemsEqual eq xs ys
    | set _ xs, set _ ys => .ok (xs.length == ys.length && elementsWithin ys xs)
    | constant v, constant w => eq v w
    | matcher .always, matcher .always => .ok true
    | _, _ => .ok (a.sameKey b)

/-- Equality of values, through at most `fuel` levels of containers. -/
def equalWithin : Nat → Value → Value → Except ComparisonFault Bool
  | 0, _, _ => .error .endless
  | fuel + 1, a, b =>
    match a.equalityRule?, b.equalityRule? with
    | some verdict, _ => verdict
    | _, some verdict => verdict
    | _, _ => partsEqual (equalWithin fuel) a.expose b.expose

/-- How many levels a comparison of two values can go before it repeats itself. -/
def comparisonBound (a b : Value) : Nat := (a.weight + 1) * (b.weight + 1)

def equal (a b : Value) : Except ComparisonFault Bool := equalWithin (comparisonBound a b) a b

end Value

end Clausewise
