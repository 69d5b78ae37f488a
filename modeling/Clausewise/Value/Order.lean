import Clausewise.Value.Equality
/-!
The order comparisons of values. Numbers compare by exact value, texts, bytes, dates and sequences of one
shape lexicographically, sets by inclusion and counters count by count; classes with a rule of their own
decide for their instances, asked on the left side first. All other pairs have no order.
-/

namespace Clausewise

namespace Comparison

/-- The comparison as the other side sees it. -/
def flip : Comparison → Comparison
  | lt => gt
  | le => ge
  | gt => lt
  | ge => le

/-- What the comparison says of two things in this order. -/
def holds : Comparison → Ordering → Bool
  | lt, o => o == .lt
  | le, o => o != .gt
  | gt, o => o == .gt
  | ge, o => o != .lt

end Comparison

/-- The verdict of a class's rule on a comparison asked of its instance. -/
def OrderingRule.verdict? (c : Comparison) : OrderingRule → Option (Except ComparisonFault Bool)
  | absent => none
  | answers lt le gt ge => some (.ok (match c with | .lt => lt | .le => le | .gt => gt | .ge => ge))
  | refuses refusal => some (.error (.refused refusal))

namespace Value

/-- The verdict that the class of an instance has on a comparison, if it has a rule. -/
def orderingRule? (c : Comparison) : Value → Option (Except ComparisonFault Bool)
  | object _ k _ => k.traits.ordering.verdict? c
  | _ => none

/-- Lexicographic order of lists of natural numbers. -/
def listOrder : List Nat → List Nat → Ordering
  | [], [] => .eq
  | [], _ => .lt
  | _, [] => .gt
  | a :: as, b :: bs => if a < b then .lt else if b < a then .gt else listOrder as bs

/-- The parts of a point in time, from the year on. -/
def momentParts (day : CalendarDay) (time : Option ClockTime) : List Nat :=
  [day.year, day.month, day.day] ++
    match time with
    | none => []
    | some t => [t.hour, t.minute, t.second, t.microsecond]

/-- Sequences compared at the first pair of items that differ, by length if there is none. -/
def itemsOrdered (c : Comparison) (cmp : Value → Value → Except ComparisonFault Bool) :
    List Value → List Value → Except ComparisonFault Bool
  | [], [] => .ok (c.holds .eq)
  | [], _ => .ok (c.holds .lt)
  | _, [] => .ok (c.holds .gt)
  | a :: as, b :: bs =>
    match equal a b with
    | .ok true => itemsOrdered c cmp as bs
    | .ok false => cmp a b
    | .error e => .error e

/-- Inclusion of sets, proper for the strict comparisons. -/
def setsOrdered (c : Comparison) (xs ys : List Value) : Bool :=
  match c with
  | .lt => xs.length < ys.length && elementsWithin ys xs
  | .le => xs.length ≤ ys.length && elementsWithin ys xs
  | .gt => ys.length < xs.length && elementsWithin xs ys
  | .ge => ys.length ≤ xs.length && elementsWithin xs ys

/-- Counters compare count by count; a strict comparison also asks that they differ. -/
def countersOrdered (cmp : Comparison → Value → Value → Except ComparisonFault Bool) (c : Comparison)
    (left right : List (Value × Value)) : Except ComparisonFault Bool :=
  let keys := left.map (·.1) ++ right.map (·.1)
  let (weak, strict) := match c with
    | .lt => (Comparison.le, true)
    | .le => (Comparison.le, false)
    | .gt => (Comparison.ge, true)
    | .ge => (Comparison.ge, false)
  match countsAgree (cmp weak) left right keys with
  | .ok true =>
    if strict then (countsAgree equal left right keys).map (!·) else .ok true
  | verdict => verdict

/-- Whether two holders of bytes have an order: plain strings between themselves, and a byte array with any
holder. -/
def bytesOrderable : Value → Value → Bool
  | bytes _, bytes _ => true
  | buffer .array _, _ => true
  | _, buffer .array _ => true
  | _, _ => false

/-- Order where no class has a rule of its own; `cmp` compares the parts. -/
def partsOrdered (cmp : Comparison → Value → Value → Except ComparisonFault Bool) (c : Comparison)
    (a b : Value) : Except ComparisonFault Bool :=
  match a.number?, b.number?, a.text?, b.text?, a.rawBytes?, b.rawBytes? with
  | some m, some n, _, _, _, _ =>
    (liftNumbers (m.order n)).map fun o => (o.map c.holds).getD false
  | _, _, some s, some t, _, _ =>
    .ok (c.holds (listOrder (s.toList.map Char.toNat) (t.toList.map Char.toNat)))
  | _, _, _, _, some s, some t =>
    if bytesOrderable a b then .ok (c.holds (listOrder (s.map UInt8.toNat) (t.map UInt8.toNat)))
    else .error .unordered
  | _, _, _, _, _, _ =>
    match a, b with
    | sequence p xs, sequence q ys =>
      if comparableShapes p q then itemsOrdered c (cmp c) xs ys else .error .unordered
    | set _ xs, set _ ys => .ok (setsOrdered c xs ys)
    | mapping .counter left, mapping .counter right => countersOrdered cmp c left right
    | moment d t, moment e u =>
      if t.isSome == u.isSome then .ok (c.holds (listOrder (momentParts d t) (momentParts e u)))
      else .error .unordered
    | _, _ => .error .unordered

/-- A comparison of values, through at most `fuel` levels of containers. -/
def orderedWithin : Nat → Comparison → Value → Value → Except ComparisonFault Bool
  | 0, _, _, _ => .error .endless
  | fuel + 1, c, a, b =>
    match a.orderingRule? c, b.orderingRule? c.flip with
    | some verdict, _ => verdict
    | _, some verdict => verdict
    | _, _ => partsOrdered (orderedWithin fuel) c a.expose b.expose

/-- Whether a comparison holds between two values. -/
def ordered (c : Comparison) (a b : Value) : Except ComparisonFault Bool :=
  orderedWithin (comparisonBound a b) c a b

end Value

end Clausewise
