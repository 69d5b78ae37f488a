import Clausewise.Failure
import Clausewise.Number.Arithmetic
/-!
What functions need of values: their length, their items in order, and their sum and difference.
-/

namespace Clausewise.Value

def characters (s : String) : List Value := s.toList.map fun c => text (String.singleton c)

/-- Bytes as integers. -/
def octets (content : List UInt8) : List Value := content.map fun b => int b.toNat

/-- What a value runs through: items, characters, bytes, elements or keys. -/
def iterate? (v : Value) : Option (List Value) :=
  match v.expose with
  | text s | derivedText s => some (characters s)
  | kind k => some (characters k.word)
  | bytes content | buffer .array content | buffer .view content => some (octets content)
  | buffer .. => none
  | set _ elements => some elements
  | shown =>
    match shown.entries?, shown.items? with
    | some entries, _ => some (entries.map (·.1))
    | _, items => items

/-- The length of a value that has one, unless the value refuses to tell. -/
def measure (v : Value) : Except Failure Nat :=
  match v.length?, v.iterate? with
  | some n, _ => if v.refusesLength then .error (.complaint .tooLong) else .ok n
  | _, some items => .ok items.length
  | _, _ => (v.withheld?.elim (.error .types) Withheld.length).mapError .complaint

/-- The outcome of arithmetic on numbers, as one on values. -/
def ofNumber : Except NumberFault Number → Except Failure Value
  | .ok n => .ok (number n)
  | .error e => .error e.toComparison.toFailure

/-- The sum of two numbers, or one sequence after another of its family. -/
def add (a b : Value) : Except Failure Value :=
  match a.number?, b.number?, a.text?, b.text? with
  | some m, some n, _, _ => ofNumber (m.add n)
  | _, _, some s, some t => .ok (text (s ++ t))
  | _, _, _, _ =>
    match a.expose, b.expose with
    | bytes s, bytes t => .ok (bytes (s ++ t))
    | sequence .list xs, sequence .list ys => .ok (list (xs ++ ys))
    | sequence .tuple xs, sequence .tuple ys => .ok (tuple (xs ++ ys))
    | sequence .tuple xs, sequence .point ys => .ok (tuple (xs ++ ys))
    | sequence .point xs, sequence .tuple ys => .ok (tuple (xs ++ ys))
    | sequence .point xs, sequence .point ys => .ok (tuple (xs ++ ys))
    | sequence .deque xs, sequence .deque ys => .ok (sequence .deque (xs ++ ys))
    | sequence .wrappedList xs, sequence .wrappedList ys => .ok (sequence .wrappedList (xs ++ ys))
    | sequence .wrappedList xs, sequence .list ys => .ok (sequence .wrappedList (xs ++ ys))
    | _, _ => .error (.complaint .types)

/-- The difference of two numbers. -/
def sub (a b : Value) : Except Failure Value :=
  match a.number?, b.number? with
  | some m, some n => ofNumber (m.sub n)
  | _, _ => .error (.complaint .types)

end Clausewise.Value
