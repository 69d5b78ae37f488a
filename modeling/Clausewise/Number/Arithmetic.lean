import Clausewise.Number.Basic
/-!
Addition and subtraction of numbers of mixed families. An integer joins any family, a fraction turns into a
binary number beside one, every real number but a decimal turns into a complex one beside one, and a decimal
mixes with integers only.
-/

namespace Clausewise.Number

/-- The number as a binary one, where its family allows it beside binary numbers. -/
def toBinary? : Number → Option Binary64
  | int n => some (.ofInt n)
  | float x => some x
  | fraction q => some (.ofRat q)
  | _ => none

/-- The number as the two parts of a complex one, where its family allows it beside complex numbers. -/
def toComplex? : Number → Option (Binary64 × Binary64)
  | complex re im => some (re, im)
  | a => a.toBinary?.map (·, .zero)

/-- The number as a decimal one, where its family allows it beside decimals. -/
def toDecimal? : Number → Option Decimal
  | int n => some (.finite (n < 0) n.natAbs 0)
  | decimal d => some d
  | _ => none

/-- The sum; families that do not mix have none. -/
def add (a b : Number) : Except NumberFault Number :=
  match a, b with
  | int m, int n => .ok (int (m + n))
  | fraction p, fraction q => .ok (fraction (p + q))
  | fraction p, int n => .ok (fraction (p + n))
  | int m, fraction q => .ok (fraction (m + q))
  | _, _ =>
    if a.isDecimal || b.isDecimal then
      match a.toDecimal?, b.toDecimal? with
      | some c, some d =>
        match c.add? d with
        | some s => .ok (decimal s)
        | none => .error .invalid
      | _, _ => .error .unordered
    else if a.isComplex || b.isComplex then
      match a.toComplex?, b.toComplex? with
      | some (r, i), some (s, j) => .ok (complex (r.add s) (i.add j))
      | _, _ => .error .unordered
    else
      match a.toBinary?, b.toBinary? with
      | some x, some y => .ok (float (x.add y))
      | _, _ => .error .unordered

/-- The number with its sign turned over. -/
def neg : Number → Number
  | int n => int (-n)
  | float x => float x.neg
  | complex re im => complex re.neg im.neg
  | decimal d => decimal (match d with | .nan .. => d | _ => d.neg)
  | fraction q => fraction (-q)

/-- The difference, as the sum with the opposite. -/
def sub (a b : Number) : Except NumberFault Number := a.add b.neg

end Clausewise.Number
