import Clausewise.Number.Binary64
/-!
The shortest decimal text that reads back as a given binary number: the fewest digits inside the interval
of reals that round to it and, among those, the nearest to its value. How the digits are laid out is one
record, `FloatLayout`.
-/

namespace Clausewise

namespace Binary64

/-- The exponent `k` with `10 ^ (k - 1) ≤ q < 10 ^ k`, for positive `q`. -/
def decimalOrder (q : Rat) : Int :=
  if 1 ≤ q then digitCount q.floor.toNat
  else 1 - (digitCount ((q⁻¹).ceil.toNat - 1) : Int)

/-- The reals that round to `m * 2 ^ e`: both ends, which belong to it exactly when `m` is even. -/
def roundingInterval (m : Nat) (e : Int) : Rat × Rat :=
  let below : Rat := if m = Nat.pow 2 52 ∧ leastExponent < e then mkRat 1 4 else mkRat 1 2
  ((m - below) * scaled 2 1 e, (m + mkRat 1 2) * scaled 2 1 e)

/-- Whether a real rounds to `m * 2 ^ e`. -/
def roundsTo (m : Nat) (e : Int) (x : Rat) : Bool :=
  let (lo, hi) := roundingInterval m e
  if m % 2 = 0 then lo ≤ x && x ≤ hi else lo < x && x < hi

/-- The neighbours of `v` on the grid of multiples of `unit` that satisfy `accept`, the nearer one first. -/
def gridChoice (accept : Rat → Bool) (v unit : Rat) : Option Nat :=
  let below := (v / unit).floor.toNat
  let belowFits := accept (below * unit)
  let aboveFits := accept ((below + 1 : Nat) * unit)
  if belowFits && aboveFits then
    let toBelow := v - below * unit
    let toAbove := (below + 1 : Nat) * unit - v
    some (if toBelow < toAbove then below
      else if toAbove < toBelow then below + 1
      else if below % 2 = 0 then below else below + 1)
  else if belowFits then some below
  else if aboveFits then some (below + 1)
  else none

/-- Tries ever finer grids, `count` of them, beginning with `digits` significant digits. -/
def searchDigits (accept : Rat → Bool) (v : Rat) (order : Int) (digits : Nat) : Nat → Nat × Int
  | 0 => ((v / scaled 10 1 (order - digits)).floor.toNat, order - digits)
  | count + 1 =>
    match gridChoice accept v (scaled 10 1 (order - digits)) with
    | some d => (d, order - digits)
    | none => searchDigits accept v order (digits + 1) count

/-- Strips trailing zeros, at most `fuel` of them, raising the exponent instead. -/
def stripZeros : Nat → Nat × Int → Nat × Int
  | 0, x => x
  | fuel + 1, (d, e) => if d ≠ 0 ∧ d % 10 = 0 then stripZeros fuel (d / 10, e + 1) else (d, e)

/-- The shortest `digits * 10 ^ exponent` that reads back as `m * 2 ^ e`, for positive `m`. -/
def shortest (m : Nat) (e : Int) : Nat × Int :=
  let v := scaled 2 m e
  stripZeros 17 (searchDigits (roundsTo m e) v (decimalOrder v) 1 17)

end Binary64

/-- How the digits of a floating-point number are laid out. -/
structure FloatLayout where
  /-- Numbers below `10 ^ leastPositional` take an exponent. -/
  leastPositional : Int
  /-- Numbers from `10 ^ mostPositional` on take an exponent. -/
  mostPositional : Int
  /-- Whether a whole number keeps a point and a zero. -/
  keepsPoint : Bool
  /-- The least number of digits of a written exponent. -/
  exponentDigits : Nat

namespace FloatLayout

/-- Floating-point numbers are positional from `10 ^ -4` to below `10 ^ 16`, whole ones with `.0`. -/
def real : FloatLayout := ⟨-4, 16, true, 2⟩

/-- Parts of complex numbers are laid out alike, without the `.0`. -/
def complexPart : FloatLayout := { real with keepsPoint := false }

/-- Writes an exponent with its sign and at least the layout's number of digits. -/
def exponentText (l : FloatLayout) (e : Int) : List Char :=
  let ds := decimalDigits e.natAbs
  (if e < 0 then '-' else '+') :: (List.replicate (l.exponentDigits - ds.length) '0' ++ ds)

/-- Writes `digits * 10 ^ exponent`. -/
def magnitudeText (l : FloatLayout) (digits : Nat) (exponent : Int) : List Char :=
  let ds := decimalDigits digits
  let order := exponent + ds.length
  if l.leastPositional < order ∧ order ≤ l.mostPositional then
    if order ≤ 0 then
      "0.".toList ++ List.replicate (-order).toNat '0' ++ ds
    else if ds.length ≤ order.toNat then
      ds ++ List.replicate (order.toNat - ds.length) '0' ++ (if l.keepsPoint then ".0".toList else [])
    else ds.take order.toNat ++ ['.'] ++ ds.drop order.toNat
  else
    let mantissa := match ds with
      | d :: e :: more => d :: '.' :: e :: more
      | _ => ds
    mantissa ++ 'e' :: l.exponentText (order - 1)

/-- Writes a floating-point number. -/
def text (l : FloatLayout) : Binary64 → List Char
  | .nan => "nan".toList
  | .infinity negative => if negative then "-inf".toList else "inf".toList
  | .finite negative m e =>
    let body := if m = 0 then '0' :: (if l.keepsPoint then ".0".toList else [])
      else
        let (d, k) := Binary64.shortest m e
        l.magnitudeText d k
    if negative then '-' :: body else body

end FloatLayout

end Clausewise
