import Clausewise.Number.Scaled
import Clausewise.Number.Numeral
/-!
Binary floating-point numbers of 64 bits as exact data: a sign, a significand below `2 ^ 53` and an
exponent, two infinities, and no number. Arithmetic is exact arithmetic on rationals followed by one
rounding to the nearest representable number, ties to the even significand.
-/

namespace Clausewise

/-- A 64-bit binary floating-point number; the finite ones are `± significand * 2 ^ exponent`. -/
inductive Binary64 where
  | nan
  | infinity (negative : Bool)
  | finite (negative : Bool) (significand : Nat) (exponent : Int)
deriving DecidableEq, Inhabited

namespace Binary64

def zero : Binary64 := finite false 0 0

def toExtended : Binary64 → Extended
  | nan => .nan
  | infinity negative => .infinity negative
  | finite negative m e => .finite (scaled 2 (if negative then -(m : Int) else m) e)

/-- Whether the sign bit is set. -/
def isNegative : Binary64 → Bool
  | nan => false
  | infinity negative => negative
  | finite negative _ _ => negative

/-- Whether the number is a zero of either sign. -/
def isZero : Binary64 → Bool
  | finite _ 0 _ => true
  | _ => false

/-- The sign turned over. -/
def neg : Binary64 → Binary64
  | nan => nan
  | infinity negative => infinity !negative
  | finite negative m e => finite (!negative) m e

/-- The smallest exponent of a significand. -/
def leastExponent : Int := -1074

/-- The floor of the binary logarithm of `n / d`, for positive `n` and `d`. -/
def log2Quotient (n d : Nat) : Int :=
  let e : Int := (Nat.log2 n : Int) - Nat.log2 d
  let below := if 0 ≤ e then n < d * Nat.pow 2 e.toNat else n * Nat.pow 2 (-e).toNat < d
  if below then e - 1 else e

/-- The number nearest to `± n / d`; from the midpoint above the largest finite number on, an infinity. -/
def ofQuotient (negative : Bool) (n d : Nat) : Binary64 :=
  if n = 0 then finite negative 0 0
  else
    let shift := max (log2Quotient n d - 52) leastExponent
    let m := if 0 ≤ shift then roundHalfEven n (d * Nat.pow 2 shift.toNat)
      else roundHalfEven (n * Nat.pow 2 (-shift).toNat) d
    if m = 0 then finite negative 0 0
    else
      let (m, shift) := if m = Nat.pow 2 53 then (Nat.pow 2 52, shift + 1) else (m, shift)
      if shift > 971 then infinity negative else finite negative m shift

/-- The number nearest to a rational. -/
def ofRat (q : Rat) : Binary64 := ofQuotient (q < 0) q.num.natAbs q.den

/-- The number nearest to an integer. -/
def ofInt (n : Int) : Binary64 := ofQuotient (n < 0) n.natAbs 1

/-- The number nearest to a decimal numeral. An exponent far outside the range is decided by its size. -/
def ofNumeral (x : Numeral) : Binary64 :=
  let order := x.exponent + digitCount x.coefficient
  if x.coefficient = 0 ∨ order < -400 then finite x.negative 0 0
  else if order > 400 then infinity x.negative
  else if 0 ≤ x.exponent then ofQuotient x.negative (x.coefficient * Nat.pow 10 x.exponent.toNat) 1
  else ofQuotient x.negative x.coefficient (Nat.pow 10 (-x.exponent).toNat)

/-- Reads a numeral, `inf`, `infinity` or `nan`, with an optional sign, in any letter case. -/
def read? (s : String) : Option Binary64 :=
  let (negative, word) := Numeral.takeSign (s.toList.map Char.toLower)
  if word = "inf".toList ∨ word = "infinity".toList then some (infinity negative)
  else if word = "nan".toList then some nan
  else (Numeral.readUnsigned negative word).map ofNumeral

/-- Addition: exact, then rounded once. Zeros of unlike sign and exact cancellation give positive zero. -/
def add (a b : Binary64) : Binary64 :=
  match a, b with
  | nan, _ => nan
  | _, nan => nan
  | infinity s, infinity t => if s = t then infinity s else nan
  | infinity s, _ => infinity s
  | _, infinity t => infinity t
  | finite s m e, finite t n f =>
    let sum := scaled 2 (if s then -(m : Int) else m) e + scaled 2 (if t then -(n : Int) else n) f
    if sum = 0 then finite (s && t) 0 0 else ofRat sum

/-- Subtraction as addition of the opposite. -/
def sub (a b : Binary64) : Binary64 := a.add b.neg

end Binary64

end Clausewise
