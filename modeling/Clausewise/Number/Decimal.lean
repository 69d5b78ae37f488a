import Clausewise.Number.Scaled
import Clausewise.Number.Numeral
/-!
Decimal floating-point numbers: a sign, a coefficient and a power of ten that keep the digits as written,
two infinities, and quiet or signalling absences of a number.
-/

namespace Clausewise

/-- A decimal number; the finite ones are `± coefficient * 10 ^ exponent`. -/
inductive Decimal where
  | finite (negative : Bool) (coefficient : Nat) (exponent : Int)
  | infinity (negative : Bool)
  | nan (negative : Bool) (signalling : Bool) (payload : Option Nat)
deriving DecidableEq, Inhabited

namespace Decimal

def toExtended : Decimal → Extended
  | finite negative c e => .finite (scaled 10 (if negative then -(c : Int) else c) e)
  | infinity negative => .infinity negative
  | nan .. => .nan

/-- Whether this is a signalling absence of a number. -/
def isSignalling : Decimal → Bool
  | nan _ signalling _ => signalling
  | _ => false

/-- The diagnostic digits after `nan`; leading zeros are dropped. -/
def readPayload (ds : List Char) : Option (Option Nat) :=
  if ds.isEmpty then some none
  else if ds.all Char.isDigit then
    let n := Numeral.natOfDigits ds
    some (if n = 0 then none else some n)
  else none

/-- Reads a numeral, `inf`, `infinity`, `nan` or `snan` with optional digits, in any letter case. -/
def read? (s : String) : Option Decimal :=
  let (negative, word) := Numeral.takeSign (s.toList.map Char.toLower)
  if word = "inf".toList ∨ word = "infinity".toList then some (infinity negative)
  else if "nan".toList.isPrefixOf word then (readPayload (word.drop 3)).map (nan negative false)
  else if "snan".toList.isPrefixOf word then (readPayload (word.drop 4)).map (nan negative true)
  else (Numeral.readUnsigned negative word).map fun x => finite x.negative x.coefficient x.exponent

/-- Writes a signed exponent after `E`. -/
def exponentText (e : Int) : List Char :=
  'E' :: (if e < 0 then '-' else '+') :: decimalDigits e.natAbs

/-- Writes a number: positional while the exponent is not positive and the leading digit stands at most
six places after the point, else with one digit before the point and an exponent. -/
def text : Decimal → List Char
  | infinity negative => (if negative then ['-'] else []) ++ "Infinity".toList
  | nan negative signalling payload =>
    (if negative then ['-'] else []) ++ (if signalling then ['s'] else []) ++ "NaN".toList ++
      (match payload with | none => [] | some n => decimalDigits n)
  | finite negative c e =>
    let ds := decimalDigits c
    let left : Int := e + ds.length
    let point : Int := if e ≤ 0 ∧ -6 < left then left else 1
    let body :=
      if point ≤ 0 then "0.".toList ++ List.replicate (-point).toNat '0' ++ ds
      else if ds.length ≤ point.toNat then ds ++ List.replicate (point.toNat - ds.length) '0'
      else ds.take point.toNat ++ ['.'] ++ ds.drop point.toNat
    (if negative then ['-'] else []) ++ body ++ (if left = point then [] else exponentText (left - point))

/-- The number of digits that arithmetic keeps. -/
def precision : Nat := 28

/-- Rounds a coefficient to the precision of arithmetic, a half to the even neighbour. -/
def rounded (negative : Bool) (c : Nat) (e : Int) : Decimal :=
  let excess := digitCount c - precision
  if excess = 0 then finite negative c e
  else
    let r := roundHalfEven c (Nat.pow 10 excess)
    if digitCount r > precision then finite negative (r / 10) (e + excess + 1)
    else finite negative r (e + excess)

/-- The sign turned over. -/
def neg : Decimal → Decimal
  | finite negative c e => finite (!negative) c e
  | infinity negative => infinity !negative
  | nan negative signalling payload => nan (!negative) signalling payload

/-- Addition: exact, then rounded to the precision. It is undefined on a signalling operand and on
infinities of unlike sign. -/
def add? (a b : Decimal) : Option Decimal :=
  if a.isSignalling || b.isSignalling then none
  else match a, b with
    | nan s t p, _ => some (nan s t p)
    | _, nan s t p => some (nan s t p)
    | infinity s, infinity t => if s = t then some (infinity s) else none
    | infinity s, _ => some (infinity s)
    | _, infinity t => some (infinity t)
    | finite s c e, finite t d f =>
      let low := min e f
      let left : Int := c * Nat.pow 10 (e - low).toNat
      let right : Int := d * Nat.pow 10 (f - low).toNat
      let sum := (if s then -left else left) + (if t then -right else right)
      some (rounded (if sum = 0 then s && t else sum < 0) sum.natAbs low)

end Decimal

end Clausewise
