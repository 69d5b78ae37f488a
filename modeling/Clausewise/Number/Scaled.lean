/-!
Exact scaled quantities: an integer times a power of a base, the quotient rounded to the nearest
integer, and numbers extended by two infinities and by the absence of a number. Every numeric family of
the library is compared through these, so no comparison ever rounds.
-/

namespace Clausewise

/-- The rational `m * base ^ e`. -/
def scaled (base : Nat) (m : Int) (e : Int) : Rat :=
  if 0 ≤ e then ((m * (Nat.pow base e.toNat : Nat) : Int) : Rat) else mkRat m (Nat.pow base (-e).toNat)

/-- The integer nearest to `n / d`; a half goes to the even neighbour. -/
def roundHalfEven (n d : Nat) : Nat :=
  let q := n / d
  let r := 2 * (n % d)
  if r > d ∨ (r = d ∧ q % 2 = 1) then q + 1 else q

/-- The decimal digits of a natural number, most significant first. -/
def decimalDigits (n : Nat) : List Char := Nat.toDigits 10 n

/-- How many decimal digits a natural number has; zero has one. -/
def digitCount (n : Nat) : Nat := (decimalDigits n).length

/-- A rational number, one of two infinities, or no number at all. -/
inductive Extended where
  | nan
  | negInf
  | finite (q : Rat)
  | posInf
deriving DecidableEq, Inhabited

namespace Extended

def infinity (negative : Bool) : Extended := if negative then negInf else posInf

def isNaN : Extended → Bool
  | nan => true
  | _ => false

/-- Equality of numbers; the absence of a number equals nothing, itself included. -/
def same (a b : Extended) : Bool := !a.isNaN && decide (a = b)

/-- The order of two numbers; undefined as soon as one of them is none. -/
def order : Extended → Extended → Option Ordering
  | nan, _ => none
  | _, nan => none
  | finite p, finite q => some (if p < q then .lt else if p = q then .eq else .gt)
  | negInf, negInf => some .eq
  | negInf, _ => some .lt
  | _, negInf => some .gt
  | posInf, posInf => some .eq
  | posInf, _ => some .gt
  | _, posInf => some .lt

end Extended

end Clausewise
