import Clausewise.Number.Decimal
import Clausewise.Number.Shortest
/-!
Numbers of five families: integers, binary and decimal floating-point numbers, complex numbers and
fractions. Equality and order are those of the exact values, whatever the families of the two sides. Two
questions have no answer: whether a complex number is smaller, and anything that a signalling decimal, or
the order of a decimal against an absent number, is asked.
-/

namespace Clausewise

/-- A number of one of the five families. -/
inductive Number where
  | int (n : Int)
  | float (x : Binary64)
  | complex (re im : Binary64)
  | decimal (d : Decimal)
  | fraction (q : Rat)
deriving DecidableEq, Inhabited

/-- Why two numbers cannot be compared. -/
inductive NumberFault where
  /-- The question is an invalid operation of decimal arithmetic. -/
  | invalid
  /-- The families have no order. -/
  | unordered
deriving DecidableEq, Inhabited

namespace Number

def realPart : Number → Extended
  | int n => .finite n
  | float x => x.toExtended
  | complex re _ => re.toExtended
  | decimal d => d.toExtended
  | fraction q => .finite q

/-- The exact imaginary part; zero for all but complex numbers. -/
def imaginaryPart : Number → Extended
  | complex _ im => im.toExtended
  | _ => .finite 0

def isComplex : Number → Bool
  | complex .. => true
  | _ => false

def isDecimal : Number → Bool
  | decimal _ => true
  | _ => false

def isSignalling : Number → Bool
  | decimal d => d.isSignalling
  | _ => false

def isNaN (a : Number) : Bool := a.realPart.isNaN || a.imaginaryPart.isNaN

/-- Whether the number lies on the real line, so that a decimal can be compared with it for equality. -/
def isReal (a : Number) : Bool := decide (a.imaginaryPart = .finite 0)

/-- Whether the exact values are equal; an absent number equals nothing. -/
def sameValue (a b : Number) : Bool :=
  a.realPart.same b.realPart && a.imaginaryPart.same b.imaginaryPart

/-- Equality. A signalling decimal refuses every comparison with a number on the real line. -/
def equal (a b : Number) : Except NumberFault Bool :=
  if (a.isSignalling && b.isReal) || (b.isSignalling && a.isReal) then .error .invalid
  else if a.isSignalling || b.isSignalling then .ok false
  else .ok (a.sameValue b)

/-- Order of two real numbers; `none` where one of them is absent. -/
def order (a b : Number) : Except NumberFault (Option Ordering) :=
  if a.isComplex || b.isComplex then .error .unordered
  else if (a.isDecimal || b.isDecimal) && (a.isNaN || b.isNaN) then .error .invalid
  else .ok (a.realPart.order b.realPart)

/-- Whether a number counts as true: all but the zeros do. -/
def truth : Number → Bool
  | int n => n != 0
  | float x => !x.isZero
  | complex re im => !(re.isZero && im.isZero)
  | decimal (.finite _ c _) => c != 0
  | decimal _ => true
  | fraction q => q != 0

/-- Writes an integer. -/
def intText (n : Int) : List Char :=
  if n < 0 then '-' :: decimalDigits n.natAbs else decimalDigits n.natAbs

/-- Writes a complex number: the imaginary part alone when the real part is a positive zero. -/
def complexText (re im : Binary64) : List Char :=
  let imText := FloatLayout.complexPart.text im
  if re.isZero && !re.isNegative then imText ++ ['j']
  else
    let sign := if imText.head? = some '-' then [] else ['+']
    '(' :: FloatLayout.complexPart.text re ++ sign ++ imText ++ "j)".toList

/-- Writes a number the way it is shown inside other values. -/
def display : Number → List Char
  | int n => intText n
  | float x => FloatLayout.real.text x
  | complex re im => complexText re im
  | decimal d => "Decimal('".toList ++ d.text ++ "')".toList
  | fraction q => "Fraction(".toList ++ intText q.num ++ ", ".toList ++ decimalDigits q.den ++ [')']

end Number

end Clausewise
