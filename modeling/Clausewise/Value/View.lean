import Clausewise.Classes
import Clausewise.Value.Basic
/-!
Views of values: the text, the number, the bytes or the items that a value stands for, and the families
that patterns tell apart. The families are defined once here; every kind of pattern uses these tests.

Objects and exceptions may be of any class, also of one that derives from numbers, texts, byte strings, sequences or
mappings. Such a value is counted into the families of its class, but what it holds is not told, and neither is what its
class has of its own to compare it, to call it or to look into it.
-/

namespace Clausewise.Value

/-- The content of a value that is a text. -/
def text? : Value → Option String
  | text s => some s
  | derivedText s => some s
  | kind k => some k.word
  | _ => none

/-- The number that a value counts as; truth values count as one and zero. -/
def number? : Value → Option Number
  | bool b => some (.int (if b then 1 else 0))
  | number n => some n
  | _ => none

/-- The content of a value that is a string of bytes. -/
def bytes? : Value → Option (List UInt8)
  | bytes content => some content
  | _ => none

/-- Whether the value is one of the two absences. -/
def isAbsent : Value → Bool
  | null => true
  | undefined => true
  | _ => false

def isBool : Value → Bool
  | bool _ => true
  | _ => false

/-- Whether the value is a number or a truth value. -/
def isNumeric (v : Value) : Bool := v.number?.isSome

def isText (v : Value) : Bool := v.text?.isSome

/-- Whether the value is a plain byte string. -/
def isBytes (v : Value) : Bool := v.bytes?.isSome

/-- Whether the value is an object or an exception of a class that derives from another. -/
def isMadeFrom (v : Value) (c : Class) : Bool :=
  match v with
  | object _ d _ | fault _ d _ _ => d.derivesFrom c
  | _ => false

theorem isMadeFrom_of_derivesFrom {v : Value} {c d : Class} (h : c.derivesFrom d = true)
    (hv : v.isMadeFrom c = true) : v.isMadeFrom d = true := by
  cases v with
  | object | fault => exact Class.derivesFrom_trans hv h
  | _ => cases hv

/-- Whether the value is a sequence, texts and byte strings excluded. -/
def isSequence (v : Value) : Bool :=
  match v.expose with
  | sequence .. => true
  | range .. => true
  | buffer shape _ => shape != .array
  | _ => v.isMadeFrom .sequence && !(v.isMadeFrom .str || v.isMadeFrom .bytes || v.isMadeFrom .bytearray)

/-- Whether the value is absent or a truth value, number, text or byte string. -/
def isLiteral (v : Value) : Bool :=
  v.isAbsent || (v.isNumeric || v.isText || v.isBytes)

/-- Whether the value is neither absent nor a truth value, number, text or byte string, of a class of its own either. -/
def isObject (v : Value) : Bool :=
  !v.isLiteral && !(v.isMadeFrom .number || v.isMadeFrom .str || v.isMadeFrom .bytes)

/-- Whether the value is an object or an exception whose class gives it a shape, which is not told. -/
def hidesShape (v : Value) : Bool := v.isMadeFrom .number || v.isMadeFrom .sequence || v.isMadeFrom .mapping

def isFault (v : Value) : Bool := v.isMadeFrom .baseException

/-- How many integers a range runs through. -/
def rangeLength (start stop step : Int) : Nat :=
  if 0 < step then ((stop - start + step - 1) / step).toNat
  else if step < 0 then ((start - stop - step - 1) / (-step)).toNat
  else 0

/-- How many items a sequence has that hands them out. -/
def length? (v : Value) : Option Nat :=
  match v.expose with
  | sequence _ items => some items.length
  | range start stop step => some (rangeLength start stop step)
  | buffer .view content => some content.length
  | _ => none

/-- The largest length that can be asked for. -/
def largestLength : Nat := Nat.pow 2 63 - 1

/-- Whether the value refuses to tell its length: a range that runs through more integers than can be asked
for. Every other sequence holds its items, and tells how many. -/
def refusesLength (v : Value) : Bool :=
  match v.expose with
  | range start stop step => decide (largestLength < rangeLength start stop step)
  | _ => false

/-- The item of a sequence at an index. -/
def item? (v : Value) (i : Nat) : Option Value :=
  match v.expose with
  | sequence _ items => items[i]?
  | range start stop step => if i < rangeLength start stop step then some (int (start + i * step)) else none
  | buffer .view content => content[i]?.map fun b => int b.toNat
  | _ => none

def items? (v : Value) : Option (List Value) :=
  match v.expose with
  | sequence _ items => some items
  | range start stop step =>
    some ((List.range (rangeLength start stop step)).map fun (i : Nat) => int (start + i * step))
  | buffer .view content => some (content.map fun b => int b.toNat)
  | _ => none

/-- What a sequence says that does not hand out its items: when it is asked for them, and when it is asked how many
there are. -/
structure Withheld where
  items : Complaint
  length : Except Complaint Nat

/-- What a view says of its items if it is not a view of bytes in a row: the rows of a view with several dimensions can
be counted only. -/
def withheld? (v : Value) : Option Withheld :=
  match v.expose with
  | buffer (.grid []) _ => some ⟨.types, .error .types⟩
  | buffer (.grid (rows :: _)) _ => some ⟨.manyDimensions, .ok rows⟩
  | buffer (.released _) _ => some ⟨.givenUp, .error .givenUp⟩
  | _ => none

mutual

/-- Whether a mapping has an entry; layers have one if one of them does. -/
def hasEntry : Value → Bool
  | layers maps => anyHasEntry maps
  | v =>
    match v.expose with
    | mapping _ entries => !entries.isEmpty
    | _ => false

def anyHasEntry : List Value → Bool
  | [] => false
  | m :: ms => m.hasEntry || anyHasEntry ms

end

/-- Whether the value counts as true. Absences, zeros and empty texts, byte strings and containers do not. -/
def truth (v : Value) : Bool :=
  match v.expose with
  | null | undefined => false
  | bool b => b
  | number n => n.truth
  | text s | derivedText s => !s.isEmpty
  | bytes content | buffer _ content => !content.isEmpty
  | sequence _ items => !items.isEmpty
  | range start stop step => rangeLength start stop step != 0
  | set _ elements => !elements.isEmpty
  | mapping _ entries => !entries.isEmpty
  | layers maps => anyHasEntry maps
  | _ => true

end Clausewise.Value
