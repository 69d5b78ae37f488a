import Clausewise.Stock.Shapes
import Clausewise.Value.ClassOf
import Clausewise.Value.Iterate
import Clausewise.Value.Unwritable
/-!
What classes make of their arguments when they are called. Numbers are read from other numbers and from
texts, containers collect what their argument runs through, exceptions keep their arguments.
-/

namespace Clausewise.Stock

/-- The complaint of a class about the types or the number of its arguments. -/
def wrongTypes : Except Failure Value := .error (.complaint .types)

/-- The complaint of a class about a value that it can make nothing of. -/
def unusable : Except Failure Value := .error (.complaint ⟨.badValue, none⟩)

/-- A value that there may be none of, which is a complaint about the value. -/
def orUnusable : Option Value → Except Failure Value
  | some v => .ok v
  | none => unusable

/-- The text without blanks around it. -/
def trimmed (s : String) : List Char :=
  let core := s.toList.dropWhile Char.isWhitespace
  (core.reverse.dropWhile Char.isWhitespace).reverse

/-- The value of a digit or letter as a digit. -/
def digitValue (c : Char) : Nat :=
  if c.isDigit then c.toNat - '0'.toNat else c.toLower.toNat - 'a'.toNat + 10

/-- Whether a character is a digit in a base. -/
def isDigitIn (base : Nat) (c : Char) : Bool := c.isAlphanum && digitValue c < base

/-- A text without its underscores, each of which must stand between two digits of the base. -/
def withoutUnderscores (base : Nat) (afterDigit : Bool) : List Char → Option (List Char)
  | [] => some []
  | '_' :: c :: cs =>
    if afterDigit && isDigitIn base c then (withoutUnderscores base true cs).map (c :: ·) else none
  | c :: cs => if c = '_' then none else (withoutUnderscores base (isDigitIn base c) cs).map (c :: ·)

/-- Whether so many digits of a base are too many to read an integer from. Bases that are powers of two have no
limit. -/
def tooManyDigits (base count : Nat) : Bool := !([2, 4, 8, 16, 32].contains base) && mostDigits < count

/-- The integer that a text writes in a base. -/
def readInt? (base : Nat) (s : String) : Option Int :=
  let (negative, ds) := Numeral.takeSign (trimmed s)
  (withoutUnderscores base false ds).bind fun ds =>
    if ds.isEmpty || !ds.all (isDigitIn base) || tooManyDigits base ds.length then none
    else
      let n : Int := (ds.foldl (fun n c => base * n + digitValue c) 0 : Nat)
      some (if negative then -n else n)

/-- The binary number that a text writes. -/
def readFloat? (s : String) : Option Binary64 :=
  (withoutUnderscores 10 false (trimmed s)).bind fun cs => Binary64.read? (String.ofList cs)

/-- The fraction that a text writes: a numeral, or two integers with a slash between them. -/
def readFraction? (s : String) : Option Rat :=
  (withoutUnderscores 10 false (trimmed s)).bind fun cs =>
    match Numeral.read cs with
    | some x => some (scaled 10 (if x.negative then -(x.coefficient : Int) else x.coefficient) x.exponent)
    | none =>
      let (negative, ds) := Numeral.takeSign (cs.takeWhile (· != '/'))
      let below := (cs.dropWhile (· != '/')).drop 1
      if ds.isEmpty || below.isEmpty || !ds.all Char.isDigit || !below.all Char.isDigit then none
      else if tooManyDigits 10 ds.length || tooManyDigits 10 below.length then none
      else
        let n : Int := Numeral.natOfDigits ds
        some (mkRat (if negative then -n else n) (Numeral.natOfDigits below))

def asciiText (content : List UInt8) : String := String.ofList (content.map fun b => Char.ofNat b.toNat)

/-- The integer part of an exact value. -/
def truncated : Extended → Except Failure Value
  | .finite q => .ok (.int (q.num.tdiv q.den))
  | .nan => unusable
  | _ => .error (.complaint .tooLong)

/-- An integer made of a number or a text. -/
def createInt (v : Value) : Except Failure Value :=
  match v.number?, v.text?, v.rawBytes? with
  | some (.complex ..), _, _ => wrongTypes
  | some n, _, _ => truncated n.realPart
  | _, some s, _ => orUnusable ((readInt? 10 s).map .int)
  | _, _, some content => orUnusable ((readInt? 10 (asciiText content)).map .int)
  | _, _, _ => wrongTypes

/-- An integer made of a text in a base. -/
def createIntInBase (v : Value) (base : Value) : Except Failure Value :=
  match v.text?, base.number? with
  | some s, some (.int b) =>
    if 2 ≤ b ∧ b ≤ 36 then orUnusable ((readInt? b.toNat s).map .int) else unusable
  | _, _ => wrongTypes

def nearest : Number → Except Failure Binary64
  | .float x => .ok x
  | .decimal (.finite negative c e) => .ok (.ofNumeral ⟨negative, c, e⟩)
  | .decimal (.infinity negative) => .ok (.infinity negative)
  | .decimal (.nan _ signalling _) =>
    if signalling then .error (.complaint ⟨.badValue, none⟩) else .ok .nan
  | .complex .. => .error (.complaint .types)
  | .int n =>
    match Binary64.ofInt n with
    | .infinity _ => .error (.complaint .tooLong)
    | x => .ok x
  | .fraction q =>
    match Binary64.ofRat q with
    | .infinity _ => .error (.complaint .tooLong)
    | x => .ok x

/-- A binary number made of a number or a text. -/
def createFloat (v : Value) : Except Failure Value :=
  match v.number?, v.text?, v.rawBytes? with
  | some n, _, _ => (nearest n).map fun x => .number (.float x)
  | _, some s, _ => orUnusable ((readFloat? s).map fun x => .number (.float x))
  | _, _, some content => orUnusable ((readFloat? (asciiText content)).map fun x => .number (.float x))
  | _, _, _ => wrongTypes

/-- The decimal number of the same value as a binary one, with no more places than it needs. -/
def exactDecimal : Binary64 → Decimal
  | .nan => .nan false false none
  | .infinity negative => .infinity negative
  | .finite negative m e =>
    let q := scaled 2 m e
    let places := Nat.log2 q.den
    .finite negative (q.num.natAbs * Nat.pow 5 places) (-places)

/-- A decimal number made of a number or a text. -/
def createDecimal (v : Value) : Except Failure Value :=
  match v.number?, v.text? with
  | some (.int n), _ => .ok (.number (.decimal (.finite (n < 0) n.natAbs 0)))
  | some (.decimal d), _ => .ok (.number (.decimal d))
  | some (.float x), _ => .ok (.number (.decimal (exactDecimal x)))
  | _, some s =>
    match (Decimal.read? (String.ofList ((trimmed s).filter (· != '_')))) with
    | some d => .ok (.number (.decimal d))
    | none => .error .invalidOperation
  | _, _ =>
    match v with
    | .sequence .list _ | .sequence .tuple _ | .sequence .point _ => unusable
    | _ => wrongTypes

/-- A complex number made of a number or a text. -/
def createComplex (v : Value) : Except Failure Value :=
  match v.number?, v.text? with
  | some (.complex re im), _ => .ok (.number (.complex re im))
  | some n, _ => (nearest n).map fun x => .number (.complex x .zero)
  | _, some s => orUnusable ((readFloat? s).map fun x => .number (.complex x .zero))
  | _, _ => wrongTypes

/-- A fraction made of a number or a text. -/
def createFraction (v : Value) : Except Failure Value :=
  match v.number?, v.text? with
  | some (.complex ..), _ => wrongTypes
  | some n, _ =>
    match n.realPart with
    | .finite q => .ok (.number (.fraction q))
    | .nan => unusable
    | _ => .error (.complaint .tooLong)
  | _, some s => orUnusable ((readFraction? s).map fun q => .number (.fraction q))
  | _, _ => wrongTypes

/-- A container of everything that the argument runs through. -/
def createFrom (build : List Value → Value) (v : Value) : Except Failure Value :=
  match v.iterate? with
  | some items => .ok (build items)
  | none => wrongTypes

/-- A set of everything that the argument runs through. -/
def createSet (frozen : Bool) (v : Value) : Except Failure Value :=
  match v.iterate? with
  | some items =>
    if Value.allHashable items then .ok (.set frozen (Value.collectElements items)) else wrongTypes
  | none => wrongTypes

/-- The entry that a pair of values stands for. -/
def pairOf (v : Value) : Except Failure (Value × Value) :=
  match v.iterate? with
  | some [k, w] => if k.isHashable then .ok (k, w) else .error (.complaint .types)
  | some _ => .error (.complaint ⟨.badValue, none⟩)
  | none => .error (.complaint .types)

/-- A mapping with the entries of another, or made of pairs. -/
def createMapping (shape : MappingShape) (v : Value) : Except Failure Value :=
  match v.entries?, v.iterate? with
  | some entries, _ => .ok (.mapping shape (Value.collectEntries entries))
  | _, some items => do return .mapping shape (Value.collectEntries (← items.mapM pairOf))
  | _, _ => wrongTypes

/-- The entries that count how often each value occurs. -/
def countsOf (items : List Value) : List (Value × Value) :=
  items.foldl (fun counts v =>
    let seen : Int := match Value.lookup counts v with
      | some (.number (.int n)) => n
      | _ => 0
    Value.insertEntry v (.int (seen + 1)) counts) []

/-- A counter with the entries of a mapping, or of what the argument runs through. -/
def createCounter (v : Value) : Except Failure Value :=
  match v, v.entries?, v.iterate? with
  | .null, _, _ => .ok (.mapping .counter [])
  | _, some entries, _ => .ok (.mapping .counter entries)
  | _, _, some items => if Value.allHashable items then .ok (.mapping .counter (countsOf items)) else wrongTypes
  | _, _, _ => wrongTypes

/-- A byte for each integer that the argument runs through. -/
def byteOf (v : Value) : Except Failure UInt8 :=
  match v.number? with
  | some (.int n) => if 0 ≤ n ∧ n < 256 then .ok (UInt8.ofNat n.toNat) else .error (.complaint ⟨.badValue, none⟩)
  | _ => .error (.complaint .types)

/-- Bytes made of a number of zeros, of bytes, or of integers. -/
def createBytes (build : List UInt8 → Value) (v : Value) : Except Failure Value :=
  match v.number?, v.text? with
  | some (.int n), _ => if n < 0 then unusable else .ok (build (List.replicate n.toNat 0))
  | some _, _ => wrongTypes
  | _, some _ => wrongTypes
  | _, _ =>
    match v, v.iterate? with
    | .buffer (.grid _) content, _ => .ok (build content)
    | .buffer (.released _) _, _ => .error (.complaint .givenUp)
    | _, some items => do return build (← items.mapM byteOf)
    | _, none => wrongTypes

/-- The integer that an argument must be. -/
def integer? (v : Value) : Option Int :=
  match v.number? with
  | some (.int n) => some n
  | _ => none

/-- A range with the given ends and step. -/
def createRange (start stop step : Int) : Except Failure Value :=
  if step = 0 then unusable else .ok (.range start stop step)

def createCategory (v : Value) : Except Failure Value :=
  match v with
  | .category c => .ok (.category c)
  | _ => orUnusable ((Category.all.find? fun c => v.text? = some c.word).map .category)

/-- The message of a failure as the only argument of the exception that stands for it, with the value it is
about under an attribute. -/
def faultAbout (id : Nat) (c : Class) (message key : String) (about : Value) : Value :=
  .fault id c [.text message] [(key, about)]

/-- An exception of one of the classes of this library. -/
def createOwnFault? (summaries : Nat → BuilderSummary) (id : Nat) (c : Class) (about : Value) : Option Value :=
  let make (failure : Failure) (key : String) : Option Value :=
    (failure.message summaries).map fun message => faultAbout id c message key about
  match c.name with
  | "MatchError" => make (.unmatched about) "value"
  | "NoMatchingKindError" => make (.unclassifiable about) "spec"
  | "ClosedPatternError" => make (.sealed about) "operation"
  | _ => none

/-- Whether a class of exceptions takes exactly one argument, the value that the exception is about. -/
def isAboutOneValue (c : Class) : Bool :=
  decide (c = .matchError ∨ c = .noMatchingKindError ∨ c = .closedPatternError)

def createFault (summaries : Nat → BuilderSummary) (id : Nat) (c : Class) (arguments : List Value)
    (own : List (String × Value)) : Except Failure Value :=
  if isAboutOneValue c then
    match arguments with
    | [about] =>
      match about.writingFault?, createOwnFault? summaries id c about with
      | some fault, _ => .error fault.toFailure
      | none, some (.fault id c arguments own') => .ok (.fault id c arguments (own' ++ own))
      | none, _ => wrongTypes
    | _ => wrongTypes
  else .ok (.fault id c arguments own)

/-- The plain form of a value, if it can be written. -/
def createText (summaries : Nat → BuilderSummary) (v : Value) : Except Failure Value :=
  match v.writingFault? with
  | some fault => .error fault.toFailure
  | none => .ok (.text (v.plain summaries))

/-- What a class of the host makes of one argument. -/
def createOfOne (summaries : Nat → BuilderSummary) (c : Class) (v : Value) : Except Failure Value :=
  match c.name with
  | "bool" => .ok (.bool v.truth)
  | "str" => createText summaries v
  | "int" => createInt v
  | "float" => createFloat v
  | "complex" => createComplex v
  | "Decimal" => createDecimal v
  | "Fraction" => createFraction v
  | "list" => createFrom .list v
  | "tuple" => createFrom .tuple v
  | "deque" => createFrom (.sequence .deque) v
  | "UserList" =>
    match v with
    | .null => .ok (.sequence .wrappedList [])
    | _ => createFrom (.sequence .wrappedList) v
  | "set" => createSet false v
  | "frozenset" => createSet true v
  | "dict" => createMapping .plain v
  | "OrderedDict" => createMapping .ordered v
  | "Counter" => createCounter v
  | "UserDict" => match v with | .null => .ok (.mapping .wrapped []) | _ => createMapping .wrapped v
  | "mappingproxy" =>
    match v.entries? with
    | some entries => .ok (.mapping .readOnly entries)
    | none => wrongTypes
  | "bytes" => createBytes .bytes v
  | "bytearray" => createBytes (.buffer .array) v
  | "memoryview" =>
    match v.bytes?, v with
    | some content, _ => .ok (.buffer .view content)
    | _, .buffer .array content => .ok (.buffer .view content)
    | _, .buffer (.released _) _ => .error (.complaint .givenUp)
    | _, .buffer shape content => .ok (.buffer shape content)
    | _, _ => wrongTypes
  | "range" =>
    match integer? v with
    | some n => createRange 0 n 1
    | none => wrongTypes
  | "type" => .ok (.cls v.classOf)
  | "Category" => createCategory v
  | _ => wrongTypes

/-- What a class of the host makes of several arguments. -/
def createOfMany (c : Class) (arguments : List Value) : Except Failure Value :=
  match c.name, arguments with
  | "int", [v, base] => createIntInBase v base
  | "range", [a, b] =>
    match integer? a, integer? b with
    | some start, some stop => createRange start stop 1
    | _, _ => wrongTypes
  | "range", [a, b, s] =>
    match integer? a, integer? b, integer? s with
    | some start, some stop, some step => createRange start stop step
    | _, _, _ => wrongTypes
  | _, _ => wrongTypes

def create (summaries : Nat → BuilderSummary) (c : Class) (arguments : List Value) : Except Failure Value :=
  match c.traits.uncreatable with
  | some complaint => .error (.complaint complaint)
  | none =>
    if c.derivesFrom .baseException then createFault summaries 0 c arguments []
    else if c.home = "__main__" then wrongTypes
    else
      match arguments with
      | [v] => createOfOne summaries c v
      | _ => createOfMany c arguments

end Clausewise.Stock
