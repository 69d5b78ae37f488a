import Clausewise.Query.Notation
import Clausewise.Number.Arithmetic
import Clausewise.Text.LetterCase
/-!
The functions of queries. Each has a signature of argument types, checked before it runs; types are told by
the exact shape of a value, so a derived text or a counter is of no type that a function asks for.
-/

namespace Clausewise

/-- The types that the functions of queries tell apart. -/
inductive QueryType where
  | boolean
  | array
  | object
  | null
  | string
  | number
  | reference
  | unknown
deriving DecidableEq, Inhabited

/-- An argument of a function: a value, or an expression to be applied to values. -/
inductive QueryArgument where
  | value (v : Value)
  | reference (apply : Value → Except Failure Value)

/-- What a function asks of an argument: anything, one of some types, or an array whose elements are all of
one of some types. -/
inductive ArgumentRule where
  | anything
  | oneOf (types : List QueryType)
  | arrayOf (types : List QueryType)
deriving Inhabited

namespace QueryType

def ofValue (v : Value) : QueryType :=
  match v.expose with
  | .bool _ => boolean
  | .sequence .list _ => array
  | .mapping .plain _ => object
  | .mapping .ordered _ => object
  | .null => null
  | .text _ => string
  | .number (.int _) => number
  | .number (.float _) => number
  | _ => unknown

def ofArgument : QueryArgument → QueryType
  | .value v => ofValue v
  | .reference _ => reference

end QueryType

namespace Query

/-- The failure of an argument of the wrong type. -/
def typeFault : Failure := .queryFault .wrongType

def listItems? (v : Value) : Option (List Value) :=
  match v.expose with
  | .sequence .list items => some items
  | _ => none

/-- Checks one argument against its rule. Where elements may be of several types, the first one decides. -/
def checkArgument (rule : ArgumentRule) (a : QueryArgument) : Except Failure Unit :=
  match rule, a with
  | .anything, _ => .ok ()
  | .oneOf types, a => if types.contains (.ofArgument a) then .ok () else .error typeFault
  | .arrayOf types, .value v =>
    match listItems? v with
    | none => .error typeFault
    | some items =>
      match items, types with
      | [], _ => .ok ()
      | first :: _, _ =>
        if types.contains (.ofValue first) && items.all (fun e => QueryType.ofValue e = .ofValue first)
        then .ok () else .error typeFault
  | .arrayOf _, .reference _ => .error typeFault

def checkArguments : List ArgumentRule → List QueryArgument → Except Failure Unit
  | rule :: rules, a :: as => do checkArgument rule a; checkArguments rules as
  | _, _ => .ok ()

/-- What a function asks of its arguments, and whether more may follow. -/
structure Signature where
  rules : List ArgumentRule
  variadic : Bool := false

def signature? (extended : Bool) : String → Option Signature
  | "abs" | "ceil" | "floor" => some ⟨[.oneOf [.number]], false⟩
  | "avg" | "sum" => some ⟨[.arrayOf [.number]], false⟩
  | "not_null" => some ⟨[.anything], true⟩
  | "to_array" | "to_string" | "to_number" | "type" => some ⟨[.anything], false⟩
  | "contains" => some ⟨[.oneOf [.array, .string], .anything], false⟩
  | "length" => some ⟨[.oneOf [.string, .array, .object]], false⟩
  | "ends_with" | "starts_with" => some ⟨[.oneOf [.string], .oneOf [.string]], false⟩
  | "reverse" => some ⟨[.oneOf [.array, .string]], false⟩
  | "join" => some ⟨[.oneOf [.string], .arrayOf [.string]], false⟩
  | "map" => some ⟨[.oneOf [.reference], .oneOf [.array]], false⟩
  | "max" | "min" | "sort" => some ⟨[.arrayOf [.number, .string]], false⟩
  | "merge" => some ⟨[.oneOf [.object]], true⟩
  | "max_by" | "min_by" | "sort_by" => some ⟨[.oneOf [.array], .oneOf [.reference]], false⟩
  | "keys" | "values" => some ⟨[.oneOf [.object]], false⟩
  | "shout" => if extended then some ⟨[.oneOf [.string]], false⟩ else none
  | _ => none

/-- The verdict of a comparison inside a query. -/
def lift {α : Type} : Except ComparisonFault α → Except Failure α
  | .ok a => .ok a
  | .error e => .error e.toFailure

/-- The sum of numbers, from zero. -/
def sumOf (items : List Value) : Except Failure Number :=
  items.foldlM (fun acc v =>
    match v.number? with
    | some n =>
      match acc.add n with
      | .ok s => .ok s
      | .error e => .error e.toComparison.toFailure
    | none => .error typeFault) (.int 0)

def meanOf (items : List Value) : Except Failure Value := do
  match ← sumOf items with
  | .int n => return .number (.float (.ofRat (mkRat n items.length)))
  | .float (.finite negative m e) =>
    if m = 0 then return .number (.float (.finite negative 0 0))
    else
      return .number (.float
        (.ofRat (scaled 2 (if negative then -(m : Int) else m) e / (items.length : Rat))))
  | other => return .number other

/-- The extreme item by a comparison of keys: the first one that no later item exceeds. -/
def extreme (c : Comparison) : List (Value × Value) → Except Failure Value
  | [] => .ok .null
  | first :: rest => do
    let best ← rest.foldlM (fun best e => do
      if ← lift (Value.ordered c e.1 best.1) then return e else return best) first
    return best.2

/-- Puts an item with its key behind all that are not larger. -/
def insertSorted (e : Value × Value) : List (Value × Value) → Except Failure (List (Value × Value))
  | [] => .ok [e]
  | f :: rest => do
    if ← lift (Value.ordered .lt e.1 f.1) then return e :: f :: rest
    else return f :: (← insertSorted e rest)

/-- Items in the order of their keys, equal ones as they came. -/
def sortedByKey (items : List (Value × Value)) : Except Failure (List Value) := do
  let sorted ← items.foldlM (fun acc e => insertSorted e acc) []
  return sorted.map (·.2)

def containsText (needle : List Char) : List Char → Bool
  | [] => needle.isEmpty
  | c :: cs => needle.isPrefixOf (c :: cs) || containsText needle cs

/-- Whether a value is equal to one of the items. -/
def containsValue (needle : Value) : List Value → Except Failure Bool
  | [] => .ok false
  | v :: vs => do if ← lift (Value.equal v needle) then return true else containsValue needle vs

def textOf (v : Value) : List Char := ((v.text?).getD "").toList

/-- A number read from a text: an integer, else a binary floating-point number. -/
def numberOfText (s : List Char) : Value :=
  let blank (c : Char) : Bool := c.isWhitespace
  let core := ((s.dropWhile blank).reverse.dropWhile blank).reverse
  let (negative, ds) := Numeral.takeSign core
  if !ds.isEmpty && ds.all Char.isDigit then
    let n : Int := Numeral.natOfDigits ds
    .int (if negative then -n else n)
  else
    match Binary64.read? (String.ofList core) with
    | some x => .number (.float x)
    | none => .null

/-- The integer nearest below a number, or above it. -/
def rounded (up : Bool) (v : Value) : Except Failure Value :=
  match v.number? with
  | some (.int n) => .ok (.int n)
  | some (.float x) =>
    match x.toExtended with
    | .finite q => .ok (.int (if up then q.ceil else q.floor))
    | .nan => .error (.complaint ⟨.badValue, none⟩)
    | _ => .error (.complaint .tooLong)
  | _ => .error typeFault

def absolute (v : Value) : Value :=
  match v.number? with
  | some (.int n) => .int n.natAbs
  | some (.float x) => .number (.float (if x.isNegative then x.neg else x))
  | _ => v

/-- How long a text, an array or an object is. -/
def sizeOf (v : Value) : Value :=
  match v.text?, v.entries?, v.length? with
  | some s, _, _ => .int s.length
  | _, some es, _ => .int es.length
  | _, _, n => .int (n.getD 0)

/-- A value turned into a number, if it can be. -/
def toNumber (v : Value) : Except Failure Value :=
  match v.expose with
  | .null => .ok .null
  | .bool _ => .ok .null
  | .sequence .list _ => .ok .null
  | .mapping .plain _ => .ok .null
  | .mapping .ordered _ => .ok .null
  | .mapping .counter _ => .ok .null
  | .mapping .defaulting _ => .ok .null
  | .number (.int n) => .ok (.int n)
  | .number (.float x) => .ok (.number (.float x))
  | .number (.fraction q) => .ok (.int (q.num.tdiv q.den))
  | .number (.decimal d) =>
    match d.toExtended with
    | .finite q => .ok (.int (q.num.tdiv q.den))
    | .nan => if d.isSignalling then .ok .null else .ok (.number (.float .nan))
    | _ => .error (.complaint .tooLong)
  | other =>
    match other.text?, other.bytes? with
    | some s, _ => .ok (numberOfText s.toList)
    | _, some b => .ok (numberOfText (b.map fun u => Char.ofNat u.toNat))
    | _, _ => .error (.complaint .types)

/-- The name of a value's type, by family. -/
def typeName (v : Value) : Value :=
  match v.expose with
  | .text _ | .derivedText _ | .kind _ => .text "string"
  | .bool _ => .text "boolean"
  | .sequence .list _ => .text "array"
  | .mapping .plain _ | .mapping .ordered _ | .mapping .counter _ | .mapping .defaulting _ => .text "object"
  | .number (.int _) | .number (.float _) => .text "number"
  | .null => .text "null"
  | _ => .null

/-- The keys of the items under an expression, which all have to be numbers or texts. -/
def keysBy (apply : Value → Except Failure Value) (allowed : List QueryType) :
    List Value → Except Failure (List (Value × Value))
  | [] => .ok []
  | v :: vs => do
    let k ← apply v
    if allowed.contains (.ofValue k) then return (k, v) :: (← keysBy apply allowed vs)
    else .error typeFault

/-- The type that keys for sorting must have: that of the first one. -/
def sortKeyType (apply : Value → Except Failure Value) (first : Value) : Except Failure QueryType := do
  let t := QueryType.ofValue (← apply first)
  if t = .number ∨ t = .string then return t else .error typeFault

/-- Applies a function to arguments that fit its signature. -/
def applyChecked (name : String) (arguments : List QueryArgument) : Except Failure Value :=
  match name, arguments with
  | "abs", [.value v] => .ok (absolute v)
  | "ceil", [.value v] => rounded true v
  | "floor", [.value v] => rounded false v
  | "avg", [.value v] =>
    match (listItems? v).getD [] with
    | [] => .ok .null
    | items => meanOf items
  | "sum", [.value v] => do return .number (← sumOf ((listItems? v).getD []))
  | "not_null", values =>
    .ok ((values.findSome? fun
      | .value .null => none
      | .value v => some v
      | .reference _ => some .undefined).getD .null)
  | "to_array", [.value v] => .ok (if (listItems? v).isSome then v else .list [v])
  | "to_string", [.value v] =>
    if v.isText then .ok v else do return .text (String.ofList (← v.notationOf))
  | "to_number", [.value v] => toNumber v
  | "type", [.value v] => .ok (typeName v)
  | "contains", [.value v, .value needle] =>
    match listItems? v, needle.text? with
    | some items, _ => do return .bool (← containsValue needle items)
    | none, some s => .ok (.bool (containsText s.toList (textOf v)))
    | none, none => .error (.complaint .types)
  | "length", [.value v] => .ok (sizeOf v)
  | "ends_with", [.value v, .value w] => .ok (.bool ((textOf w).isSuffixOf (textOf v)))
  | "starts_with", [.value v, .value w] => .ok (.bool ((textOf w).isPrefixOf (textOf v)))
  | "reverse", [.value v] =>
    match listItems? v with
    | some items => .ok (.list items.reverse)
    | none => .ok (.text (String.ofList (textOf v).reverse))
  | "join", [.value v, .value w] =>
    .ok (.text (String.ofList ((textOf v).intercalate (((listItems? w).getD []).map textOf))))
  | "map", [.reference f, .value v] => do return .list (← ((listItems? v).getD []).mapM f)
  | "max", [.value v] => extreme .gt (((listItems? v).getD []).map fun e => (e, e))
  | "min", [.value v] => extreme .lt (((listItems? v).getD []).map fun e => (e, e))
  | "sort", [.value v] => do
    return .list (← sortedByKey (((listItems? v).getD []).map fun e => (e, e)))
  | "merge", values =>
    .ok (.plainMapping (Value.collectEntries (values.flatMap fun
      | .value v => (v.entries?).getD []
      | .reference _ => [])))
  | "max_by", [.value v, .reference f] => do
    extreme .gt (← keysBy f [.number, .string] ((listItems? v).getD []))
  | "min_by", [.value v, .reference f] => do
    extreme .lt (← keysBy f [.number, .string] ((listItems? v).getD []))
  | "sort_by", [.value v, .reference f] =>
    match (listItems? v).getD [] with
    | [] => .ok v
    | first :: rest => do
      let t ← sortKeyType f first
      return .list (← sortedByKey (← keysBy f [t] (first :: rest)))
  | "keys", [.value v] => .ok (.list (((v.entries?).getD []).map (·.1)))
  | "values", [.value v] => .ok (.list (((v.entries?).getD []).map (·.2)))
  | "shout", [.value v] => .ok (.text (upperText (String.ofList (textOf v))))
  | _, _ => .error typeFault

/-- Calls a function: it has to be known, with arguments of the right number and types. -/
def applyFunction (extended : Bool) (name : String) (arguments : List QueryArgument) :
    Except Failure Value :=
  match signature? extended name with
  | none => .error (.queryFault .unknownFunction)
  | some s =>
    if s.variadic && arguments.length < s.rules.length then .error (.queryFault .tooFewArguments)
    else if !s.variadic && arguments.length ≠ s.rules.length then .error (.queryFault .wrongArity)
    else do
      checkArguments s.rules arguments
      applyChecked name arguments

end Query

end Clausewise
