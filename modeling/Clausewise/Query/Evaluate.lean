import Clausewise.Query.Functions
/-!
Evaluation of queries. A step that does not apply to the value at hand gives the loose absence, and
projections drop it.
-/

namespace Clausewise

namespace QueryLiteral

mutual

def toValue : QueryLiteral → Value
  | null => .null
  | bool b => .bool b
  | int n => .int n
  | float x => .number (.float x)
  | text s => .text s
  | array items => .list (toValues items)
  | object fields => .plainMapping (toEntries fields)

def toValues : List QueryLiteral → List Value
  | [] => []
  | l :: ls => toValue l :: toValues ls

def toEntries : List (String × QueryLiteral) → List (Value × Value)
  | [] => []
  | (name, l) :: rest => (.text name, toValue l) :: toEntries rest

end

end QueryLiteral

namespace Query

/-- The value under a name in a mapping; nothing else has fields. -/
def fieldOf (v : Value) (name : String) : Value :=
  match v.entries? with
  | some entries => (Value.lookup entries (.text name)).getD .null
  | none => .null

/-- The item of a list at an index; a negative one counts from the end. -/
def indexOf (v : Value) (i : Int) : Value :=
  match listItems? v with
  | some items =>
    let at_ := if i < 0 then i + items.length else i
    if at_ < 0 then .null else (items[at_.toNat]?).getD .null
  | none => .null

/-- A bound of a slice brought into a range. -/
def clampBound (length low high : Int) (bound : Int) : Int :=
  let b := if bound < 0 then bound + length else bound
  max low (min high b)

/-- The indices of a slice with a positive step, or a negative one. -/
def sliceIndices (length : Nat) (start stop : Option Int) (step : Int) : List Nat :=
  let n : Int := length
  if 0 < step then
    let first := (start.map (clampBound n 0 n)).getD 0
    let last := (stop.map (clampBound n 0 n)).getD n
    (List.range (Value.rangeLength first last step)).map fun (i : Nat) => (first + i * step).toNat
  else
    let first := (start.map (clampBound n (-1) (n - 1))).getD (n - 1)
    let last := (stop.map (clampBound n (-1) (n - 1))).getD (-1)
    (List.range (Value.rangeLength first last step)).map fun (i : Nat) => (first + i * step).toNat

def sliceOf (v : Value) (start stop step : Option Int) : Except Failure Value :=
  match listItems? v with
  | some items =>
    if step = some 0 then .error (.complaint ⟨.badValue, none⟩)
    else .ok (.list ((sliceIndices items.length start stop (step.getD 1)).filterMap fun i => items[i]?))
  | none => .ok .null

/-- Whether a value counts as false in a query: an absence, `false`, or something empty. -/
def isFalse (v : Value) : Except Failure Bool := do
  if ← lift (Value.equal v (.text "")) then return true
  else if ← lift (Value.equal v (.list [])) then return true
  else if ← lift (Value.equal v (.plainMapping [])) then return true
  else
    match v with
    | .null => return true
    | .bool false => return true
    | _ => return false

/-- The number of a value that is one and no truth value. -/
def actualNumber? : Value → Option Number
  | .number n => some n
  | _ => none

/-- Whether a value is the number zero or one. -/
def isZeroOrOne (v : Value) : Except Failure Bool :=
  match actualNumber? v with
  | some _ => do
    if ← lift (Value.equal v (.int 0)) then return true else lift (Value.equal v (.int 1))
  | none => .ok false

/-- Equality in queries: truth values are not numbers. -/
def sameInQuery (a b : Value) : Except Failure Bool := do
  if ← isZeroOrOne a then
    if b.isBool then return false else lift (Value.equal a b)
  else if ← isZeroOrOne b then
    if a.isBool then return false else lift (Value.equal a b)
  else lift (Value.equal a b)

/-- Whether a value can stand in an ordering comparison. -/
def isComparable (v : Value) : Bool := (actualNumber? v).isSome || v.isText

/-- An ordering comparison; it is absent for all but numbers and texts. -/
def orderInQuery (c : Comparison) (a b : Value) : Except Failure Value :=
  if isComparable a && isComparable b then do return .bool (← lift (Value.ordered c a b))
  else .ok .null

def compareInQuery (c : QueryComparator) (a b : Value) : Except Failure Value :=
  match c with
  | .equal => do return .bool (← sameInQuery a b)
  | .unequal => do return .bool !(← sameInQuery a b)
  | .less => orderInQuery .lt a b
  | .lessOrEqual => orderInQuery .le a b
  | .greater => orderInQuery .gt a b
  | .greaterOrEqual => orderInQuery .ge a b

/-- Negation: the number zero counts as true here. -/
def negated (v : Value) : Except Failure Value :=
  match actualNumber? v with
  | some n => do
    if ← lift (liftNumbers (n.equal (.int 0))) then return .bool false else return .bool !v.truth
  | none => .ok (.bool !v.truth)

/-- The results of a step on each item, absences dropped. -/
def collect (step : Value → Except Failure Value) : List Value → Except Failure (List Value)
  | [] => .ok []
  | v :: vs => do
    let r ← step v
    let rest ← collect step vs
    match r with
    | .null => return rest
    | _ => return r :: rest

/-- The results of a step on each item that passes a test, absences dropped. -/
def collectIf (test step : Value → Except Failure Value) : List Value → Except Failure (List Value)
  | [] => .ok []
  | v :: vs => do
    if ← isFalse (← test v) then collectIf test step vs
    else
      let r ← step v
      let rest ← collectIf test step vs
      match r with
      | .null => return rest
      | _ => return r :: rest

/-- The items, those of nested lists in place of the lists. -/
def flattened (items : List Value) : List Value := items.flatMap fun v => (listItems? v).getD [v]

/-- What stands for an expression that is not applied. -/
def referenceValue : Value :=
  .object 0 (.mk "query" "Expression" [] { display := .opaqueObject }) []

mutual

def evaluate (extended : Bool) : Query → Value → Except Failure Value
  | current, v => .ok v
  | field name, v => .ok (fieldOf v name)
  | index i, v => .ok (indexOf v i)
  | slice start stop step, v => sliceOf v start stop step
  | sub left right, v => do evaluate extended right (← evaluate extended left v)
  | indexed left right, v => do evaluate extended right (← evaluate extended left v)
  | projection left right, v => do
    match listItems? (← evaluate extended left v) with
    | some items => return .list (← collect (fun e => evaluate extended right e) items)
    | none => return .null
  | valueProjection left right, v => do
    match (← evaluate extended left v).entries? with
    | some entries => return .list (← collect (fun e => evaluate extended right e) (entries.map (·.2)))
    | none => return .null
  | filterProjection left right condition, v => do
    match listItems? (← evaluate extended left v) with
    | some items =>
      return .list (← collectIf (fun e => evaluate extended condition e) (fun e => evaluate extended right e) items)
    | none => return .null
  | flatten body, v => do
    match listItems? (← evaluate extended body v) with
    | some items => return .list (flattened items)
    | none => return .null
  | comparison c left right, v => do
    let a ← evaluate extended left v
    let b ← evaluate extended right v
    compareInQuery c a b
  | either left right, v => do
    let a ← evaluate extended left v
    if ← isFalse a then evaluate extended right v else return a
  | both left right, v => do
    let a ← evaluate extended left v
    if ← isFalse a then return a else evaluate extended right v
  | negation body, v => do negated (← evaluate extended body v)
  | list items, v =>
    match v with
    | .null => .ok .null
    | _ => do return .list (← evaluateAll extended items v)
  | hash fields, v =>
    match v with
    | .null => .ok .null
    | _ => do return .plainMapping (Value.collectEntries (← evaluateFields extended fields v))
  | literal value, _ => .ok value.toValue
  | apply function arguments, v => do
    applyFunction extended function (← evaluateArguments extended arguments v)
  | reference _, _ => .ok referenceValue

/-- What each of the queries selects. -/
def evaluateAll (extended : Bool) : List Query → Value → Except Failure (List Value)
  | [], _ => .ok []
  | q :: qs, v => do
    let r ← evaluate extended q v
    return r :: (← evaluateAll extended qs v)

/-- What each of the named queries selects, under its name. -/
def evaluateFields (extended : Bool) : List (String × Query) → Value → Except Failure (List (Value × Value))
  | [], _ => .ok []
  | (name, q) :: rest, v => do
    let r ← evaluate extended q v
    return (.text name, r) :: (← evaluateFields extended rest v)

/-- The arguments of a function: a referenced expression stays to be applied, all others are evaluated. -/
def evaluateArguments (extended : Bool) : List Query → Value → Except Failure (List QueryArgument)
  | [], _ => .ok []
  | reference body :: rest, v => do
    return .reference (fun e => evaluate extended body e) :: (← evaluateArguments extended rest v)
  | q :: rest, v => do
    let r ← evaluate extended q v
    return .value r :: (← evaluateArguments extended rest v)

end

end Query

end Clausewise
