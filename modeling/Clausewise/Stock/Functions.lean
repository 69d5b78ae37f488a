import Clausewise.Match.Call
import Clausewise.Query.Select
import Clausewise.Stock.Creation
import Clausewise.Value.Iterate
/-!
Ready-made functions: predicates, functions that complain, functions that report their arguments, and
functions that call a pattern by its name, also the one that calls them.
-/

namespace Clausewise.Stock

/-- A call with the wrong number of arguments. -/
def wrongArguments : Action := .fail (.complaint .types)

def complains (cause : Cause) (message : String) : Action := .fail (.complaint ⟨cause, some message⟩)

/-- Whether an integer is even; other values are refused. -/
def isEven (v : Value) : Action :=
  match v with
  | .bool b => .done (.bool !b)
  | .number (.int n) => .done (.bool (n % 2 == 0))
  | _ => complains .wrongType "is_even needs an int"

/-- Calls the pattern under a name with a value less `less`. -/
def callLess (handle : String) (v : Value) (less : Int) (next : Value → Action) : Action :=
  .lookup handle fun pattern =>
    match v.sub (.int less) with
    | .ok argument => .call pattern [argument] next
    | .error e => .fail e

/-- The answers for the two numbers before a number, added. -/
def sumOfTwoBefore (handle : String) (v : Value) : Action :=
  callLess handle v 1 fun a => callLess handle v 2 fun b => Action.ofExcept (a.add b)

/-- The answers for the items, added to a sum so far. -/
def sumOverItems (handle : String) : List Value → Value → Action
  | [], sum => .done sum
  | item :: items, sum =>
    .lookup handle fun pattern =>
      .call pattern [item] fun answer =>
        match sum.add answer with
        | .ok sum => sumOverItems handle items sum
        | .error e => .fail e

/-- The answers for everything that a value runs through, added up. -/
def sumOverAll (handle : String) (v : Value) : Action :=
  match v.iterate? with
  | some items => sumOverItems handle items (.int 0)
  | none => wrongArguments

/-- What a function that was made for a pattern does. -/
def patternMeaning (name handle : String) (arguments : List Value) : Action :=
  match name, arguments with
  | "fib", [v] => sumOfTwoBefore handle v
  | "sum_tree", [v] => sumOverAll handle v
  | "delegate", vs => .lookup handle fun pattern => .call pattern vs .done
  | _, _ => wrongArguments

/-- What a function of one argument does. -/
def unaryMeaning (name : String) (v : Value) : Action :=
  match name with
  | "truthy" | "<lambda>" => .done v
  | "is_even" => isEven v
  | "raise_value" => complains .badValue "predicate failed"
  | "raise_type" => complains .wrongType "predicate type"
  | "wrap" => .done (.plainMapping [(.text "wrapped", v)])
  | "len" => Action.ofExcept (v.measure.map fun n => .int n)
  | "callable" => .done (.bool v.isCallable)
  | "some" => .done (.bool !v.isAbsent)
  | "none" => .done (.bool v.isAbsent)
  | _ => wrongArguments

/-- What a function of any number of arguments does. -/
def variadicMeaning (name : String) (arguments : List Value) : Option Action :=
  match name with
  | "boom" =>
    some (match arguments with
      | v :: _ => .fail (.absentKey v)
      | [] => wrongArguments)
  | "empty_list" => some (.done (.list []))
  | "nan" => some (.done (.number (.float .nan)))
  | "args" => some (.done (.list arguments))
  | "count" => some (.done (.int arguments.length))
  | "last" =>
    some (match arguments.getLast? with
      | some v => .done v
      | none => wrongArguments)
  | "ret_undefined" => some (.done .undefined)
  | "ret_func" => some (.done (.function { name := "truthy" }))
  | _ => none

/-- What a ready-made function does. -/
def meaning (f : FunctionName) (arguments : List Value) : Action :=
  match f.handle, variadicMeaning f.name arguments, arguments with
  | some handle, _, _ => patternMeaning f.name handle arguments
  | none, some action, _ => action
  | none, none, [v] => unaryMeaning f.name v
  | none, none, _ => wrongArguments

/-- The names of the functions that are built into the host. -/
def builtInNames : List String := ["len", "callable"]

/-- The names of the ready-made functions. -/
def functionNames : List String :=
  ["truthy", "<lambda>", "is_even", "raise_value", "raise_type", "boom", "empty_list", "nan", "args",
    "count", "wrap", "last", "ret_undefined", "ret_func", "len", "callable", "some", "none"]

/-- A function made for the pattern under a handle, with a number that tells it from others. -/
def functionFor (name handle : String) (id : Nat) : FunctionName :=
  { name, shown := "<lambda>", handle := some handle, id }

/-- The library of the ready-made functions and classes, with the engines for regular expressions and queries. -/
def library : Library := ⟨meaning, create, RegexPattern.search, Query.select⟩

/-- The ready-made function of a name. -/
def function? (name : String) : Option FunctionName :=
  if functionNames.contains name then some { name, builtIn := builtInNames.contains name } else none

end Clausewise.Stock
