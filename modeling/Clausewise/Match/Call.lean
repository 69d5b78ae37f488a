import Clausewise.Match.Dispatch
import Clausewise.Pattern.Builder
/-!
Calls. What a function does is an action: it answers, fails, looks up a named pattern, or calls a value and
goes on with the answer. Patterns, matchers, classes and callable objects are called here; since a result may
call the pattern that produced it, calls nest up to a bound.
-/

namespace Clausewise

/-- What a function does with its arguments. -/
inductive Action where
  | done (v : Value)
  | fail (e : Failure)
  | call (callee : Value) (arguments : List Value) (next : Value → Action)
  /-- Looks up the pattern under a name. -/
  | lookup (handle : String) (next : Value → Action)

instance : Inhabited Action := ⟨.done .null⟩

/-- The action that ends with a result or failure. -/
def Action.ofExcept : Except Failure Value → Action
  | .ok v => .done v
  | .error e => .fail e

/-- The meaning of the functions and classes that values can name, and of regular expressions and queries. -/
structure Library where
  /-- What a function does with its arguments. -/
  meaning : FunctionName → List Value → Action
  /-- The instance that a class makes of its arguments. -/
  create : (Nat → BuilderSummary) → Class → List Value → Except Failure Value
  /-- How a search for a regular expression ends. -/
  search : RegexPattern → Array Nat → SearchEnd
  /-- What the query that a text writes selects from a value. -/
  select : String → (extended : Bool) → Value → Except Failure Value

namespace Library

/-- The library in which nothing has a meaning. -/
def empty : Library where
  meaning _ _ := .fail .noSuchOperation
  create _ _ _ := .error .noSuchOperation
  search _ _ := .missing
  select _ _ _ := .error .noSuchOperation

end Library

/-- What calls depend on: the library, the patterns under their names, and the builders by number. -/
structure Environment where
  library : Library
  handle? : String → Option Value
  builder? : Nat → Option Builder

namespace Environment

/-- What the builders show of themselves. -/
def summaries (env : Environment) (id : Nat) : BuilderSummary :=
  ((env.builder? id).map Builder.summary).getD ⟨false, 0⟩

/-- A call with the wrong arguments, or of a value that cannot be called. -/
def badCall : Outcome Value := .fail (.complaint .types)

/-- Carries an action out; `call` answers its calls. -/
def carryOut (env : Environment) (call : Caller) : Action → Outcome Value
  | .done v => .ok v
  | .fail e => .fail e
  | .call callee arguments next => (call callee arguments).andThen fun v => carryOut env call (next v)
  | .lookup handle next =>
    match env.handle? handle with
    | some v => carryOut env call (next v)
    | none => .fail (.absentKey (.text handle))

/-- Dispatches the first argument through clauses, with the others as extra ones. -/
def dispatchArguments (call : Caller) (clauses : List Clause) (fallback : Option Value) :
    List Value → Outcome Value
  | [] => badCall
  | value :: extra => dispatch call clauses fallback value extra

/-- The answer of a callable object: what it keeps under the attribute that its class names. -/
def answerOfObject (c : Class) (own : List (String × Value)) : Outcome Value :=
  match c.traits.answersWith with
  | none => badCall
  | some name =>
    match own.lookup name with
    | some v => .ok v
    | none => .fail .noSuchOperation

/-- Answers a call; `call` answers the calls that it leads to. -/
def answer (env : Environment) (call : Caller) : Value → List Value → Outcome Value
  | .function f, arguments => env.carryOut call (env.library.meaning f arguments)
  | .cls c, arguments => .ofExcept (env.library.create env.summaries c arguments)
  | .object _ c own, _ => answerOfObject c own
  | .matcher .always, _ => .ok (.bool true)
  | .matcher m, [v] => (m.test call v).andThen fun verdict => .ok (.bool verdict)
  | .builder id, arguments =>
    match env.builder? id with
    | some b => dispatchArguments call b.clauses b.fallback arguments
    | none => badCall
  | .closed _ clauses fallback, arguments => dispatchArguments call clauses fallback arguments
  | _, _ => badCall

/-- The calls that `answer` answers, with the searches and queries of the library. -/
def caller (env : Environment) (answer : Value → List Value → Outcome Value) : Caller :=
  ⟨answer, env.library.search, env.library.select⟩

/-- Answers calls that nest at most so deep. -/
def callWithin (env : Environment) : Nat → Caller
  | 0 => env.caller fun _ _ => .fail .callsTooDeep
  | depth + 1 => env.caller (env.answer (env.callWithin depth))

theorem callWithin_succ (env : Environment) (depth : Nat) (callee : Value) (arguments : List Value) :
    env.callWithin (depth + 1) callee arguments = env.answer (env.callWithin depth) callee arguments := rfl

/-- How deep calls may nest. -/
def deepestCall : Nat := 490

def call (env : Environment) : Caller := env.callWithin deepestCall

end Environment

end Clausewise
