import Clausewise.Match.Test
/-!
Dispatch: the first clause whose matcher accepts the value decides, and its result is produced. The clauses
after it are not looked at. Where no clause accepts, the default is produced by the same rule.
-/

namespace Clausewise

/-- What a result comes to: a constant is unwrapped and never called, any other callable is called with the
value and the extra arguments, everything else is the result itself. -/
def produce (call : Caller) (result value : Value) (extra : List Value) : Outcome Value :=
  match result with
  | .constant v => .ok v
  | r => if r.isCallable then call r (value :: extra) else .ok r

/-- The result of the first clause that accepts a value. -/
def firstMatch (call : Caller) : List Clause → Value → Outcome (Option Value)
  | [], _ => .ok none
  | (matcher, result) :: rest, value => do
    if ← matcher.test call value then return some result else firstMatch call rest value

/-- The outcome of matching a value against clauses with a default, if there is one. -/
def dispatch (call : Caller) (clauses : List Clause) (fallback : Option Value) (value : Value)
    (extra : List Value) : Outcome Value := do
  match ← firstMatch call clauses value with
  | some result => produce call result value extra
  | none =>
    match fallback with
    | some result =>
      Outcome.report (.fellBack value)
      produce call result value extra
    | none =>
      Outcome.report (.nothingMatched value clauses.length)
      Outcome.fail (.about .unmatched value)

end Clausewise
