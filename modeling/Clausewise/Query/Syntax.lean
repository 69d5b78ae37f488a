import Clausewise.Number.Binary64
/-!
The syntax of queries: expressions that select and compute a part of a value.
-/

namespace Clausewise

/-- A literal of a query. -/
inductive QueryLiteral where
  | null
  | bool (b : Bool)
  | int (n : Int)
  | float (x : Binary64)
  | text (s : String)
  | array (items : List QueryLiteral)
  | object (fields : List (String × QueryLiteral))
deriving Inhabited

/-- A comparison inside a query. -/
inductive QueryComparator where
  | equal
  | unequal
  | less
  | lessOrEqual
  | greater
  | greaterOrEqual
deriving DecidableEq, Inhabited

/-- A query. A projection applies its right side to each element that its left side selects. -/
inductive Query where
  | current
  | field (name : String)
  | index (i : Int)
  | slice (start stop step : Option Int)
  | sub (left right : Query)
  /-- A right side in brackets, applied to the left side. -/
  | indexed (left right : Query)
  | projection (left right : Query)
  | valueProjection (left right : Query)
  | filterProjection (left right condition : Query)
  | flatten (body : Query)
  | comparison (c : QueryComparator) (left right : Query)
  | either (left right : Query)
  | both (left right : Query)
  | negation (body : Query)
  | list (items : List Query)
  | hash (fields : List (String × Query))
  | literal (value : QueryLiteral)
  | apply (function : String) (arguments : List Query)
  | reference (body : Query)
deriving Inhabited

/-- Why the text of a query is refused. -/
inductive QuerySyntaxError where
  | empty
  | badCharacter
  | unexpectedToken
  | incomplete
deriving DecidableEq, Inhabited

/-- Why the evaluation of a query fails. -/
inductive QueryFault where
  | wrongArity
  | tooFewArguments
  | wrongType
  | unknownFunction
deriving DecidableEq, Inhabited

end Clausewise
