import Clausewise.Query.Token
/-!
Reading queries by binding power: an operator takes what stands to its left as long as it binds tighter
than what the left is part of. Operators that bind weaker than a projection end it.
-/

namespace Clausewise

namespace QueryToken

/-- How tightly a token binds what stands to its left. -/
def power : QueryToken → Nat
  | pipe => 1
  | orSign => 2
  | andSign => 3
  | comparator _ => 5
  | flatten => 9
  | star => 20
  | filter => 21
  | dot => 40
  | not => 45
  | leftBrace => 50
  | leftBracket => 55
  | leftParen => 60
  | _ => 0

/-- Tokens below this power end a projection. -/
def projectionStop : Nat := 10

end QueryToken

namespace Query

/-- A step of reading over the tokens to come. -/
abbrev Read := StateT (List QueryToken) (Except QuerySyntaxError)

namespace Read

/-- The next token, left in place. -/
def peek : Read QueryToken := do return (← get).headD .finish

/-- The token after the next one. -/
def peekSecond : Read QueryToken := do return ((← get).drop 1).headD .finish

/-- Takes the next token; the finish stays. -/
def advance : Read Unit := modify fun ts =>
  match ts with
  | [] => []
  | [t] => [t]
  | _ :: rest => rest

/-- Refuses a token as out of place. -/
def refuse {α : Type} : Read α := throw .unexpectedToken

/-- Refuses the next token; where the text ends, it is the text that is incomplete. -/
def refuseNext {α : Type} : Read α := do
  match ← peek with
  | .finish => throw .incomplete
  | _ => refuse

/-- Takes a closing bracket. -/
def closeBracket : Read Unit := do
  match ← peek with
  | .rightBracket => advance
  | _ => refuseNext

/-- Takes a closing parenthesis. -/
def closeParen : Read Unit := do
  match ← peek with
  | .rightParen => advance
  | _ => refuseNext

def comma : Read Unit := do
  match ← peek with
  | .comma => advance
  | _ => refuseNext

def colon : Read Unit := do
  match ← peek with
  | .colon => advance
  | _ => refuseNext

end Read

open Read

/-- Reads the parts of a slice up to its closing bracket; `part` tells which one comes next. -/
def readSliceParts : Nat → Nat → Option Int → Option Int → Option Int → Read Query
  | 0, _, _, _, _ => refuse
  | fuel + 1, part, start, stop, step => do
    match ← peek with
    | .rightBracket => advance; return .slice start stop step
    | .colon =>
      if part = 2 then refuse
      else advance; readSliceParts fuel (part + 1) start stop step
    | .number n =>
      advance
      if part = 0 then readSliceParts fuel part (some n) stop step
      else if part = 1 then readSliceParts fuel part start (some n) step
      else readSliceParts fuel part start stop (some n)
    | _ => refuse

/-- Reads an index or a slice after its opening bracket. -/
def readIndex : Read Query := do
  let first ← peek
  let second ← peekSecond
  match first, second with
  | .colon, _ => readSliceParts 16 0 none none none
  | _, .colon => readSliceParts 16 0 none none none
  | .number i, _ =>
    advance
    closeBracket
    return .index i
  | _, _ => refuse

def isSlice : Query → Bool
  | slice .. => true
  | _ => false

mutual

/-- Reads an expression whose operators bind tighter than `power`. -/
def readExpression (power : Nat) : Nat → Read Query
  | 0 => refuse
  | fuel + 1 => do
    let token ← peek
    advance
    let left ← readFirst token fuel
    readRest power left fuel
termination_by structural fuel => fuel

/-- Reads operators that bind tighter than `power` after a left side. -/
def readRest (power : Nat) (left : Query) : Nat → Read Query
  | 0 => refuse
  | fuel + 1 => do
    let token ← peek
    if power < token.power then
      advance
      let left ← readOperator token left fuel
      readRest power left fuel
    else return left
termination_by structural fuel => fuel

/-- Reads an expression that starts with the token. -/
def readFirst (token : QueryToken) : Nat → Read Query
  | 0 => refuse
  | fuel + 1 => do
    match token with
    | .literal v => return .literal v
    | .name s => return .field s
    | .quotedName s =>
      match ← peek with
      | .leftParen => refuse
      | _ => return .field s
    | .star =>
      match ← peek with
      | .rightBracket => return .valueProjection .current .current
      | _ => return .valueProjection .current (← readProjected QueryToken.star.power fuel)
    | .filter => readFilter .current fuel
    | .leftBrace => return .hash (← readHash fuel)
    | .leftParen =>
      let e ← readExpression 0 fuel
      closeParen
      return e
    | .flatten =>
      return .projection (.flatten .current) (← readProjected QueryToken.flatten.power fuel)
    | .not => return .negation (← readExpression QueryToken.not.power fuel)
    | .leftBracket =>
      match ← peek, ← peekSecond with
      | .number _, _ | .colon, _ => projectSlice .current (← readIndex) fuel
      | .star, .rightBracket =>
        advance
        advance
        return .projection .current (← readProjected QueryToken.star.power fuel)
      | _, _ => return .list (← readList fuel)
    | .current => return .current
    | .reference => return .reference (← readExpression 0 fuel)
    | .finish => throw .incomplete
    | _ => refuse
termination_by structural fuel => fuel

/-- Reads the right side of an operator. -/
def readOperator (token : QueryToken) (left : Query) : Nat → Read Query
  | 0 => refuse
  | fuel + 1 => do
    match token with
    | .dot =>
      match ← peek with
      | .star =>
        advance
        return .valueProjection left (← readProjected QueryToken.dot.power fuel)
      | _ => return .sub left (← readAfterDot QueryToken.dot.power fuel)
    | .pipe => return .sub left (← readExpression QueryToken.pipe.power fuel)
    | .orSign => return .either left (← readExpression QueryToken.orSign.power fuel)
    | .andSign => return .both left (← readExpression QueryToken.andSign.power fuel)
    | .comparator c => return .comparison c left (← readExpression token.power fuel)
    | .leftParen =>
      match left with
      | .field name => return .apply name (← readArguments fuel)
      | _ => refuse
    | .filter => readFilter left fuel
    | .flatten => return .projection (.flatten left) (← readProjected QueryToken.flatten.power fuel)
    | .leftBracket =>
      match ← peek with
      | .number _ | .colon =>
        let right ← readIndex
        match left with
        | .indexed .. => return .indexed left right
        | _ => projectSlice left right fuel
      | .star =>
        advance
        closeBracket
        return .projection left (← readProjected QueryToken.star.power fuel)
      | _ => refuseNext
    | _ => refuse
termination_by structural fuel => fuel

/-- An index applied to a left side; a slice starts a projection. -/
def projectSlice (left right : Query) : Nat → Read Query
  | 0 => refuse
  | fuel + 1 => do
    if right.isSlice then
      return .projection (.indexed left right) (← readProjected QueryToken.star.power fuel)
    else return .indexed left right
termination_by structural fuel => fuel

/-- Reads what a projection applies to each element. -/
def readProjected (power : Nat) : Nat → Read Query
  | 0 => refuse
  | fuel + 1 => do
    let token ← peek
    if token.power < QueryToken.projectionStop then return .current
    else
      match token with
      | .leftBracket | .filter => readExpression power fuel
      | .dot =>
        advance
        readAfterDot power fuel
      | _ => refuse
termination_by structural fuel => fuel

/-- Reads what may follow a dot. -/
def readAfterDot (power : Nat) : Nat → Read Query
  | 0 => refuse
  | fuel + 1 => do
    match ← peek with
    | .quotedName _ | .name _ | .star => readExpression power fuel
    | .leftBracket =>
      advance
      return .list (← readList fuel)
    | .leftBrace =>
      advance
      return .hash (← readHash fuel)
    | _ => refuse
termination_by structural fuel => fuel

/-- Reads the condition of a filter, and what is applied to the elements that pass. -/
def readFilter (left : Query) : Nat → Read Query
  | 0 => refuse
  | fuel + 1 => do
    let condition ← readExpression 0 fuel
    closeBracket
    match ← peek with
    | .flatten => return .filterProjection left .current condition
    | _ => return .filterProjection left (← readProjected QueryToken.filter.power fuel) condition
termination_by structural fuel => fuel

/-- Reads expressions between commas up to a closing bracket. -/
def readList : Nat → Read (List Query)
  | 0 => refuse
  | fuel + 1 => do
    let e ← readExpression 0 fuel
    match ← peek with
    | .rightBracket => advance; return [e]
    | _ =>
      comma
      return e :: (← readList fuel)
termination_by structural fuel => fuel

/-- Reads named expressions up to a closing brace. -/
def readHash : Nat → Read (List (String × Query))
  | 0 => refuse
  | fuel + 1 => do
    match ← peek with
    | .name s | .quotedName s =>
      advance
      colon
      let e ← readExpression 0 fuel
      match ← peek with
      | .rightBrace => advance; return [(s, e)]
      | .comma => advance; return (s, e) :: (← readHash fuel)
      | _ => return (s, e) :: (← readHash fuel)
    | _ => refuseNext
termination_by structural fuel => fuel

/-- Reads the arguments of a function up to a closing parenthesis; the commas may be missing. -/
def readArguments : Nat → Read (List Query)
  | 0 => refuse
  | fuel + 1 => do
    match ← peek with
    | .rightParen => advance; return []
    | _ =>
      let e ← readExpression 0 fuel
      match ← peek with
      | .comma => advance
      | _ => pure ()
      return e :: (← readArguments fuel)
termination_by structural fuel => fuel

end

/-- Reads a query that makes up the whole text. -/
def ofText (s : String) : Except QuerySyntaxError Query := do
  let tokens ← QueryToken.ofText s
  let (q, rest) ← (readExpression 0 (6 * tokens.length + 6)).run tokens
  match rest with
  | [.finish] => return q
  | _ => throw .unexpectedToken

end Query

end Clausewise
