import Clausewise.Query.Json
/-!
The tokens of queries.
-/

namespace Clausewise

/-- A token of a query. -/
inductive QueryToken where
  | dot
  | star
  | rightBracket
  | comma
  | colon
  | current
  | leftParen
  | rightParen
  | leftBrace
  | rightBrace
  | flatten
  | filter
  | leftBracket
  | orSign
  | pipe
  | andSign
  | reference
  | not
  | comparator (c : QueryComparator)
  | name (s : String)
  | quotedName (s : String)
  | number (n : Int)
  | literal (v : QueryLiteral)
  | finish
deriving Inhabited

namespace QueryToken

/-- Whether a name can start with the character. -/
def startsName (c : Char) : Bool := c.isAlpha || c = '_'

/-- Whether a name can go on with the character. -/
def continuesName (c : Char) : Bool := c.isAlphanum || c = '_'

/-- The text up to an unescaped delimiter, escapes kept, with what follows the delimiter. -/
def takeUntil (delimiter : Char) : List Char → Option (List Char × List Char)
  | [] => none
  | '\\' :: rest =>
    match rest with
    | [] => none
    | c :: more => (takeUntil delimiter more).map fun t => ('\\' :: c :: t.1, t.2)
  | c :: rest =>
    if c = delimiter then some ([], rest) else (takeUntil delimiter rest).map fun t => (c :: t.1, t.2)

/-- Drops the backslash before each escaped quote of the given kind. -/
def unescape (quote : Char) : List Char → List Char
  | '\\' :: c :: rest => if c = quote then c :: unescape quote rest else '\\' :: unescape quote (c :: rest)
  | c :: rest => c :: unescape quote rest
  | [] => []

/-- The literal between grave accents; a text that is no literal is read once more as one in quotes. -/
def literalOf? (body : List Char) : Option QueryLiteral :=
  match QueryLiteral.read? body with
  | some v => some v
  | none => QueryLiteral.read? ('"' :: body.dropWhile Char.isWhitespace ++ ['"'])

/-- A token of two characters if the second one follows, else one of the first alone. -/
def either (second : Char) (long short : QueryToken) : List Char → QueryToken × List Char
  | c :: rest => if c = second then (long, rest) else (short, c :: rest)
  | [] => (short, [])

def readOne (c : Char) (rest : List Char) : Except QuerySyntaxError (QueryToken × List Char) :=
  match c with
  | '.' => .ok (dot, rest)
  | '*' => .ok (star, rest)
  | ']' => .ok (rightBracket, rest)
  | ',' => .ok (comma, rest)
  | ':' => .ok (colon, rest)
  | '@' => .ok (current, rest)
  | '(' => .ok (leftParen, rest)
  | ')' => .ok (rightParen, rest)
  | '{' => .ok (leftBrace, rest)
  | '}' => .ok (rightBrace, rest)
  | '[' =>
    match rest with
    | ']' :: more => .ok (flatten, more)
    | '?' :: more => .ok (filter, more)
    | _ => .ok (leftBracket, rest)
  | '|' => .ok (either '|' orSign pipe rest)
  | '&' => .ok (either '&' andSign reference rest)
  | '<' => .ok (either '=' (comparator .lessOrEqual) (comparator .less) rest)
  | '>' => .ok (either '=' (comparator .greaterOrEqual) (comparator .greater) rest)
  | '!' => .ok (either '=' (comparator .unequal) not rest)
  | '=' =>
    match rest with
    | '=' :: more => .ok (comparator .equal, more)
    | _ => .error .badCharacter
  | '\'' =>
    match takeUntil '\'' rest with
    | some (body, more) => .ok (literal (.text (String.ofList (unescape '\'' body))), more)
    | none => .error .badCharacter
  | '"' =>
    match takeUntil '"' rest with
    | some (body, more) =>
      match QueryLiteral.readText (body ++ ['"']) with
      | some (content, []) => .ok (quotedName (String.ofList content), more)
      | _ => .error .badCharacter
    | none => .error .badCharacter
  | '-' =>
    let ds := rest.takeWhile Char.isDigit
    if ds.isEmpty then .error .badCharacter
    else .ok (number (-(Numeral.natOfDigits ds : Int)), rest.dropWhile Char.isDigit)
  | _ =>
    if c = Char.ofNat 96 then
      match takeUntil c rest with
      | some (body, more) =>
        match literalOf? (unescape c body) with
        | some v => .ok (literal v, more)
        | none => .error .badCharacter
      | none => .error .badCharacter
    else if c.isDigit then
      .ok (number (Numeral.natOfDigits ((c :: rest).takeWhile Char.isDigit)), rest.dropWhile Char.isDigit)
    else if startsName c then
      .ok (name (String.ofList ((c :: rest).takeWhile continuesName)), rest.dropWhile continuesName)
    else .error .badCharacter

/-- Reads all tokens of a text, at most `fuel` of them, and puts the finish after them. -/
def readAll : Nat → List Char → Except QuerySyntaxError (List QueryToken)
  | 0, _ => .ok [finish]
  | _, [] => .ok [finish]
  | fuel + 1, c :: rest =>
    if c = ' ' ∨ c = '\t' ∨ c = '\n' ∨ c = '\r' then readAll fuel rest
    else do
      let (token, more) ← readOne c rest
      return token :: (← readAll fuel more)

/-- The tokens of a text; an empty one has none. -/
def ofText (s : String) : Except QuerySyntaxError (List QueryToken) :=
  if s.isEmpty then .error .empty else readAll (s.length + 1) s.toList

end QueryToken

end Clausewise
