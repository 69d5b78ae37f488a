import Clausewise.Query.Syntax
import Clausewise.Number.Numeral
/-!
Literals of queries in their written form: the usual notation for null, truth values, numbers, texts, arrays
and objects, with three words for the numbers that notation lacks.
-/

namespace Clausewise.QueryLiteral

/-- The characters that may stand around a literal. -/
def isBlank (c : Char) : Bool := c = ' ' || c = '\t' || c = '\n' || c = '\r'

/-- The text without leading blanks. -/
def skipBlanks (cs : List Char) : List Char := cs.dropWhile isBlank

/-- The number that four hexadecimal digits write. -/
def hexUnit? (cs : List Char) : Option Nat :=
  if cs.length = 4 ∧ cs.all (fun c => c.isDigit || ('a' ≤ c && c ≤ 'f') || ('A' ≤ c && c ≤ 'F')) then
    some (cs.foldl (fun n c =>
      16 * n + (if c.isDigit then c.toNat - 48 else if c.isUpper then c.toNat - 55 else c.toNat - 87)) 0)
  else none

/-- The character of a single-letter escape. -/
def escaped? : Char → Option Char
  | '"' => some '"'
  | '\\' => some '\\'
  | '/' => some '/'
  | 'b' => some '\x08'
  | 'f' => some '\x0c'
  | 'n' => some '\n'
  | 'r' => some '\r'
  | 't' => some '\t'
  | _ => none

/-- Reads a text after its opening quote, with what follows the closing one. Two escaped halves of a
character beyond the first plane make that character. -/
def readText : List Char → Option (List Char × List Char)
  | [] => none
  | '"' :: rest => some ([], rest)
  | '\\' :: 'u' :: a :: b :: c :: d :: rest =>
    match hexUnit? [a, b, c, d], rest with
    | some high, '\\' :: 'u' :: a' :: b' :: c' :: d' :: more =>
      match hexUnit? [a', b', c', d'] with
      | some low =>
        if 0xd800 ≤ high ∧ high < 0xdc00 ∧ 0xdc00 ≤ low ∧ low < 0xe000 then
          (readText more).map fun t =>
            (Char.ofNat (0x10000 + (high - 0xd800) * 0x400 + (low - 0xdc00)) :: t.1, t.2)
        else (readText ('\\' :: 'u' :: a' :: b' :: c' :: d' :: more)).map fun t => (Char.ofNat high :: t.1, t.2)
      | none => none
    | some unit, rest => (readText rest).map fun t => (Char.ofNat unit :: t.1, t.2)
    | none, _ => none
  | '\\' :: e :: rest =>
    match escaped? e with
    | some c => (readText rest).map fun t => (c :: t.1, t.2)
    | none => none
  | c :: rest => if c.toNat < 0x20 then none else (readText rest).map fun t => (c :: t.1, t.2)

/-- Reads a number: an integer, or with a point or exponent a binary floating-point number. -/
def readNumber (cs : List Char) : Option (QueryLiteral × List Char) :=
  let (negative, cs) := match cs with
    | '-' :: rest => (true, rest)
    | _ => (false, cs)
  let (whole, rest) := match cs with
    | '0' :: rest => (['0'], rest)
    | _ => (cs.takeWhile Char.isDigit, cs.dropWhile Char.isDigit)
  if whole.isEmpty then none
  else
    let (fraction, rest) := match rest with
      | '.' :: d :: more =>
        if d.isDigit then ((d :: more).takeWhile Char.isDigit, (d :: more).dropWhile Char.isDigit) else ([], rest)
      | _ => ([], rest)
    let (exponent, rest) : Option Int × List Char := match rest with
      | e :: more =>
        if e = 'e' ∨ e = 'E' then
          let (down, more) := Numeral.takeSign more
          let ds := more.takeWhile Char.isDigit
          if ds.isEmpty then (none, rest)
          else
            let n : Int := Numeral.natOfDigits ds
            (some (if down then -n else n), more.dropWhile Char.isDigit)
        else (none, rest)
      | [] => (none, rest)
    if fraction.isEmpty && exponent.isNone then
      let n : Int := Numeral.natOfDigits whole
      some (.int (if negative then -n else n), rest)
    else
      let x : Numeral := ⟨negative, Numeral.natOfDigits (whole ++ fraction), exponent.getD 0 - fraction.length⟩
      some (.float (.ofNumeral x), rest)

/-- The words that stand for single literals. -/
def words : List (String × QueryLiteral) :=
  [("null", .null), ("true", .bool true), ("false", .bool false), ("NaN", .float .nan),
    ("Infinity", .float (.infinity false)), ("-Infinity", .float (.infinity true))]

/-- Puts a field into an object; a later field of the same name takes the place of an earlier one. -/
def putField (name : String) (v : QueryLiteral) :
    List (String × QueryLiteral) → List (String × QueryLiteral)
  | [] => [(name, v)]
  | (n, w) :: rest => if n = name then (n, v) :: rest else (n, w) :: putField name v rest

mutual

/-- Reads a literal after blanks, with what follows it. -/
def readOne : Nat → List Char → Option (QueryLiteral × List Char)
  | 0, _ => none
  | fuel + 1, cs =>
    match words.find? fun w => w.1.toList.isPrefixOf cs with
    | some (w, v) => some (v, cs.drop w.length)
    | none =>
      match cs with
      | '"' :: rest => (readText rest).map fun t => (.text (String.ofList t.1), t.2)
      | '[' :: rest =>
        match skipBlanks rest with
        | ']' :: more => some (.array [], more)
        | more => (readItems fuel more).map fun t => (.array t.1, t.2)
      | '{' :: rest =>
        match skipBlanks rest with
        | '}' :: more => some (.object [], more)
        | more => (readFields fuel more).map fun t =>
            (.object (t.1.foldl (fun acc f => putField f.1 f.2 acc) []), t.2)
      | _ => readNumber cs

/-- Reads the items of an array up to its closing bracket. -/
def readItems : Nat → List Char → Option (List QueryLiteral × List Char)
  | 0, _ => none
  | fuel + 1, cs => do
    let (v, rest) ← readOne fuel (skipBlanks cs)
    match skipBlanks rest with
    | ',' :: more =>
      let (vs, rest) ← readItems fuel more
      return (v :: vs, rest)
    | ']' :: more => return ([v], more)
    | _ => none

/-- Reads the fields of an object up to its closing brace. -/
def readFields : Nat → List Char → Option (List (String × QueryLiteral) × List Char)
  | 0, _ => none
  | fuel + 1, cs =>
    match skipBlanks cs with
    | '"' :: rest => do
      let (name, rest) ← readText rest
      match skipBlanks rest with
      | ':' :: rest =>
        let (v, rest) ← readOne fuel (skipBlanks rest)
        match skipBlanks rest with
        | ',' :: more =>
          let (fs, rest) ← readFields fuel more
          return ((String.ofList name, v) :: fs, rest)
        | '}' :: more => return ([(String.ofList name, v)], more)
        | _ => none
      | _ => none
    | _ => none

end

/-- Reads a literal that makes up the whole text. -/
def read? (cs : List Char) : Option QueryLiteral :=
  match readOne (2 * cs.length + 2) (skipBlanks cs) with
  | some (v, rest) => if (skipBlanks rest).isEmpty then some v else none
  | none => none

end Clausewise.QueryLiteral
