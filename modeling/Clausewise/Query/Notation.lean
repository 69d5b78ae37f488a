import Clausewise.Failure
/-!
Values in the notation of query literals, for turning a value into a text. Values that the notation lacks
are written as texts.
-/

namespace Clausewise.Value

/-- One unit of an escaped character. -/
def unitEscape (n : Nat) : List Char := '\\' :: 'u' :: Quoted.hex 4 n

/-- A character inside a text: quotes, backslashes and everything beyond printable ASCII are escaped. -/
def notationChar (c : Char) : List Char :=
  if c = '"' then ['\\', '"']
  else if c = '\\' then ['\\', '\\']
  else if c = '\n' then ['\\', 'n']
  else if c = '\r' then ['\\', 'r']
  else if c = '\t' then ['\\', 't']
  else if c = '\x08' then ['\\', 'b']
  else if c = '\x0c' then ['\\', 'f']
  else if 0x20 ≤ c.toNat ∧ c.toNat < 0x7f then [c]
  else if c.toNat < 0x10000 then unitEscape c.toNat
  else
    let n := c.toNat - 0x10000
    unitEscape (0xd800 + n / 0x400) ++ unitEscape (0xdc00 + n % 0x400)

def notationText (s : List Char) : List Char := '"' :: s.flatMap notationChar ++ ['"']

/-- A floating-point number in the notation. -/
def notationFloat (x : Binary64) : List Char :=
  match x with
  | .nan => "NaN".toList
  | .infinity negative => (if negative then "-Infinity" else "Infinity").toList
  | _ => FloatLayout.real.text x

/-- A key of an object as a text; only texts, numbers, truth values and the loose absence can be one. -/
def notationKey : Value → Except Failure (List Char)
  | text s | derivedText s => .ok s.toList
  | kind k => .ok k.word.toList
  | bool b => .ok (if b then "true" else "false").toList
  | null => .ok "null".toList
  | number (.int n) => .ok (Number.intText n)
  | number (.float x) => .ok (notationFloat x)
  | _ => .error (.complaint .types)

mutual

def notationOf : Value → Except Failure (List Char)
  | null => .ok "null".toList
  | bool b => .ok (if b then "true" else "false").toList
  | number (.int n) => .ok (Number.intText n)
  | number (.float x) => .ok (notationFloat x)
  | text s | derivedText s => .ok (notationText s.toList)
  | kind k => .ok (notationText k.word.toList)
  | sequence .list items | sequence .tuple items | sequence .point items => do
    let parts ← notationOfAll items
    return '[' :: ",".toList.intercalate parts ++ [']']
  | mapping .plain entries | mapping .ordered entries | mapping .counter entries
  | mapping .defaulting entries => do
    let parts ← notationOfEntries entries
    return '{' :: ",".toList.intercalate parts ++ ['}']
  | cyclic _ => .error (.complaint ⟨.badValue, none⟩)
  | v => .ok (notationText (v.plain fun _ => default).toList)

def notationOfAll : List Value → Except Failure (List (List Char))
  | [] => .ok []
  | v :: vs => do
    let part ← notationOf v
    return part :: (← notationOfAll vs)

def notationOfEntries : List (Value × Value) → Except Failure (List (List Char))
  | [] => .ok []
  | (k, v) :: rest => do
    let key ← notationKey k
    let part ← notationOf v
    return (notationText key ++ ':' :: part) :: (← notationOfEntries rest)

end

end Clausewise.Value
