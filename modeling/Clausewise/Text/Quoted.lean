import Clausewise.Text.Printable
/-!
Quoted texts and byte strings. The quote is a single one unless the content holds single and no double
quotes; the backslash, the quote and the unprintable characters are escaped, everything else stands for
itself.
-/

namespace Clausewise.Quoted

/-- The lower-case hexadecimal digits of `n`, at least `width` of them. -/
def hex (width n : Nat) : List Char :=
  let ds := Nat.toDigits 16 n
  List.replicate (width - ds.length) '0' ++ ds

/-- The quote for a content: double only if the content holds single quotes and no double ones. -/
def quoteFor (content : List Char) : Char :=
  if content.contains '\'' && !content.contains '"' then '"' else '\''

/-- The escape of a character inside quotes, or the character itself. -/
def escape (quote c : Char) : List Char :=
  if c = '\\' ∨ c = quote then ['\\', c]
  else if c = '\n' then ['\\', 'n']
  else if c = '\r' then ['\\', 'r']
  else if c = '\t' then ['\\', 't']
  else if isPrintable c then [c]
  else if c.toNat < 0x100 then '\\' :: 'x' :: hex 2 c.toNat
  else if c.toNat < 0x10000 then '\\' :: 'u' :: hex 4 c.toNat
  else '\\' :: 'U' :: hex 8 c.toNat

def text (content : List Char) : List Char :=
  let quote := quoteFor content
  quote :: content.flatMap (escape quote) ++ [quote]

/-- The escape of a byte inside quotes: as for a character, but nothing beyond ASCII stands for itself. -/
def escapeByte (quote c : Char) : List Char :=
  if c.toNat < 0x7f then escape quote c else '\\' :: 'x' :: hex 2 c.toNat

/-- The bytes as characters of the same codes. -/
def chars (content : List UInt8) : List Char := content.map fun b => Char.ofNat b.toNat

/-- A byte string in quotes after a `b`. -/
def bytes (content : List UInt8) : List Char :=
  let quote := quoteFor (chars content)
  'b' :: quote :: (chars content).flatMap (escapeByte quote) ++ [quote]

/-- The bytes of an array in quotes after a `b`; a single quote is escaped whatever the quotes are. -/
def byteArray (content : List UInt8) : List Char :=
  let quote := quoteFor (chars content)
  let escaped (c : Char) : List Char := if c = '\'' then ['\\', c] else escapeByte quote c
  'b' :: quote :: (chars content).flatMap escaped ++ [quote]

end Clausewise.Quoted
