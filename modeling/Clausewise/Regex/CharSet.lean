import Clausewise.Regex.Syntax
import Clausewise.Text.CharProperty
import Clausewise.Text.GeneralCategory
import Clausewise.Text.Script
import Clausewise.Text.LetterCase
/-!
Which characters a set of a regular expression accepts.
-/

namespace Clausewise

namespace CharFamily

/-- Whether a code point is a punctuation character. -/
def isPunctuation (c : Nat) : Bool := (GeneralCategory.contains? "P" c).getD false

/-- Whether a code point is a symbol. -/
def isSymbol (c : Nat) : Bool := (GeneralCategory.contains? "S" c).getD false

/-- Whether a code point is neither a space, a control, a surrogate nor unassigned. -/
def isGraphic (c : Nat) : Bool :=
  !CharProperty.space.contains c && !GeneralCategory.cc.contains c &&
    !(GeneralCategory.contains? "Cs" c).getD false && !(GeneralCategory.contains? "Cn" c).getD false

/-- Whether a code point is a horizontal blank. -/
def isBlank (c : Nat) : Bool := c = 0x09 || GeneralCategory.zs.contains c

/-- Whether a code point is one of the ASCII hexadecimal digits. -/
def isHexDigit (c : Nat) : Bool :=
  (0x30 ≤ c && c ≤ 0x39) || (0x41 ≤ c && c ≤ 0x46) || (0x61 ≤ c && c ≤ 0x66)

/-- Whether a code point is in the family, over all characters. -/
def contains : CharFamily → Nat → Bool
  | digit, c => GeneralCategory.nd.contains c
  | space, c => CharProperty.space.contains c
  | word, c => CharProperty.word.contains c
  | letter, c => CharProperty.alphabetic.contains c
  | upper, c => CharProperty.uppercase.contains c
  | lower, c => CharProperty.lowercase.contains c
  | alphanumeric, c => CharProperty.alphabetic.contains c || GeneralCategory.nd.contains c
  | punctuation, c => isPunctuation c || (isSymbol c && c < 0x80)
  | control, c => GeneralCategory.cc.contains c
  | graphic, c => isGraphic c
  | printing, c => (isGraphic c || isBlank c) && !GeneralCategory.cc.contains c
  | blank, c => isBlank c
  | hexDigit, c => isHexDigit c
  | ascii, c => c < 0x80
  | any, _ => true
  | general name, c => (GeneralCategory.contains? name c).getD false
  | script name, c => (Script.contains? name c).getD false

end CharFamily

namespace SetItem

/-- Whether the item accepts exactly this code point. -/
def accepts : SetItem → Nat → Bool
  | char code, c => code = c
  | range low high, c => low ≤ c && c ≤ high
  | family f ascii negated, c => (f.contains c && (!ascii || c < 0x80)) != negated

end SetItem

namespace CaseRule

/-- The ASCII letter of the other case, with the code point itself. -/
def asciiVariants (c : Nat) : List Nat :=
  if 0x41 ≤ c ∧ c ≤ 0x5a then [c, c + 32] else if 0x61 ≤ c ∧ c ≤ 0x7a then [c, c - 32] else [c]

/-- The code points that count as the same. -/
def variants : CaseRule → Nat → List Nat
  | exact, c => [c]
  | folded, c => c :: caseVariants c
  | asciiFolded, c => asciiVariants c

/-- Whether two code points count as the same. -/
def same (r : CaseRule) (c d : Nat) : Bool := c = d || (r.variants c).contains d

end CaseRule

namespace CharSet

/-- Whether the set accepts a code point. -/
def accepts (s : CharSet) (c : Nat) : Bool :=
  (s.items.any fun item => (s.caseRule.variants c).any item.accepts) != s.negated

end CharSet

end Clausewise
