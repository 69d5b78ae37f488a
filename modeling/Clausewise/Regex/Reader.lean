import Clausewise.Regex.CharSet
import Clausewise.Number.Numeral
/-!
Reading regular expressions. Flags are resolved while reading: a flag set without a scope holds for the
whole expression, so an expression that sets one is read again with it.
-/

namespace Clausewise

/-- Why the text of a regular expression is refused. -/
inductive RegexSyntaxError where
  | malformed
deriving DecidableEq, Inhabited

/-- The flags in force at a place of an expression, and whether the subject consists of bytes. -/
structure RegexMode where
  flags : List RegexFlag
  overBytes : Bool
deriving Inhabited

namespace RegexMode

def has (m : RegexMode) (f : RegexFlag) : Bool := m.flags.contains f

/-- Whether families and letter case go by ASCII only. -/
def isAscii (m : RegexMode) : Bool := m.overBytes || m.has .ascii || m.has .locale

/-- How letters of different case compare. -/
def caseRule (m : RegexMode) : CaseRule :=
  if !m.has .ignoreCase then .exact else if m.isAscii then .asciiFolded else .folded

/-- Flags added and removed. -/
def adjust (m : RegexMode) (on off : List RegexFlag) : RegexMode :=
  { m with flags := (m.flags ++ on).eraseDups.filter fun f => !off.contains f }

end RegexMode

namespace Regex

/-- What the reader carries along: the text to come, the groups opened so far and their names, and the
flags that were set without a scope. -/
structure Reader where
  rest : List Char
  groups : Nat
  names : List (String × Nat)
  unscoped : List RegexFlag
deriving Inhabited

abbrev Read := StateT Reader (Except RegexSyntaxError)

namespace Read

/-- Refuses the text. -/
def refuse {α : Type} : Read α := throw .malformed

/-- The text to come. -/
def rest : Read (List Char) := do return (← get).rest

/-- Goes on with another text. -/
def goTo (cs : List Char) : Read Unit := modify fun r => { r with rest := cs }

/-- Takes one character. -/
def next : Read Char := do
  match ← rest with
  | c :: cs => goTo cs; return c
  | [] => refuse

/-- Takes a text if it stands next. -/
def tryText (s : String) : Read Bool := do
  let cs ← rest
  if s.toList.isPrefixOf cs then goTo (cs.drop s.length); return true else return false

/-- Takes a text that has to stand next. -/
def expect (s : String) : Read Unit := do if ← tryText s then return () else refuse

/-- Takes the characters that satisfy a test. -/
def takeWhile (p : Char → Bool) : Read (List Char) := do
  let cs ← rest
  goTo (cs.dropWhile p)
  return cs.takeWhile p

/-- Takes the characters up to a closing one, which is taken too. -/
def takeTo (close : Char) : Read String := do
  let cs ← takeWhile (· != close)
  expect (String.singleton close)
  return String.ofList cs

end Read

open Read

/-- The number that hexadecimal digits write. -/
def hexValue (ds : List Char) : Nat :=
  ds.foldl (fun n c =>
    16 * n + (if c.isDigit then c.toNat - 48 else if c.isUpper then c.toNat - 55 else c.toNat - 87)) 0

/-- Whether a character is a hexadecimal digit. -/
def isHex (c : Char) : Bool := CharFamily.isHexDigit c.toNat

/-- Whether a character is an octal digit. -/
def isOctal (c : Char) : Bool := '0' ≤ c && c ≤ '7'

/-- The number that octal digits write. -/
def octalValue (ds : List Char) : Nat := ds.foldl (fun n d => 8 * n + (d.toNat - 48)) 0

/-- Takes exactly `count` hexadecimal digits. -/
def readHex (count : Nat) : Read Nat := do
  let cs ← rest
  let ds := cs.take count
  if ds.length = count && ds.all isHex then goTo (cs.drop count); return hexValue ds else refuse

/-- The characters that single-letter escapes stand for. -/
def letterEscapes : List (Char × Nat) :=
  [('a', 7), ('f', 12), ('n', 10), ('r', 13), ('t', 9), ('v', 11)]

def flagOf? : Char → Option RegexFlag
  | 'i' => some .ignoreCase
  | 'L' => some .locale
  | 'm' => some .multiline
  | 's' => some .dotAll
  | 'x' => some .verbose
  | 'a' => some .ascii
  | _ => none

/-- A property name without case, spaces, dashes and underscores. -/
def normalName (s : String) : String :=
  String.ofList ((s.toList.filter fun c => !(c = ' ' || c = '_' || c = '-')).map Char.toLower)

/-- Families by normal name. -/
def familyNames : List (String × CharFamily) :=
  [("alpha", .letter), ("alphabetic", .letter), ("digit", .digit), ("alnum", .alphanumeric),
    ("alphanumeric", .alphanumeric), ("upper", .upper), ("uppercase", .upper), ("lower", .lower),
    ("lowercase", .lower), ("space", .space), ("whitespace", .space), ("punct", .punctuation),
    ("cntrl", .control), ("graph", .graphic), ("print", .printing), ("blank", .blank),
    ("xdigit", .hexDigit), ("word", .word), ("ascii", .ascii), ("any", .any), ("assigned", .general "C"),
    ("letter", .general "L"), ("uppercaseletter", .general "Lu"), ("lowercaseletter", .general "Ll"),
    ("titlecaseletter", .general "Lt"), ("modifierletter", .general "Lm"), ("otherletter", .general "Lo"),
    ("casedletter", .general "LC"), ("mark", .general "M"), ("nonspacingmark", .general "Mn"),
    ("spacingmark", .general "Mc"), ("enclosingmark", .general "Me"), ("number", .general "N"),
    ("decimalnumber", .general "Nd"), ("letternumber", .general "Nl"), ("othernumber", .general "No"),
    ("punctuation", .general "P"), ("connectorpunctuation", .general "Pc"),
    ("dashpunctuation", .general "Pd"), ("openpunctuation", .general "Ps"),
    ("closepunctuation", .general "Pe"), ("initialpunctuation", .general "Pi"),
    ("finalpunctuation", .general "Pf"), ("otherpunctuation", .general "Po"), ("symbol", .general "S"),
    ("mathsymbol", .general "Sm"), ("currencysymbol", .general "Sc"), ("modifiersymbol", .general "Sk"),
    ("othersymbol", .general "So"), ("separator", .general "Z"), ("spaceseparator", .general "Zs"),
    ("lineseparator", .general "Zl"), ("paragraphseparator", .general "Zp"), ("control", .general "Cc"),
    ("format", .general "Cf"), ("privateuse", .general "Co"), ("surrogate", .general "Cs"),
    ("unassigned", .general "Cn"), ("other", .general "C")]

/-- The category abbreviations, by lower-case name. -/
def categoryNames : List (String × String) :=
  (GeneralCategory.tables.map (·.1) ++ ["L", "M", "N", "P", "S", "Z", "C", "LC", "Cs", "Cn", "L&"]).map
    fun s => (s.toLower, s)

def propertyOf? (name : String) : Option CharFamily :=
  let whole := normalName name
  let key := match whole.splitOn "=" with
    | [_, v] => v
    | _ => match whole.splitOn ":" with
      | [_, v] => v
      | _ => whole
  match categoryNames.lookup key, familyNames.lookup key, Script.tables.lookup key with
  | some c, _, _ => some (.general c)
  | _, some f, _ => some f
  | _, _, some _ => some (.script key)
  | _, _, _ =>
    if key.startsWith "is" then
      let bare := (key.drop 2).toString
      (familyNames.lookup bare).or ((Script.tables.lookup bare).map fun _ => .script bare)
    else none

/-- Reads what follows `\p` or `\P`. -/
def readProperty (mode : RegexMode) (negated : Bool) : Read SetItem := do
  let braced ← tryText "\x7b"
  let name ← if braced then takeTo '}' else String.singleton <$> next
  let (negated, name) := if name.startsWith "^" then (!negated, (name.drop 1).toString) else (negated, name)
  match propertyOf? name with
  | some f => return .family f mode.isAscii negated
  | none => refuse

def familyEscape? (mode : RegexMode) : Char → Option SetItem
  | 'd' => some (.family .digit mode.isAscii false)
  | 'D' => some (.family .digit mode.isAscii true)
  | 's' => some (.family .space mode.isAscii false)
  | 'S' => some (.family .space mode.isAscii true)
  | 'w' => some (.family .word mode.isAscii false)
  | 'W' => some (.family .word mode.isAscii true)
  | _ => none

/-- Reads the escapes that are the same inside and outside sets, after the backslash and `c`. -/
def readCommonEscape (mode : RegexMode) (c : Char) : Read SetItem := do
  match familyEscape? mode c, letterEscapes.lookup c with
  | some item, _ => return item
  | _, some code => return .char code
  | _, _ =>
    if c = 'x' then return .char (← readHex 2)
    else if c = 'u' && !mode.overBytes then return .char (← readHex 4)
    else if c = 'U' && !mode.overBytes then return .char (← readHex 8)
    else if c = 'p' then readProperty mode false
    else if c = 'P' then readProperty mode true
    else if c = '0' then
      let ds := ((← rest).take 2).takeWhile isOctal
      goTo ((← rest).drop ds.length)
      return .char (octalValue ds)
    else if c.isAlpha then refuse
    else return .char c.toNat

def readSetAtom (mode : RegexMode) : Read SetItem := do
  let c ← next
  if c = '[' then
    if ← tryText ":" then
      let before := (← rest)
      let negated ← tryText "^"
      let name ← takeWhile Char.isAlpha
      if ← tryText ":]" then
        match familyNames.lookup (normalName (String.ofList name)) with
        | some f => return .family f mode.isAscii negated
        | none => refuse
      else
        goTo (':' :: before)
        return .char c.toNat
    else return .char c.toNat
  else if c = '\\' then
    let e ← next
    if e = 'b' then return .char 8
    else if isOctal e && e != '0' then
      let ds := e :: ((← rest).take 2).takeWhile isOctal
      goTo ((← rest).drop (ds.length - 1))
      return .char (octalValue ds)
    else readCommonEscape mode e
  else return .char c.toNat

/-- Reads the items of a set up to the closing bracket, at most `fuel` of them. -/
def readSetItems (mode : RegexMode) : Nat → Bool → Read (List SetItem)
  | 0, _ => refuse
  | fuel + 1, first => do
    if !first && (← tryText "]") then return []
    let low ← readSetAtom mode
    let cs ← rest
    match low, cs with
    | .char a, '-' :: d :: _ =>
      if d = ']' then return low :: (← readSetItems mode fuel false)
      else
        goTo (cs.drop 1)
        match ← readSetAtom mode with
        | .char b => if a ≤ b then return .range a b :: (← readSetItems mode fuel false) else refuse
        | high => return low :: .char '-'.toNat :: high :: (← readSetItems mode fuel false)
    | _, _ => return low :: (← readSetItems mode fuel false)

/-- Reads a set after its opening bracket. -/
def readSet (mode : RegexMode) : Read Regex := do
  let negated ← tryText "^"
  let items ← readSetItems mode ((← rest).length + 1) true
  return .set ⟨negated, items, mode.caseRule⟩

/-- Reads the bounds of a repetition after an opening brace; none if the brace stands for itself. -/
def readBounds : Read (Option (Nat × Option Nat)) := do
  let start ← rest
  let low ← takeWhile Char.isDigit
  let least := Numeral.natOfDigits low
  if ← tryText "\x7d" then
    if low.isEmpty then goTo start; return none
    else return some (least, some least)
  else if ← tryText "," then
    let high ← takeWhile Char.isDigit
    let most := Numeral.natOfDigits high
    if low.isEmpty && high.isEmpty then goTo start; return none
    else if ← tryText "\x7d" then
      if high.isEmpty then return some (least, none)
      else if most < least then refuse
      else return some (least, some most)
    else goTo start; return none
  else goTo start; return none

/-- Skips blanks and comments where the mode ignores them. -/
def skipIgnored (mode : RegexMode) : Nat → Read Unit
  | 0 => return ()
  | fuel + 1 => do
    if !mode.has .verbose then return ()
    match ← rest with
    | '#' :: cs => goTo (cs.dropWhile (· != '\n')); skipIgnored mode fuel
    | c :: cs => if c.isWhitespace || c = '\x0b' || c = '\x0c' then goTo cs; skipIgnored mode fuel else return ()
    | [] => return ()

/-- Reads a quantifier, if one stands next. -/
def readQuantifier : Read (Option (Nat × Option Nat)) := do
  match ← rest with
  | '*' :: cs => goTo cs; return some (0, none)
  | '+' :: cs => goTo cs; return some (1, none)
  | '?' :: cs => goTo cs; return some (0, some 1)
  | '{' :: cs =>
    goTo cs
    match ← readBounds with
    | some b => return some b
    | none => goTo ('{' :: cs); return none
  | _ => return none

/-- Applies a quantifier with the mark after it: lazy, possessive or none. -/
def quantify (item : Regex) (bounds : Nat × Option Nat) : Read Regex := do
  if ← tryText "?" then return .repeat bounds.1 bounds.2 .lazy item
  else if ← tryText "+" then return .atomic (.repeat bounds.1 bounds.2 .greedy item)
  else return .repeat bounds.1 bounds.2 .greedy item

/-- A reference to a group that matched before, by name or number. -/
def groupIndex (name : String) : Read Nat := do
  if !name.isEmpty && name.toList.all Char.isDigit then
    return Numeral.natOfDigits name.toList
  match (← get).names.lookup name with
  | some i => return i
  | none => refuse

def openGroup (name : Option String) : Read Nat := do
  let r ← get
  match name.bind fun n => r.names.lookup n with
  | some i => return i
  | none =>
    let i := r.groups + 1
    let names := match name with
      | some n => (n, i) :: r.names
      | none => r.names
    modify fun r => { r with groups := i, names := names }
    return i

/-- Reads flags to switch on, and after a dash flags to switch off. -/
def readFlags : Read (List RegexFlag × List RegexFlag) := do
  let on ← takeWhile fun c => (flagOf? c).isSome || c = 'u'
  let off ← if ← tryText "-" then takeWhile fun c => (flagOf? c).isSome else pure []
  return (on.filterMap flagOf?, off.filterMap flagOf?)

/-- Reads an escape outside sets, after the backslash. -/
def readEscape (mode : RegexMode) : Read Regex := do
  let c ← next
  let single (item : SetItem) : Regex := .set ⟨false, [item], mode.caseRule⟩
  match c with
  | 'A' => return .anchor .textStart
  | 'Z' => return .anchor .textEnd
  | 'z' => return .anchor .textEnd
  | 'G' => return .anchor .textStart
  | 'K' => return .empty
  | 'b' => return .anchor (.wordBoundary mode.isAscii false)
  | 'B' => return .anchor (.wordBoundary mode.isAscii true)
  | 'm' => return .anchor (.wordStart mode.isAscii)
  | 'M' => return .anchor (.wordEnd mode.isAscii)
  | 'R' =>
    let one (codes : List Nat) : Regex := .set ⟨false, codes.map .char, .exact⟩
    let more := if mode.overBytes then [] else [0x85, 0x2028, 0x2029]
    return .atomic (.alt (.cat (one [13]) (one [10])) (one ([10, 11, 12, 13] ++ more)))
  | 'g' =>
    expect "<"
    let name ← takeTo '>'
    return .backreference (← groupIndex name) mode.caseRule
  | _ =>
    if c.isDigit && c != '0' then
      let cs ← rest
      let ds := (cs.take 2).takeWhile Char.isDigit
      if ds.length = 2 && isOctal c && ds.all isOctal then
        goTo (cs.drop 2)
        return single (.char (octalValue (c :: ds)))
      else
        let more := (cs.take 1).takeWhile Char.isDigit
        goTo (cs.drop more.length)
        let index := Numeral.natOfDigits (c :: more)
        if index ≤ (← get).groups then return .backreference index mode.caseRule else refuse
    else return single (← readCommonEscape mode c)

/-- A regular expression for one plain character. -/
def literalChar (mode : RegexMode) (c : Char) : Regex := .set ⟨false, [.char c.toNat], mode.caseRule⟩

mutual

/-- Reads alternatives up to a closing parenthesis or the end. -/
def readAlternatives (mode : RegexMode) : Nat → Read Regex
  | 0 => refuse
  | fuel + 1 => do
    let first ← readSequence mode fuel
    if ← tryText "|" then return .alt first (← readAlternatives mode fuel) else return first

/-- Reads items up to a bar, a closing parenthesis or the end. -/
def readSequence (mode : RegexMode) : Nat → Read Regex
  | 0 => refuse
  | fuel + 1 => do
    skipIgnored mode fuel
    match ← rest with
    | [] => return .empty
    | c :: _ =>
      if c = '|' || c = ')' then return .empty
      else
        let item ← readItem mode fuel
        skipIgnored mode fuel
        let item ← match ← readQuantifier with
          | some bounds => quantify item bounds
          | none => pure item
        return .cat item (← readSequence mode fuel)

/-- Reads one item without its quantifier. -/
def readItem (mode : RegexMode) : Nat → Read Regex
  | 0 => refuse
  | fuel + 1 => do
    let c ← next
    match c with
    | '.' =>
      if mode.has .dotAll then return .set ⟨false, [.family .any false false], .exact⟩
      else return .set ⟨true, [.char 10], .exact⟩
    | '^' => return .anchor (if mode.has .multiline then .lineStart else .textStart)
    | '$' => return .anchor (if mode.has .multiline then .lineEnd else .finalLineEnd)
    | '[' => readSet mode
    | '\\' => readEscape mode
    | '(' => if ← tryText "?" then readSpecialGroup mode fuel else readGroup mode none fuel
    | '*' => refuse
    | '+' => refuse
    | '?' => refuse
    | _ => return literalChar mode c

/-- Reads the body of a capturing group and its closing parenthesis. -/
def readGroup (mode : RegexMode) (name : Option String) : Nat → Read Regex
  | 0 => refuse
  | fuel + 1 => do
    let index ← openGroup name
    let body ← readAlternatives mode fuel
    expect ")"
    return .group index body

/-- Reads a body and its closing parenthesis. -/
def readBody (mode : RegexMode) : Nat → Read Regex
  | 0 => refuse
  | fuel + 1 => do
    let body ← readAlternatives mode fuel
    expect ")"
    return body

def readSpecialGroup (mode : RegexMode) : Nat → Read Regex
  | 0 => refuse
  | fuel + 1 => do
    if ← tryText ":" then readBody mode fuel
    else if ← tryText "=" then return .look false false (← readBody mode fuel)
    else if ← tryText "!" then return .look false true (← readBody mode fuel)
    else if ← tryText "<=" then return .look true false (← readBody mode fuel)
    else if ← tryText "<!" then return .look true true (← readBody mode fuel)
    else if ← tryText ">" then return .atomic (← readBody mode fuel)
    else if ← tryText "#" then
      let _ ← takeTo ')'
      return .empty
    else if ← tryText "P=" then return .backreference (← groupIndex (← takeTo ')')) mode.caseRule
    else if (← tryText "P<") || (← tryText "<") then
      let name ← takeTo '>'
      readGroup mode (some name) fuel
    else if ← tryText "(" then
      let index ← groupIndex (← takeTo ')')
      let yes ← readSequence mode fuel
      if ← tryText "|" then
        let no ← readSequence mode fuel
        expect ")"
        return .conditional index yes no
      else
        expect ")"
        return .conditional index yes .empty
    else
      let (on, off) ← readFlags
      if ← tryText ":" then readBody (mode.adjust on off) fuel
      else
        expect ")"
        modify fun r => { r with unscoped := r.unscoped ++ on }
        return .empty

end

/-- Reads a whole text under the given flags, with the flags that it sets without a scope. -/
def readWith (mode : RegexMode) (source : String) : Except RegexSyntaxError (Regex × List RegexFlag) := do
  let (r, reader) ← (readAlternatives mode (6 * source.length + 10)).run ⟨source.toList, 0, [], []⟩
  if reader.rest.isEmpty then return (r, reader.unscoped) else throw .malformed

end Regex

namespace RegexPattern

/-- Compiles a text. Flags set without a scope are added to the given ones and the text is read again. -/
def compile (dialect : RegexDialect) (overBytes : Bool) (source : String) (flags : List RegexFlag) :
    Except RegexSyntaxError RegexPattern := do
  let (program, unscoped) ← Regex.readWith ⟨flags, overBytes⟩ source
  let all := (flags ++ unscoped).eraseDups
  if all.length = flags.eraseDups.length then return ⟨dialect, overBytes, source, all, program⟩
  else
    let (program, _) ← Regex.readWith ⟨all, overBytes⟩ source
    return ⟨dialect, overBytes, source, all, program⟩

end RegexPattern

end Clausewise
