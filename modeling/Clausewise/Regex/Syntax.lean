/-!
The syntax of regular expressions after reading: every flag is resolved, so each node says by itself what
it accepts.
-/

namespace Clausewise

/-- Named families of characters that an expression can refer to. -/
inductive CharFamily where
  | digit
  | space
  | word
  | letter
  | upper
  | lower
  | alphanumeric
  | punctuation
  | control
  | graphic
  | printing
  | blank
  | hexDigit
  | ascii
  | any
  /-- A general category or group of categories of the character database, such as `Lu` or `L`. -/
  | general (name : String)
  /-- A script of the character database. -/
  | script (name : String)
deriving DecidableEq, Inhabited

/-- A part of a character set. -/
inductive SetItem where
  | char (code : Nat)
  | range (low high : Nat)
  /-- A family or its complement, over all characters or the ASCII ones only. -/
  | family (f : CharFamily) (ascii negated : Bool)
deriving DecidableEq, Inhabited

/-- How letters of different case compare. -/
inductive CaseRule where
  | exact
  /-- Letters are equal up to case, over all characters. -/
  | folded
  /-- Letters are equal up to case, over the ASCII ones only. -/
  | asciiFolded
deriving DecidableEq, Inhabited

/-- A set of characters. -/
structure CharSet where
  negated : Bool
  items : List SetItem
  caseRule : CaseRule
deriving DecidableEq, Inhabited

/-- A condition on a position in the subject. -/
inductive Anchor where
  | textStart
  | textEnd
  /-- At the end, or before a line feed that ends the subject. -/
  | finalLineEnd
  | lineStart
  | lineEnd
  | wordBoundary (ascii negated : Bool)
  | wordStart (ascii : Bool)
  | wordEnd (ascii : Bool)
deriving DecidableEq, Inhabited

/-- Whether a repetition prefers more or fewer rounds. -/
inductive Preference where
  | greedy
  | lazy
deriving DecidableEq, Inhabited

/-- A regular expression. -/
inductive Regex where
  | empty
  | fail
  | set (s : CharSet)
  | cat (first second : Regex)
  | alt (left right : Regex)
  | group (index : Nat) (body : Regex)
  | repeat (low : Nat) (high : Option Nat) (preference : Preference) (body : Regex)
  /-- Only the first way to match the body is tried. -/
  | atomic (body : Regex)
  | look (behind negated : Bool) (body : Regex)
  | backreference (index : Nat) (caseRule : CaseRule)
  | conditional (index : Nat) (yes no : Regex)
  | anchor (a : Anchor)
deriving Inhabited

/-- The flags that a regular expression can be compiled with. -/
inductive RegexFlag where
  | ignoreCase
  | locale
  | multiline
  | dotAll
  | verbose
  | ascii
deriving DecidableEq, Inhabited

/-- The dialect that a pattern was written for; it decides how the pattern prints. -/
inductive RegexDialect where
  | standard
  | extended
deriving DecidableEq, Inhabited

/-- A compiled pattern: its source, flags and meaning. In a pattern over bytes each character of the source
stands for the byte of its code. -/
structure RegexPattern where
  dialect : RegexDialect
  overBytes : Bool
  source : String
  flags : List RegexFlag
  program : Regex
deriving Inhabited

end Clausewise
