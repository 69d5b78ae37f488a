import Clausewise.Failure
import Clausewise.Regex.Engine
/-!
Searches with regular expressions. A pattern looks only into subjects of its own family, texts or bytes; the
search itself is a parameter, so that the verdict can be studied apart from the engine.
-/

namespace Clausewise

/-- How a search ends. -/
inductive SearchEnd where
  | found
  | missing
  | timedOut
deriving DecidableEq, Inhabited

namespace RegexPattern

/-- What the pattern looks into: the code points of a text or the codes of a byte string, whichever the
pattern is for. -/
def subject? (p : RegexPattern) (v : Value) : Option (Array Nat) :=
  if p.overBytes then v.bytes?.map fun content => (content.map UInt8.toNat).toArray
  else v.text?.map fun s => (s.toList.map Char.toNat).toArray

/-- The search by the engine, which looks at every position. -/
def search (p : RegexPattern) (subject : Array Nat) : SearchEnd :=
  if p.program.search subject then .found else .missing

/-- Whether a pattern is found in a value, by the given search. A value that is no subject is not searched. -/
def verdictBy (p : RegexPattern) (search : Array Nat → SearchEnd) (limit v : Value) : Except Failure Bool :=
  match p.subject? v with
  | none => .ok false
  | some subject =>
    match search subject with
    | .found => .ok true
    | .missing => .ok false
    | .timedOut => .error (.searchTimedOut limit)

end RegexPattern

end Clausewise
