import Clausewise.Query.Syntax
import Clausewise.Value.Display
/-!
Failures, by cause, and the events that the library reports while it works.
-/

namespace Clausewise

namespace Value

/-- The plain form of a fraction. -/
def fractionText (q : Rat) : List Char :=
  if q.den = 1 then Number.intText q.num else Number.intText q.num ++ '/' :: decimalDigits q.den

/-- A number with leading zeros up to a width. -/
def padded (width n : Nat) : List Char :=
  let ds := decimalDigits n
  List.replicate (width - ds.length) '0' ++ ds

/-- The plain form of a point in time: date, clock time, and microseconds if there are any. -/
def momentPlain (day : CalendarDay) (time : Option ClockTime) : List Char :=
  padded 4 day.year ++ '-' :: padded 2 day.month ++ '-' :: padded 2 day.day ++
    match time with
    | none => []
    | some t =>
      ' ' :: padded 2 t.hour ++ ':' :: padded 2 t.minute ++ ':' :: padded 2 t.second ++
        (if t.microsecond = 0 then [] else '.' :: padded 6 t.microsecond)

/-- The plain form of a value that is no exception. -/
def plainLeaf (builders : Nat → BuilderSummary) : Value → String
  | text s | derivedText s => s
  | kind k => k.plain
  | category c => c.plain
  | number (.decimal d) => String.ofList d.text
  | number (.fraction q) => String.ofList (fractionText q)
  | moment day time => String.ofList (momentPlain day time)
  | mapping .readOnly entries => (plainMapping entries).display builders
  | v => v.display builders

/-- The plain form of a value, as it stands in running text: texts without quotes, members by name, numbers
and times bare, exceptions by their arguments, everything else as written. -/
def plain (builders : Nat → BuilderSummary) : Value → String
  | fault _ _ [] _ => ""
  | fault _ c [argument] _ =>
    if c.name = "KeyError" then argument.display builders else argument.plainLeaf builders
  | fault _ _ arguments _ => (tuple arguments).display builders
  | v => v.plainLeaf builders

end Value

/-- Why an operation fails. -/
inductive Failure where
  /-- No kind of the registry accepts the spec. -/
  | unclassifiable (spec : Value)
  /-- No clause matches the value and there is no default. -/
  | unmatched (value : Value)
  /-- The pattern is closed to the operation. -/
  | sealed (operation : Value)
  /-- A spec nests deeper than its registry allows. -/
  | nestedTooDeep
  /-- Calls nest deeper than the evaluation allows. -/
  | callsTooDeep
  /-- A search for a regular expression ran over its limit. -/
  | searchTimedOut (limit : Value)
  | absentKey (key : Value)
  /-- A test on classes was asked for without classes. -/
  | noClasses
  /-- The receiver has no such operation. -/
  | noSuchOperation
  /-- An invalid operation of decimal arithmetic. -/
  | invalidOperation
  /-- Code supplied by the caller complains, or an operation is not defined on the values at hand. -/
  | complaint (c : Complaint)
  /-- The source of a regular expression is refused. -/
  | badRegex
  | querySyntax (e : QuerySyntaxError)
  | queryFault (e : QueryFault)
deriving Inhabited

namespace Failure

/-- The text of a failure, where the library gives one. -/
def message (builders : Nat → BuilderSummary) : Failure → Option String
  | unclassifiable spec => some ("No matching pattern kind for pattern " ++ spec.display builders)
  | unmatched value => some ("MatchError: no pattern matches value " ++ value.display builders)
  | sealed operation => some ("cannot call " ++ operation.plain builders ++ "() on a closed pattern")
  | nestedTooDeep => some "pattern_max_depth exceeded"
  | searchTimedOut limit => some ("Regex search exceeded timeout of " ++ limit.plain builders ++ "s")
  | absentKey key => some (key.display builders)
  | noClasses => some "instance_of() requires one or more classes"
  | complaint c => c.message
  | callsTooDeep | noSuchOperation | invalidOperation | badRegex | querySyntax _ | queryFault _ => none

/-- The failure of an iteration whose steps fail: what a step fails with, but the exhaustion of an iteration of its
own does not pass for that of the one around it. -/
def outOfIteration : Failure → Failure
  | complaint ⟨.exhausted, _⟩ => complaint .interrupted
  | e => e

@[simp] theorem outOfIteration_outOfIteration (e : Failure) : e.outOfIteration.outOfIteration = e.outOfIteration := by
  fun_cases outOfIteration e <;> simp_all [outOfIteration, Complaint.interrupted]

end Failure

namespace ComparisonFault

/-- Whether the comparison has no answer because of the types of the two values. -/
def isAboutTypes : ComparisonFault → Bool
  | unordered => true
  | refused refusal => refusal.isAboutTypes
  | invalid | endless => false

/-- The failure that a comparison without an answer raises. -/
def toFailure : ComparisonFault → Failure
  | invalid => .invalidOperation
  | unordered => .complaint .types
  | refused refusal => .complaint refusal.complaint
  | endless => .callsTooDeep

/-- No comparison fails by exhausting an iteration. -/
@[simp] theorem outOfIteration_toFailure (e : ComparisonFault) : e.toFailure.outOfIteration = e.toFailure := by
  cases e with
  | refused refusal =>
    obtain ⟨kind, message⟩ := refusal
    cases kind <;> rfl
  | _ => rfl

end ComparisonFault

/-- The name of a kind of pattern: one of the built-in ones, or one of the caller's. -/
inductive KindLabel where
  | builtIn (k : KindName)
  | custom (name : String)
deriving DecidableEq, Inhabited

namespace KindLabel

/-- The bare name. -/
def word : KindLabel → String
  | builtIn k => k.word
  | custom name => name

/-- The name in running text. -/
def plain : KindLabel → String
  | builtIn k => k.plain
  | custom name => name

end KindLabel

namespace Matcher

def className : Matcher → String
  | always => "AlwaysMatcher"
  | literal _ => "LiteralMatcher"
  | sequence _ => "SequenceMatcher"
  | mapping _ => "MappingMatcher"
  | regex .. => "RegexMatcher"
  | instanceOf _ => "InstanceMatcher"
  | category _ => "CategoryMatcher"
  | predicate _ => "PredicateMatcher"
  | anyOf _ => "AnyOfMatcher"
  | allOf _ => "AllOfMatcher"
  | negation _ => "NotMatcher"
  | query .. => "QueryMatcher"
  | comparison .. => "ComparisonMatcher"
  | between .. => "RangeMatcher"
  | equality _ => "EqualityMatcher"
  | verdict _ => "ConstMatcher"
  | depth _ => "DepthMatcher"

end Matcher

/-- What the library reports while it works. -/
inductive Event where
  /-- A spec was classified. -/
  | resolved (kind : KindLabel) (spec : Value)
  /-- A clause was registered as the one with this index. -/
  | registered (index : Nat) (matcher : Matcher)
  /-- A dispatch fell to the default. -/
  | fellBack (value : Value)
  /-- A dispatch found neither a clause, of so many, nor a default. -/
  | nothingMatched (value : Value) (clauses : Nat)
deriving Inhabited

namespace Event

def message (builders : Nat → BuilderSummary) : Event → String
  | resolved kind spec => "pattern.kind.resolved kind=" ++ kind.plain ++ " spec=" ++ spec.display builders
  | registered index matcher =>
    "pattern.clause.registered index=" ++ String.ofList (decimalDigits index) ++ " matcher=" ++ matcher.className
  | fellBack value => "pattern.dispatch.default value=" ++ value.display builders
  | nothingMatched value clauses =>
    "pattern.dispatch.no_match value=" ++ value.display builders ++ " clauses=" ++
      String.ofList (decimalDigits clauses)

end Event

end Clausewise
