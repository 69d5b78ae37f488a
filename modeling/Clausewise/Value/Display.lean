import Clausewise.Value.Order
import Clausewise.Text.Quoted
/-!
The written form of values and matchers, as it stands in messages and logs. A container inside itself is
written as its brackets around three dots. What a pattern under construction shows changes as it grows, so
it is asked of the caller.
-/

namespace Clausewise

/-- What a pattern under construction shows of itself. -/
structure BuilderSummary where
  closed : Bool
  clauses : Nat
deriving DecidableEq, Inhabited

namespace BuilderSummary

/-- The written form of a pattern under construction. -/
def display (s : BuilderSummary) : List Char :=
  "<Pattern ".toList ++ (if s.closed then "closed" else "open").toList ++ " clauses=".toList ++
    decimalDigits s.clauses ++ ['>']

end BuilderSummary

/-- The written form of a truth value. -/
def boolText (b : Bool) : List Char := if b then "True".toList else "False".toList

/-- Texts with commas between them. -/
def commaSeparated : List (List Char) → List Char
  | [] => []
  | [s] => s
  | s :: rest => s ++ ", ".toList ++ commaSeparated rest

/-- Texts in parentheses; a single one keeps a comma. -/
def parenthesised : List (List Char) → List Char
  | [s] => '(' :: s ++ ",)".toList
  | ss => '(' :: commaSeparated ss ++ [')']

def called (name : String) (arguments : List Char) : List Char := name.toList ++ '(' :: arguments ++ [')']

namespace RegexFlag

/-- The long name, as standard patterns print it. -/
def longName : RegexFlag → String
  | ignoreCase => "re.IGNORECASE"
  | locale => "re.LOCALE"
  | multiline => "re.MULTILINE"
  | dotAll => "re.DOTALL"
  | verbose => "re.VERBOSE"
  | ascii => "re.ASCII"

/-- The short name, as extended patterns print it. -/
def shortName : RegexFlag → String
  | ascii => "regex.A"
  | dotAll => "regex.S"
  | ignoreCase => "regex.I"
  | locale => "regex.L"
  | multiline => "regex.M"
  | verbose => "regex.X"

end RegexFlag

namespace RegexPattern

def quotedSource (p : RegexPattern) : List Char :=
  if p.overBytes then Quoted.bytes (p.source.toList.map fun c => UInt8.ofNat c.toNat)
  else Quoted.text p.source.toList

/-- The written form: standard patterns cut their source after two hundred characters and list their flags
by value, extended ones list short names by name. -/
def display (p : RegexPattern) : List Char :=
  match p.dialect with
  | .standard =>
    let flags := [.ignoreCase, .locale, .multiline, .dotAll, .verbose, .ascii].filter p.flags.contains
    let flagText := if flags.isEmpty then [] else ", ".toList ++ ("|".intercalate (flags.map (·.longName))).toList
    called "re.compile" (p.quotedSource.take 200 ++ flagText)
  | .extended =>
    let flags := [.ascii, .dotAll, .ignoreCase, .locale, .multiline, .verbose].filter p.flags.contains
    let names := flags.map (·.shortName) ++ ["regex.V0"]
    called "regex.Regex" (p.quotedSource ++ ", flags=".toList ++ (" | ".intercalate names).toList)

end RegexPattern

namespace FunctionName

/-- The written form of a function. -/
def display (f : FunctionName) : List Char :=
  if f.builtIn then "<built-in function ".toList ++ f.shown.toList ++ ['>']
  else "<function ".toList ++ f.shown.toList ++ " at 0x?>".toList

end FunctionName

namespace Category

/-- The written form of a category as a value. -/
def display (c : Category) : List Char :=
  "<Category.".toList ++ c.memberName.toList ++ ": '".toList ++ c.word.toList ++ "'>".toList

def plain (c : Category) : String := "Category." ++ c.memberName

end Category

namespace KindName

/-- The written form of a kind as a value. -/
def display (k : KindName) : List Char :=
  "<Kind.".toList ++ k.memberName.toList ++ ": '".toList ++ k.word.toList ++ "'>".toList

def plain (k : KindName) : String := "Kind." ++ k.memberName

end KindName

namespace Value

/-- The written form of a day, with the time if there is one; a time keeps only the parts it needs. -/
def momentText (day : CalendarDay) (time : Option ClockTime) : List Char :=
  let date := [day.year, day.month, day.day]
  match time with
  | none => called "datetime.date" (commaSeparated (date.map decimalDigits))
  | some t =>
    let tail := if t.microsecond ≠ 0 then [t.second, t.microsecond] else if t.second ≠ 0 then [t.second] else []
    called "datetime.datetime" (commaSeparated ((date ++ [t.hour, t.minute] ++ tail).map decimalDigits))

/-- The written form of a range; a step of one is left out. -/
def rangeText (start stop step : Int) : List Char :=
  let parts := if step = 1 then [start, stop] else [start, stop, step]
  called "range" (commaSeparated (parts.map Number.intText))

/-- The brackets of a container, around three dots. -/
def ellipsis : Value → List Char
  | sequence .tuple _ => "(...)".toList
  | mapping .plain _ => "\x7b...\x7d".toList
  | mapping .wrapped _ => "\x7b...\x7d".toList
  | sequence .. => "[...]".toList
  | _ => "...".toList

section Sorting
variable {α : Type} (less : α → α → Except ComparisonFault Bool)

/-- The elements after `last` that go on falling, each below the one before it, and the rest. -/
def fallingRun (last : α) : List α → Except ComparisonFault (List α × List α)
  | [] => .ok ([], [])
  | x :: xs => do
    if ← less x last then
      let (run, rest) ← fallingRun x xs
      return (x :: run, rest)
    else return ([], x :: xs)

/-- The elements after `last` of which none is below the one before it, and the rest. -/
def risingRun (last : α) : List α → Except ComparisonFault (List α × List α)
  | [] => .ok ([], [])
  | x :: xs => do
    if ← less x last then return ([], x :: xs)
    else
      let (run, rest) ← risingRun x xs
      return (x :: run, rest)

/-- The longest run at the beginning, in rising order, and the rest. -/
def leadingRun : List α → Except ComparisonFault (List α × List α)
  | a :: b :: rest => do
    if ← less b a then
      let (run, rest) ← fallingRun less b rest
      return ((a :: b :: run).reverse, rest)
    else
      let (run, rest) ← risingRun less b rest
      return (a :: b :: run, rest)
  | xs => .ok (xs, [])

/-- Where an element goes between two places of a sorted list: the place is found by halving, at most so often. -/
def placeBetween (x : α) (sorted : List α) : Nat → Nat → Nat → Except ComparisonFault Nat
  | 0, low, _ => .ok low
  | steps + 1, low, high =>
    if low < high then
      let middle := low + (high - low) / 2
      match sorted[middle]? with
      | some y => do
        if ← less x y then placeBetween x sorted steps low middle
        else placeBetween x sorted steps (middle + 1) high
      | none => .ok low
    else .ok low

/-- Puts an element into a sorted list, after those that it is not below. -/
def placeInto (sorted : List α) (x : α) : Except ComparisonFault (List α) := do
  let place ← placeBetween less x sorted (sorted.length + 1) 0 sorted.length
  return sorted.take place ++ x :: sorted.drop place

/-- Sorts by a comparison that may fail. Which pairs are compared, and in which order, decides how it fails. -/
def sortBy (xs : List α) : Except ComparisonFault (List α) := do
  let (run, rest) ← leadingRun less xs
  rest.foldlM (placeInto less) run

end Sorting

/-- Entries of a counter sorted by falling counts, equal ones in the order that they have. -/
def sortedByCount {α : Type} (entries : List (Value × α)) : Except ComparisonFault (List (Value × α)) :=
  (sortBy (fun a b => ordered .lt a.1 b.1) entries.reverse).map List.reverse

/-- What a counter shows of its entries, the larger counts first where they can be sorted. -/
def byFallingCount {α : Type} (entries : List (Value × α)) : List α :=
  match sortedByCount entries with
  | .ok sorted => sorted.map (·.2)
  | .error _ => entries.map (·.2)

mutual

/-- The written form of a value. `builders` tells what patterns under construction show, `outer` holds the
brackets of the cyclic containers around the value. -/
def displayIn (builders : Nat → BuilderSummary) (outer : List (List Char)) : Value → List Char
  | null => "None".toList
  | undefined => "UNDEFINED".toList
  | bool b => boolText b
  | number n => n.display
  | text s | derivedText s => Quoted.text s.toList
  | kind k => k.display
  | bytes content => Quoted.bytes content
  | buffer .array content => called "bytearray" (Quoted.byteArray content)
  | buffer (.released _) _ => "<released memory at 0x?>".toList
  | buffer .. => "<memory at 0x?>".toList
  | sequence shape items =>
    let parts := displayAll builders outer items
    match shape with
    | .list | .wrappedList => '[' :: commaSeparated parts ++ [']']
    | .tuple => parenthesised parts
    | .point => called "Point" (commaSeparated (List.zipWith (· ++ ·) ["x=".toList, "y=".toList] parts))
    | .deque => called "deque" ('[' :: commaSeparated parts ++ [']'])
  | range start stop step => rangeText start stop step
  | set frozen elements =>
    let parts := displayAll builders outer elements
    if parts.isEmpty then (if frozen then "frozenset()" else "set()").toList
    else
      let braced := '{' :: commaSeparated parts ++ ['}']
      if frozen then called "frozenset" braced else braced
  | mapping shape entries =>
    match shape with
    | .ordered =>
      if entries.isEmpty then "OrderedDict()".toList
      else called "OrderedDict" ('[' :: commaSeparated (displayPairs builders outer entries) ++ [']'])
    | .counter =>
      if entries.isEmpty then "Counter()".toList
      else called "Counter" ('{' :: commaSeparated (byFallingCount (displayCounts builders outer entries)) ++ ['}'])
    | .defaulting =>
      called "defaultdict" ("<class 'int'>, ".toList ++ '{' ::
        commaSeparated (displayEntries builders outer entries) ++ ['}'])
    | .readOnly => called "mappingproxy" ('{' :: commaSeparated (displayEntries builders outer entries) ++ ['}'])
    | .plain | .wrapped => '{' :: commaSeparated (displayEntries builders outer entries) ++ ['}']
  | layers maps => called "ChainMap" (commaSeparated (displayAll builders outer maps))
  | moment day time => momentText day time
  | object _ c own =>
    match c.traits.display with
    | .opaqueObject => '<' :: c.qualifiedName ++ " object at 0x?>".toList
    | .attributes => called c.name (commaSeparated (displayAttributes builders outer own))
  | fault _ c arguments _ => called c.name (commaSeparated (displayAll builders outer arguments))
  | cls c => c.display
  | category c => c.display
  | function f => f.display
  | regex p => p.display
  | matcher m => displayMatcher builders outer m
  | constant v => called "Constant" ("value=".toList ++ displayIn builders outer v)
  | builder id => (builders id).display
  | closed _ clauses fallback =>
    "<ClosedPattern clauses=".toList ++ decimalDigits clauses.length ++ " default=".toList ++
      boolText fallback.isSome ++ ['>']
  | cyclic body => displayIn builders (ellipsis body :: outer) body
  | back level => outer.getD level "...".toList

/-- The written forms of the values. -/
def displayAll (builders : Nat → BuilderSummary) (outer : List (List Char)) : List Value → List (List Char)
  | [] => []
  | v :: vs => displayIn builders outer v :: displayAll builders outer vs

/-- The written forms of entries, with a colon between key and value. -/
def displayEntries (builders : Nat → BuilderSummary) (outer : List (List Char)) :
    List (Value × Value) → List (List Char)
  | [] => []
  | (k, v) :: rest =>
    (displayIn builders outer k ++ ": ".toList ++ displayIn builders outer v) ::
      displayEntries builders outer rest

/-- The written forms of entries as pairs. -/
def displayPairs (builders : Nat → BuilderSummary) (outer : List (List Char)) :
    List (Value × Value) → List (List Char)
  | [] => []
  | (k, v) :: rest =>
    ('(' :: displayIn builders outer k ++ ", ".toList ++ displayIn builders outer v ++ [')']) ::
      displayPairs builders outer rest

/-- The written forms of entries, each with its value. -/
def displayCounts (builders : Nat → BuilderSummary) (outer : List (List Char)) :
    List (Value × Value) → List (Value × List Char)
  | [] => []
  | (k, v) :: rest =>
    (v, displayIn builders outer k ++ ": ".toList ++ displayIn builders outer v) ::
      displayCounts builders outer rest

/-- The written forms of attributes. -/
def displayAttributes (builders : Nat → BuilderSummary) (outer : List (List Char)) :
    List (String × Value) → List (List Char)
  | [] => []
  | (name, v) :: rest =>
    (name.toList ++ '=' :: displayIn builders outer v) :: displayAttributes builders outer rest

/-- The written form of a matcher. -/
def displayMatcher (builders : Nat → BuilderSummary) (outer : List (List Char)) : Matcher → List Char
  | .always => "AlwaysMatcher()".toList
  | .literal expected => called "LiteralMatcher" (displayIn builders outer expected)
  | .sequence items =>
    called "SequenceMatcher" ('[' :: commaSeparated (displayMatchers builders outer items) ++ [']'])
  | .mapping fields =>
    called "MappingMatcher" ('{' :: commaSeparated (displayFields builders outer fields) ++ ['}'])
  | .regex pattern _ => called "RegexMatcher" pattern.quotedSource
  | .instanceOf classes => called "InstanceMatcher" (commaSeparated (classes.map (·.name.toList)))
  | .category c => called "CategoryMatcher" c.plain.toList
  | .predicate callee =>
    called "PredicateMatcher" <|
      match callee with
      | function f => Quoted.text f.shown.toList
      | cls c => Quoted.text c.name.toList
      | v => displayIn builders outer v
  | .anyOf ms => called "AnyOfMatcher" ('[' :: commaSeparated (displayMatchers builders outer ms) ++ [']'])
  | .allOf ms => called "AllOfMatcher" ('[' :: commaSeparated (displayMatchers builders outer ms) ++ [']'])
  | .negation inner => called "NotMatcher" (displayMatcher builders outer inner)
  | .query source _ inner =>
    called "QueryMatcher" (Quoted.text source.toList ++ ", ".toList ++ displayMatcher builders outer inner)
  | .comparison c bound => "<value ".toList ++ c.symbol.toList ++ ' ' :: displayIn builders outer bound ++ ['>']
  | .between low high =>
    '<' :: displayIn builders outer low ++ " <= value <= ".toList ++ displayIn builders outer high ++ ['>']
  | .equality expected => called "EqualityMatcher" (displayIn builders outer expected)
  | .verdict answer => called "ConstMatcher" (boolText answer)
  | .depth d => called "DepthMatcher" (Number.intText d)

/-- The written forms of the matchers. -/
def displayMatchers (builders : Nat → BuilderSummary) (outer : List (List Char)) :
    List Matcher → List (List Char)
  | [] => []
  | m :: ms => displayMatcher builders outer m :: displayMatchers builders outer ms

/-- The written forms of the fields of a mapping matcher. -/
def displayFields (builders : Nat → BuilderSummary) (outer : List (List Char)) :
    List (Value × Matcher) → List (List Char)
  | [] => []
  | (k, m) :: rest =>
    (displayIn builders outer k ++ ": ".toList ++ displayMatcher builders outer m) ::
      displayFields builders outer rest

end

/-- The written form of a value. -/
def display (builders : Nat → BuilderSummary) (v : Value) : String :=
  String.ofList (displayIn builders [] v)

end Value

/-- The written form of a matcher. -/
def Matcher.display (builders : Nat → BuilderSummary) (m : Matcher) : String :=
  String.ofList (Value.displayMatcher builders [] m)

end Clausewise
