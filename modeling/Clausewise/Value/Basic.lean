import Clausewise.Number.Basic
import Clausewise.Class
import Clausewise.Category
import Clausewise.Regex.Syntax
/-!
The values that patterns are written with and matched against, and the matchers that specs compile to.
Both refer to each other: a matcher holds values, and a matcher is a value.

A container may contain itself. `cyclic body` stands for the container `body` in which `back 0` is that
container again; inside further cyclic containers, `back n` is the one `n` levels out.
-/

namespace Clausewise

/-- The shapes of sequences of values. -/
inductive SequenceShape where
  | list
  | tuple
  /-- A pair with named coordinates, a kind of tuple. -/
  | point
  | deque
  | wrappedList
deriving DecidableEq, Inhabited

/-- The shapes of byte sequences that are not plain byte strings. -/
inductive BufferShape where
  | array
  /-- A view of bytes in a row. -/
  | view
  /-- A view of bytes with any other number of dimensions, each so long. -/
  | grid (dimensions : List Nat)
  /-- A view that has been given up. -/
  | released (id : Nat)
deriving DecidableEq, Inhabited

/-- The shapes of mappings. -/
inductive MappingShape where
  | plain
  | ordered
  | counter
  | defaulting
  | wrapped
  | readOnly
deriving DecidableEq, Inhabited

/-- A day of the calendar. -/
structure CalendarDay where
  year : Nat
  month : Nat
  day : Nat
deriving DecidableEq, Inhabited

/-- A time of day. -/
structure ClockTime where
  hour : Nat
  minute : Nat
  second : Nat
  microsecond : Nat
deriving DecidableEq, Inhabited

/-- The name of a function. What it does is up to the environment that calls it. -/
structure FunctionName where
  name : String
  /-- The name that the function shows. -/
  shown : String := name
  /-- The handle that the function looks up when it is called, if it was made for one. -/
  handle : Option String := none
  /-- Whether the function is one of those built into the host. -/
  builtIn : Bool := false
  /-- Tells functions of one name apart. -/
  id : Nat := 0
deriving DecidableEq, Inhabited

/-- The four order comparisons. -/
inductive Comparison where
  | lt
  | le
  | gt
  | ge
deriving DecidableEq, Inhabited

namespace Comparison

/-- The written form. -/
def symbol : Comparison → String
  | lt => "<"
  | le => "<="
  | gt => ">"
  | ge => ">="

/-- The name as a word. -/
def word : Comparison → String
  | lt => "lt"
  | le => "le"
  | gt => "gt"
  | ge => "ge"

end Comparison

mutual

/-- A value. -/
inductive Value where
  /-- The loosely absent value. -/
  | null
  /-- The strictly absent value. -/
  | undefined
  | bool (b : Bool)
  | number (n : Number)
  | text (s : String)
  /-- A text of a class derived from texts; it compares like its content. -/
  | derivedText (s : String)
  | kind (k : KindName)
  | bytes (content : List UInt8)
  | buffer (shape : BufferShape) (content : List UInt8)
  | sequence (shape : SequenceShape) (items : List Value)
  | range (start stop step : Int)
  | set (frozen : Bool) (elements : List Value)
  | mapping (shape : MappingShape) (entries : List (Value × Value))
  /-- Mappings looked through one after the other. -/
  | layers (maps : List Value)
  | moment (day : CalendarDay) (time : Option ClockTime)
  | object (id : Nat) (cls : Class) (attributes : List (String × Value))
  | fault (id : Nat) (cls : Class) (arguments : List Value) (attributes : List (String × Value))
  | cls (c : Class)
  | category (c : Category)
  | function (f : FunctionName)
  | regex (p : RegexPattern)
  | matcher (m : Matcher)
  /-- A result that is returned as it is. -/
  | constant (v : Value)
  /-- A pattern under construction, by its number. -/
  | builder (id : Nat)
  /-- A closed pattern: its clauses and its default. -/
  | closed (id : Nat) (clauses : List (Matcher × Value)) (fallback : Option Value)
  | cyclic (body : Value)
  | back (level : Nat)

/-- A compiled spec: a test on values. -/
inductive Matcher where
  | always
  | literal (expected : Value)
  | sequence (items : List Matcher)
  | mapping (fields : List (Value × Matcher))
  | regex (pattern : RegexPattern) (limit : Value)
  | instanceOf (classes : List Class)
  | category (c : Category)
  | predicate (callee : Value)
  | anyOf (alternatives : List Matcher)
  | allOf (conditions : List Matcher)
  | negation (inner : Matcher)
  /-- The inner test on what a query selects; `extended` queries know one more function. -/
  | query (source : String) (extended : Bool) (inner : Matcher)
  | comparison (c : Comparison) (bound : Value)
  | between (low high : Value)
  | equality (expected : Value)
  /-- The same answer for every value. -/
  | verdict (answer : Bool)
  /-- Accepts the integer that is the depth it was compiled at. -/
  | depth (d : Int)

end

instance : Inhabited Value := ⟨.null⟩
instance : Inhabited Matcher := ⟨.always⟩

/-- A registered clause: a matcher with its result. -/
abbrev Clause := Matcher × Value

namespace Value

abbrev int (n : Int) : Value := .number (.int n)

abbrev list (items : List Value) : Value := .sequence .list items

abbrev tuple (items : List Value) : Value := .sequence .tuple items

abbrev plainMapping (entries : List (Value × Value)) : Value := .mapping .plain entries

mutual

/-- Puts `whole` for every reference to the container `level` levels out. -/
def substitute (whole : Value) (level : Nat) : Value → Value
  | .back n => if n = level then whole else .back n
  | .sequence shape items => .sequence shape (substituteItems whole level items)
  | .mapping shape entries => .mapping shape (substituteEntries whole level entries)
  | .cyclic body => .cyclic (substitute whole (level + 1) body)
  | v => v

def substituteItems (whole : Value) (level : Nat) : List Value → List Value
  | [] => []
  | v :: vs => substitute whole level v :: substituteItems whole level vs

def substituteEntries (whole : Value) (level : Nat) : List (Value × Value) → List (Value × Value)
  | [] => []
  | (k, v) :: rest => (k, substitute whole level v) :: substituteEntries whole level rest

end

/-- A cyclic container opened once, so that its outermost shape shows; any other value as it is. -/
def expose : Value → Value
  | .cyclic body => substitute (.cyclic body) 0 body
  | v => v

end Value

end Clausewise
