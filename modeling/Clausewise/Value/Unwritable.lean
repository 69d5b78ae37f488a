import Clausewise.Failure
/-!
Values that cannot be written. An integer of too many digits has no written form, and a counter is sorted to be
written, which fails where its counts refuse to be compared. A failure that would tell of such a value cannot be
made: the failure to write the value comes in its place.
-/

namespace Clausewise

/-- The most digits that an integer is written with. -/
def mostDigits : Nat := 4300

/-- Why a value cannot be written. -/
inductive WritingFault where
  | tooManyDigits
  /-- The counts of a counter cannot be sorted. -/
  | unsortable (fault : ComparisonFault)
deriving DecidableEq, Inhabited

namespace WritingFault

/-- The failure to write a value. -/
def toFailure : WritingFault → Failure
  | tooManyDigits => .complaint ⟨.badValue, none⟩
  | unsortable fault => fault.toFailure

/-- No value takes an exhausted iteration to write. -/
@[simp] theorem outOfIteration_toFailure (fault : WritingFault) : fault.toFailure.outOfIteration = fault.toFailure := by
  cases fault with
  | tooManyDigits => rfl
  | unsortable fault => exact fault.outOfIteration_toFailure

end WritingFault

/-- What keeps an integer from being written. -/
def digitsFault? (n : Int) : Option WritingFault :=
  if mostDigits < (decimalDigits n.natAbs).length then some .tooManyDigits else none

/-- What keeps a number from being written. Only integers, alone or in fractions, have a limit. -/
def Number.writingFault? : Number → Option WritingFault
  | int n => digitsFault? n
  | fraction q => (digitsFault? q.num).or (digitsFault? q.den)
  | _ => none

namespace Value

/-- What keeps a range from being written; a step of one is left out. -/
def rangeFault? (start stop step : Int) : Option WritingFault :=
  ((digitsFault? start).or (digitsFault? stop)).or (if step = 1 then none else digitsFault? step)

/-- What keeps a counter from being written whose entries, each under its count, have these faults. Counts that have no
order because of their types stay as they are; any other failure to sort them is one to write. -/
def countsFault? (entries : List (Value × Option WritingFault)) : Option WritingFault :=
  match sortedByCount entries with
  | .ok sorted => sorted.findSome? (·.2)
  | .error e => if e.isAboutTypes then entries.findSome? (·.2) else some (.unsortable e)

mutual

/-- What keeps a value from being written, if anything does: the fault of its first part, from left to right, that has
one. -/
def writingFault? : Value → Option WritingFault
  | number n => n.writingFault?
  | range start stop step => rangeFault? start stop step
  | sequence _ items => faultOfAll? items
  | set _ elements => faultOfAll? elements
  | mapping .counter entries => countsFault? (faultsOfCounts entries)
  | mapping _ entries => faultOfEntries? entries
  | layers maps => faultOfAll? maps
  | object _ c own =>
    match c.traits.display with
    | .opaqueObject => none
    | .attributes => faultOfAttributes? own
  | fault _ _ arguments _ => faultOfAll? arguments
  | matcher m => faultOfMatcher? m
  | constant v => writingFault? v
  | cyclic body => writingFault? body
  | _ => none

def faultOfAll? : List Value → Option WritingFault
  | [] => none
  | v :: vs => (writingFault? v).or (faultOfAll? vs)

def faultOfEntries? : List (Value × Value) → Option WritingFault
  | [] => none
  | (k, v) :: rest => ((writingFault? k).or (writingFault? v)).or (faultOfEntries? rest)

/-- The faults of the entries of a counter, each under its count. -/
def faultsOfCounts : List (Value × Value) → List (Value × Option WritingFault)
  | [] => []
  | (k, v) :: rest => (v, (writingFault? k).or (writingFault? v)) :: faultsOfCounts rest

def faultOfAttributes? : List (String × Value) → Option WritingFault
  | [] => none
  | (_, v) :: rest => (writingFault? v).or (faultOfAttributes? rest)

/-- What keeps a matcher from being written. -/
def faultOfMatcher? : Matcher → Option WritingFault
  | .literal expected => writingFault? expected
  | .sequence items => faultOfMatchers? items
  | .mapping fields => faultOfFields? fields
  | .predicate callee =>
    match callee with
    | function _ | cls _ => none
    | v => writingFault? v
  | .anyOf ms => faultOfMatchers? ms
  | .allOf ms => faultOfMatchers? ms
  | .negation inner => faultOfMatcher? inner
  | .query _ _ inner => faultOfMatcher? inner
  | .comparison _ bound => writingFault? bound
  | .between low high => (writingFault? low).or (writingFault? high)
  | .equality expected => writingFault? expected
  | .depth d => digitsFault? d
  | .always | .regex .. | .instanceOf _ | .category _ | .verdict _ => none

def faultOfMatchers? : List Matcher → Option WritingFault
  | [] => none
  | m :: ms => (faultOfMatcher? m).or (faultOfMatchers? ms)

def faultOfFields? : List (Value × Matcher) → Option WritingFault
  | [] => none
  | (k, m) :: rest => ((writingFault? k).or (faultOfMatcher? m)).or (faultOfFields? rest)

end

end Value

/-- The failure that tells of a value, with its written form in the text; where the value cannot be written, that is
the failure. -/
def Failure.about (tell : Value → Failure) (v : Value) : Failure :=
  match v.writingFault? with
  | some fault => fault.toFailure
  | none => tell v

/-- What tells of a value fails in no other way in an iteration, unless what it says of the value does. -/
theorem Failure.outOfIteration_about {tell : Value → Failure} {v : Value} (h : (tell v).outOfIteration = tell v) :
    (Failure.about tell v).outOfIteration = Failure.about tell v := by
  unfold Failure.about
  split
  · exact WritingFault.outOfIteration_toFailure _
  · exact h

/-- What keeps an event from being written: the fault of the value that it is about. -/
def Event.writingFault? : Event → Option WritingFault
  | resolved _ spec => spec.writingFault?
  | registered .. => none
  | fellBack value => value.writingFault?
  | nothingMatched value _ => value.writingFault?

end Clausewise
