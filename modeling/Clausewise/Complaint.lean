/-!
Complaints: the failures that callables and classes supplied by the caller raise on their own account, and those of
the operations on values that the library uses. The library passes them on unchanged, with one exception: a test
over several matchers is an iteration, and an iteration that is exhausted inside another interrupts the other.
-/

namespace Clausewise

/-- The families of complaints. -/
inductive ComplaintKind where
  | wrongType
  | badValue
  | assertion
  | overflow
deriving DecidableEq, Inhabited

/-- The causes of complaints. -/
inductive Cause where
  | wrongType
  | badValue
  | assertion
  | overflow
  /-- An iteration was asked for more than it has. -/
  | exhausted
  /-- An iteration was exhausted inside another. -/
  | interrupted
  /-- The operation is not there for values of this form. -/
  | unsupported
deriving DecidableEq, Inhabited

/-- The usual cause of the complaints of a family. -/
def ComplaintKind.cause : ComplaintKind → Cause
  | wrongType => .wrongType
  | badValue => .badValue
  | assertion => .assertion
  | overflow => .overflow

/-- What a class says that refuses a comparison: a complaint of some family, with its text, if any. -/
structure Refusal where
  kind : ComplaintKind
  message : Option String
deriving DecidableEq, Inhabited

/-- A failure raised by code that the caller supplies, with the text it gives, if any. -/
structure Complaint where
  cause : Cause
  message : Option String
deriving DecidableEq, Inhabited

namespace Complaint

/-- An operation that is not defined on the types at hand. -/
def types : Complaint := ⟨.wrongType, none⟩

/-- A number that is too large for what it is asked for. -/
def tooLong : Complaint := ⟨.overflow, none⟩

/-- An iteration that was exhausted inside another. -/
def interrupted : Complaint := ⟨.interrupted, none⟩

/-- A view that has been given up. -/
def givenUp : Complaint := ⟨.badValue, none⟩

/-- A view that has no items one by one. -/
def manyDimensions : Complaint := ⟨.unsupported, none⟩

/-- The family of a complaint. What is wrong with an iteration, or with the form of a value, counts as a bad value. -/
def kind (c : Complaint) : ComplaintKind :=
  match c.cause with
  | .wrongType => .wrongType
  | .assertion => .assertion
  | .overflow => .overflow
  | .badValue | .exhausted | .interrupted | .unsupported => .badValue

end Complaint

namespace Refusal

def isAboutTypes (r : Refusal) : Bool := decide (r.kind = .wrongType)

/-- The complaint that a refusal raises. -/
def complaint (r : Refusal) : Complaint := ⟨r.kind.cause, r.message⟩

end Refusal

end Clausewise
