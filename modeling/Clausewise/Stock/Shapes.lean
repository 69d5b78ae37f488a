import Clausewise.Classes
/-!
Ready-made classes for instances: shapes with attributes, and shapes whose instances answer calls, equality
or order in their own way.
-/

namespace Clausewise.Stock

/-- A class of this library's own instances. -/
def ownClass (name : String) (bases : List Class) (traits : Traits) : Class :=
  .mk "__main__" name bases traits

/-- The class that the other shapes derive from; it has no sides. -/
def shape : Class := ownClass "Shape" [.object] { constants := [("sides", 0)] }

/-- A shape with traits of its own. -/
def shapeOf (name : String) (traits : Traits) : Class := ownClass name [shape] traits

/-- A shape with one side. -/
def circle : Class := shapeOf "Circle" { constants := [("sides", 1)] }

/-- A shape with four sides. -/
def square : Class := shapeOf "Square" { constants := [("sides", 4)] }

/-- A shape that stands for an interval. -/
def interval : Class := shapeOf "Interval" {}

/-- A shape that answers every call with its attribute `ret`. -/
def callable : Class := shapeOf "CallableObj" { answersWith := some "ret" }

/-- A class whose instances have no attributes. -/
def slotted : Class := ownClass "Slotted" [.object] {}

/-- A class that refuses to make instances. -/
def exploding : Class :=
  ownClass "Exploding" [.object] { uncreatable := some ⟨.assertion, some "must not be instantiated"⟩ }

/-- A class of errors about values. -/
def appError : Class := ownClass "AppError" [.valueError] {}

/-- A shape that is equal to everything. -/
def alwaysEqual : Class := shapeOf "AlwaysEq" { equality := .answers true, hashing := some false }

/-- A shape that is equal to nothing. -/
def neverEqual : Class := shapeOf "EqEmpty" { equality := .answers false, hashing := some false }

/-- A shape that refuses to be compared for equality. -/
def refusesEquality : Class :=
  shapeOf "EqBoom" { equality := .refuses ⟨.badValue, some "eq boom"⟩, hashing := some false }

/-- A shape that is below everything. -/
def belowAll : Class := shapeOf "OrdTruthy" { ordering := .answers true true false false }

/-- A shape that has no order with anything. -/
def refusesOrder : Class := shapeOf "OrdTypeBoom" { ordering := .refuses ⟨.wrongType, none⟩ }

/-- A shape that complains of the value when it is ordered. -/
def complainsOfOrder : Class :=
  shapeOf "OrdValueBoom" { ordering := .refuses ⟨.badValue, some "ord value"⟩ }

/-- All the ready-made classes. -/
def classes : List Class :=
  [shape, circle, square, interval, callable, slotted, exploding, appError, alwaysEqual, neverEqual,
    refusesEquality, belowAll, refusesOrder, complainsOfOrder]

/-- The class of a name. -/
def class? (name : String) : Option Class := (classes ++ Class.standard).find? fun c => c.name == name

end Clausewise.Stock
