import Clausewise.Proofs.Pattern.LiteralTable
import Clausewise.Proofs.Spec.Combination
import Clausewise.Proofs.Spec.Indices

/-! The families of values. Every value falls into exactly one of six, whichever test is asked, unless its class derives
from the classes of two; and literals that match fall into the same categories. -/
namespace Clausewise

namespace Class

end Class

/-- The families that values fall into: the absences, the four other families of literals, and the objects. -/
inductive Family where
  | absent
  | boolean
  | number
  | text
  | bytes
  | object
deriving DecidableEq

/-- Whether a value falls into a family, by the test that the library has for it. -/
def Family.contains : Family → Value → Bool
  | absent, v => v.isAbsent
  | boolean, v => Category.boolean.contains v
  | number, v => Category.number.contains v
  | text, v => Category.string.contains v
  | bytes, v => v.isBytes || v.isMadeFrom .bytes
  | object, v => Category.object.contains v

namespace Class
variable {a b c : Class}

/-- The family that a class puts its instances into if it does not mix them. -/
def family (c : Class) : Family :=
  if c.derivesFrom .bool then .boolean
  else if c.derivesFrom .number then .number
  else if c.derivesFrom .str then .text
  else if c.derivesFrom .bytes then .bytes
  else .object

end Class

namespace Value
variable {e v w : Value}

/-- The family of a value. -/
def family : Value → Family
  | null | undefined => .absent
  | bool _ => .boolean
  | number _ => .number
  | text _ | derivedText _ | kind _ => .text
  | bytes _ => .bytes
  | object _ c _ | fault _ c _ _ => c.family
  | _ => .object

end Value

namespace Category
open Value
variable {c : Category} {e v : Value}

/-- The family that a category lies in. -/
def family : Category → Family
  | boolean => .boolean
  | number => .number
  | string => .text
  | sequence | error | object => .object

end Category

namespace Matcher
open Value
variable {call : Caller} {v : Value}

end Matcher

section
variable {call : Caller} {value : Value} {extra : List Value} {fallback : Option Value} {c : Category} {e : Value}

theorem refuses_category_iff (call : Caller) (value : Value) (c : Category) :
    Refuses call value (.category c) ↔ c.contains value = false := by
  simp [Refuses, Matcher.test, Outcome.ok]

end

namespace Registry
open Value
variable {limit : Value} {maxDepth : Int}

theorem result_compile_category (hdepth : 0 ≤ maxDepth) (c : Category) :
    ((builtIn limit maxDepth).compile (.category c)).result = .ok (.category c) :=
  (result_compile_of_kind? hdepth rfl).trans rfl

end Registry

end Clausewise
