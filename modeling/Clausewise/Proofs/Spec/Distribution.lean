import Clausewise.Proofs.Spec.PlainData
import Clausewise.Proofs.Spec.Verdict
import Mathlib.Order.MinMax

/-! Container patterns and the combinators of specs. A union in one place of a container pattern can be taken out of it,
and an intersection of container patterns can be taken into one pattern, place by place. -/
namespace Clausewise

namespace Outcome
variable {first rest : Outcome Bool}

end Outcome

namespace Matcher
variable {call : Caller} {v : Value} {m m' : Matcher} {patterns : List Matcher}

end Matcher

namespace Value
variable {call : Caller} {limit v : Value}

section Sequences
variable {sequences : List (List Value)}

/-- The length of the longest list. -/
def width (sequences : List (List Value)) : Nat := (sequences.map List.length).foldr max 0

end Sequences

section Mappings
variable {mappings : List (List (Value × Value))}

end Mappings

end Value

namespace Registry
open Value Matcher
variable {limit : Value} {maxDepth : Int} {call : Caller} {specs : List Value} {spec : Value} {shape : SequenceShape}
  {sequences : List (List Value)} {mappings : List (List (Value × Value))}

end Registry

end Clausewise
