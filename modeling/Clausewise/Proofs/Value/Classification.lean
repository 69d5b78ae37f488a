import Clausewise.Proofs.Spec.SelfReference

/-! The classes of values against the tests for their families. The members of every category are the instances of some
classes, whether the shape of a value shows or its class hides it. -/
namespace Clausewise

namespace Class
variable {c d : Class}

end Class

namespace Value
variable {v : Value} {c : Class}

end Value

namespace Category
open Value

end Category

end Clausewise
