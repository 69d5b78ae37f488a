import Clausewise.Query.Evaluate
import Clausewise.Query.Reader
/-!
Queries by their text: whether it is one, and what it selects.
-/

namespace Clausewise.Query

/-- Whether a text writes a query; the failure is why not. -/
def check (source : String) : Except Failure Unit := ((ofText source).map fun _ => ()).mapError .querySyntax

/-- What the query that a text writes selects from a value. -/
def select (source : String) (extended : Bool) (v : Value) : Except Failure Value :=
  ((ofText source).mapError .querySyntax).bind fun q => q.evaluate extended v

end Clausewise.Query
