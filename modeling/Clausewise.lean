import Clausewise.Category
import Clausewise.Class
import Clausewise.Classes
import Clausewise.Combinator
import Clausewise.Complaint
import Clausewise.Failure
import Clausewise.Kind.BuiltIn
import Clausewise.Kind.Plan
import Clausewise.Kind.Registry
import Clausewise.Match.Call
import Clausewise.Match.Dispatch
import Clausewise.Match.Search
import Clausewise.Match.Test
import Clausewise.Number.Arithmetic
import Clausewise.Number.Basic
import Clausewise.Number.Binary64
import Clausewise.Number.Decimal
import Clausewise.Number.Numeral
import Clausewise.Number.Scaled
import Clausewise.Number.Shortest
import Clausewise.Outcome
import Clausewise.Pattern.Builder
import Clausewise.Query.Evaluate
import Clausewise.Query.Functions
import Clausewise.Query.Json
import Clausewise.Query.Notation
import Clausewise.Query.Reader
import Clausewise.Query.Select
import Clausewise.Query.Syntax
import Clausewise.Query.Token
import Clausewise.Regex.CharSet
import Clausewise.Regex.Engine
import Clausewise.Regex.Reader
import Clausewise.Regex.Syntax
import Clausewise.Session
import Clausewise.Stock.Creation
import Clausewise.Stock.Functions
import Clausewise.Stock.Kinds
import Clausewise.Stock.Shapes
import Clausewise.Text.CharProperty
import Clausewise.Text.Edges
import Clausewise.Text.GeneralCategory
import Clausewise.Text.LetterCase
import Clausewise.Text.Printable
import Clausewise.Text.Quoted
import Clausewise.Text.Script
import Clausewise.Value.Basic
import Clausewise.Value.ClassOf
import Clausewise.Value.Display
import Clausewise.Value.Entries
import Clausewise.Value.Equality
import Clausewise.Value.Family
import Clausewise.Value.Iterate
import Clausewise.Value.Key
import Clausewise.Value.Order
import Clausewise.Value.Unwritable
import Clausewise.Value.View
import Clausewise.Proofs.Ensures
import Clausewise.Proofs.Kind.Inquiry
import Clausewise.Proofs.Kind.Precedence
import Clausewise.Proofs.Kind.Resolution
import Clausewise.Proofs.Match.Correspondence
import Clausewise.Proofs.Match.Decision
import Clausewise.Proofs.Match.Depth
import Clausewise.Proofs.Pattern.FallThrough
import Clausewise.Proofs.Pattern.LiteralTable
import Clausewise.Proofs.Pattern.Methods
import Clausewise.Proofs.Pattern.Runs
import Clausewise.Proofs.Pattern.Union
import Clausewise.Proofs.Query.References
import Clausewise.Proofs.Session.Frame
import Clausewise.Proofs.Session.Isolation
import Clausewise.Proofs.Spec.BooleanLaws
import Clausewise.Proofs.Spec.Combination
import Clausewise.Proofs.Spec.Fields
import Clausewise.Proofs.Spec.Growth
import Clausewise.Proofs.Spec.Indices
import Clausewise.Proofs.Spec.Interpretation
import Clausewise.Proofs.Spec.PlainData
import Clausewise.Proofs.Spec.SelfReference
import Clausewise.Proofs.Spec.Structure
import Clausewise.Proofs.Spec.Survey
import Clausewise.Proofs.Spec.Verdict
import Clausewise.Proofs.Spec.Refinement
import Clausewise.Proofs.Stock.Containment
import Clausewise.Proofs.Value.Display
import Clausewise.Proofs.Value.Entries
import Clausewise.Proofs.Value.Equivalence
import Clausewise.Proofs.Value.Layers
import Clausewise.Proofs.Value.Parts
import Clausewise.Proofs.Value.References
import Clausewise.Proofs.Value.Sequence
import Clausewise.Proofs.Value.StrictEquality
import Clausewise.Proofs.Kind.Descent
import Clausewise.Proofs.Kind.Extension
import Clausewise.Proofs.Spec.Unfolding
import Clausewise.Proofs.Kind.Disjointness
import Clausewise.Proofs.Spec.Precompiled
import Clausewise.Proofs.Match.Incomparable
import Clausewise.Proofs.Spec.Distribution
import Clausewise.Proofs.Spec.Families
import Clausewise.Proofs.Match.Reports
import Clausewise.Proofs.Pattern.Trace
import Clausewise.Proofs.Match.Bounds
import Clausewise.Proofs.Match.NumberLine
import Clausewise.Proofs.Number.Line
import Clausewise.Proofs.Query.Path
import Clausewise.Proofs.Spec.Classes
import Clausewise.Proofs.Spec.Nested
import Clausewise.Proofs.Value.Classification
import Clausewise.Proofs.Value.Reversal
import Clausewise.Proofs.Pattern.Reentry
import Clausewise.Proofs.Session.Recursion
