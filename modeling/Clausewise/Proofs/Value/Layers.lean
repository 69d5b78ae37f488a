import Clausewise.Proofs.Value.Entries

/-! Mappings looked through one after the other: they have the keys of all of them, and under each the answer of the
first that answers. -/
namespace Clausewise.Value

/-- Induction over mappings inside layers, with every other value as a leaf. -/
@[elab_as_elim]
theorem layersInduction {motive : Value → Prop} (layers : ∀ maps, (∀ m ∈ maps, motive m) → motive (.layers maps))
    (leaf : ∀ v : Value, (∀ maps, v ≠ .layers maps) → motive v) : ∀ v, motive v
  | .layers maps => layers maps fun m _ => layersInduction layers leaf m
  | .null | .undefined | .bool _ | .number _ | .text _ | .derivedText _ | .kind _ | .bytes _ | .buffer ..
  | .sequence .. | .range .. | .set .. | .mapping .. | .moment .. | .object .. | .fault .. | .cls _ | .category _
  | .function _ | .regex _ | .matcher _ | .constant _ | .builder _ | .closed .. | .cyclic _ | .back _ => leaf _ nofun
termination_by v => sizeOf v
decreasing_by
  have := List.sizeOf_lt_of_mem ‹m ∈ maps›
  simp only [Value.layers.sizeOf_spec]
  omega

variable {v k q : Value} {maps : List Value} {entries : List (Value × Value)}

theorem answer?_of_ne_layers (h : ∀ maps, v ≠ layers maps) (k : Value) : v.answer? k = v.ownAnswer? k := by
  cases v with
  | layers maps => exact absurd rfl (h maps)
  | _ => rfl

theorem mappingEntries_of_ne_layers (h : ∀ maps, v ≠ layers maps) : v.mappingEntries = v.ownEntries := by
  cases v with
  | layers maps => exact absurd rfl (h maps)
  | _ => rfl

theorem firstAnswer?_eq_findSome? (maps : List Value) (k : Value) :
    firstAnswer? maps k = maps.findSome? fun m => m.answer? k := by
  induction maps with
  | nil => rfl
  | cons m ms ih =>
    rw [firstAnswer?, List.findSome?_cons, ih]
    cases m.answer? k <;> rfl

theorem mem_stackedEntries {e : Value × Value} : e ∈ stackedEntries maps ↔ ∃ m ∈ maps, e ∈ m.mappingEntries := by
  induction maps with
  | nil => simp [stackedEntries]
  | cons m ms ih => simp [stackedEntries, ih, or_comm]

/-- What mappings looked through one after the other have under a key: if one of them has the key, what the first that
answers for it answers. -/
def through (maps : List Value) (k : Value) : Option Value :=
  if maps.any (fun m => (lookup m.mappingEntries k).isSome) then maps.findSome? fun m => m.answer? k else none

end Clausewise.Value
