import Clausewise.Proofs.Value.Entries
import Clausewise.Proofs.Value.Sequence

/-! The parts of values, at any depth, and what values have in common that let themselves be looked into. -/
namespace Clausewise

namespace Value

/-- The values directly inside a value: those under the keys of a mapping, the items of a sequence, the attributes of
anything else. -/
def inner (v : Value) : List Value :=
  match v.entries?, v.items? with
  | some entries, _ => entries.map (·.2)
  | none, some items => items
  | none, none => v.attributes.map (·.2)

/-- That a value is another one or lies inside it, at any depth. -/
inductive Inside : Value → Value → Prop
  | self (v : Value) : Inside v v
  | deeper {w u v : Value} : u ∈ v.inner → Inside w u → Inside w v

/-- That a value and everything inside it have a property. -/
def Throughout (P : Value → Prop) (v : Value) : Prop := ∀ w, Inside w v → P w

/-- That a value lets itself be looked into: it tells its length, hands its items out, hides no shape behind its class
and stays the same when keys are looked up. -/
structure Forthcoming (v : Value) : Prop where
  tellsLength : v.refusesLength = false
  gives : v.withheld? = none
  shows : v.hidesShape = false
  keeps : v.keepsEntries = true

variable {P : Value → Prop} {v w : Value}

theorem Throughout.self (h : v.Throughout P) : P v := h v (.self v)

theorem Throughout.inner (h : v.Throughout P) (hw : w ∈ v.inner) : w.Throughout P :=
  fun u hu => h u (.deeper hw hu)

theorem mem_inner_of_items? {items : List Value} (h : v.items? = some items) (hw : w ∈ items) : w ∈ v.inner := by
  rwa [Value.inner, entries?_of_items? h, h]

theorem inner_eq_map_allEntries (v : Value) : v.inner = v.allEntries.map (·.2) := by
  rw [Value.inner, allEntries]
  cases v.entries? with
  | some entries => rfl
  | none =>
    cases v.items? with
    | some items => exact (map_snd_indexed 0 items).symm
    | none => simp [named]

theorem mem_inner_of_entry {k : Value} (h : v.entry? k = some w) : w ∈ v.inner := by
  rw [entry?_eq_lookup] at h
  obtain ⟨e, he, -, rfl⟩ := exists_mem_of_lookup h
  rw [inner_eq_map_allEntries]
  exact List.mem_map_of_mem he

end Value

end Clausewise
