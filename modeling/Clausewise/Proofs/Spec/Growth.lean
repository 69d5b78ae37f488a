import Clausewise.Proofs.Spec.PlainData
import Clausewise.Proofs.Spec.Verdict

/-! Growth of values: what a spec without complements accepts it does not refuse after items or entries have been added,
at any depth. -/
namespace Clausewise

namespace Value

section Extension
variable {R S : Value → Value → Prop} {v w : Value}

/-- One level of growth, with the parts that were there related: a sequence of items gains some at its end, a mapping
gains keys, and anything else stays the same. -/
inductive ExtendsBy (R : Value → Value → Prop) : Value → Value → Prop
  | same (v : Value) : ExtendsBy R v v
  | sequence {v w : Value} {shape : SequenceShape} {items grown more : List Value} :
      v.expose = .sequence shape items → w.expose = .sequence shape (grown ++ more) → List.Forall₂ R items grown →
      ExtendsBy R v w
  | mapping {v w : Value} {shape : MappingShape} {entries entries' : List (Value × Value)} :
      v.expose = .mapping shape entries → w.expose = .mapping shape entries' →
      (∀ k x, lookup entries k = some x → ∃ y, lookup entries' k = some y ∧ R x y) → ExtendsBy R v w

/-- That a value grows into another, at any depth at once. It is the greatest relation with such growth at each level,
so that containers that contain themselves grow too. -/
def ExtendedBy (v w : Value) : Prop := ∃ R : Value → Value → Prop, (∀ v w, R v w → ExtendsBy R v w) ∧ R v w

theorem ExtendsBy.mono (h : ExtendsBy R v w) (hRS : ∀ v w, R v w → S v w) : ExtendsBy S v w := by
  cases h with
  | same => exact .same v
  | sequence hv hw hgrown => exact .sequence hv hw (hgrown.imp fun x y => hRS x y)
  | mapping hv hw hgrown =>
    refine .mapping hv hw fun k x hx => ?_
    obtain ⟨y, hy, hxy⟩ := hgrown k x hx
    exact ⟨y, hy, hRS x y hxy⟩

theorem ExtendedBy.extendsBy (h : v.ExtendedBy w) : ExtendsBy ExtendedBy v w := by
  obtain ⟨R, hR, hvw⟩ := h
  exact (hR v w hvw).mono fun x y hxy => ⟨R, hR, hxy⟩

theorem ExtendsBy.extendedBy (h : ExtendsBy ExtendedBy v w) : v.ExtendedBy w :=
  ⟨ExtendsBy ExtendedBy, fun _ _ hvw => hvw.mono fun _ _ => ExtendedBy.extendsBy, h⟩

theorem ExtendedBy.refl (v : Value) : v.ExtendedBy v := (ExtendsBy.same v).extendedBy

/-- The items of a value that has grown are those of before, grown, with others after them. -/
theorem ExtendedBy.items? (h : v.ExtendedBy w) {items : List Value} (hitems : v.items? = some items) :
    ∃ grown more, w.items? = some (grown ++ more) ∧ List.Forall₂ ExtendedBy items grown := by
  cases h.extendsBy with
  | same => exact ⟨items, [], by rw [hitems, List.append_nil], List.forall₂_same.mpr fun x _ => .refl x⟩
  | sequence hv hw hgrown =>
    rw [Value.items?, hv] at hitems
    obtain rfl := Option.some.inj hitems
    exact ⟨_, _, by rw [Value.items?, hw], hgrown⟩
  | mapping hv => simp [Value.items?, hv] at hitems

private theorem exists_getElem?_append_of_forall₂ {xs ys : List Value} (h : List.Forall₂ R xs ys) (more : List Value)
    {i : Nat} {x : Value} (hx : xs[i]? = some x) : ∃ y, (ys ++ more)[i]? = some y ∧ R x y := by
  induction h generalizing i with
  | nil => cases hx
  | cons hxy _ ih =>
    cases i with
    | zero =>
      obtain rfl := Option.some.inj hx
      exact ⟨_, rfl, hxy⟩
    | succ i => exact ih hx

/-- What is under a key of a value grows with it. -/
theorem ExtendedBy.entry? (h : v.ExtendedBy w) {k x : Value} (hx : v.entry? k = some x) :
    ∃ y, w.entry? k = some y ∧ x.ExtendedBy y := by
  cases hitems : v.items? with
  | some items =>
    obtain ⟨grown, more, hw, hgrown⟩ := h.items? hitems
    rw [entry?_of_items? hitems] at hx
    obtain ⟨i, hi, hitem⟩ := Option.bind_eq_some_iff.mp hx
    obtain ⟨y, hy, hxy⟩ := exists_getElem?_append_of_forall₂ hgrown more hitem
    exact ⟨y, by rw [entry?_of_items? hw, hi, Option.bind_some, hy], hxy⟩
  | none =>
    cases h.extendsBy with
    | same => exact ⟨x, hx, .refl x⟩
    | sequence hv => simp [Value.items?, hv] at hitems
    | mapping hv hw hgrown =>
      simp only [entries?, Value.entry?, hv] at hx
      obtain ⟨y, hy, hxy⟩ := hgrown k x hx
      exact ⟨y, by simp only [entries?, Value.entry?, hw, hy], hxy⟩

theorem ExtendedBy.refusesLength (h : v.ExtendedBy w) (hv : v.refusesLength = false) : w.refusesLength = false := by
  cases h.extendsBy with
  | same => exact hv
  | sequence _ hw | mapping _ hw => rw [Value.refusesLength, hw]

end Extension

section Verdict
variable {limit v w : Value} {call : Caller} {specs : List Value}

end Verdict

end Value

namespace Registry
open Value

end Registry

end Clausewise
