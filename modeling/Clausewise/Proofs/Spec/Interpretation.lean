import Clausewise.Match.Test
import Clausewise.Proofs.Spec.SelfReference
import Clausewise.Proofs.Spec.Survey
import Clausewise.Proofs.Value.Sequence

/-! What the matcher of a spec tests, by recursion on the spec. -/
namespace Clausewise

namespace Value

mutual

/-- Whether a value meets a spec, as the matcher tests it that the spec stands for. A container that contains itself
never compiles, so what is said here of it does not matter. -/
def meets (limit : Value) (call : Caller) : Value → Value → Outcome Bool
  | .sequence _ specs, v =>
    match v.withheld? with
    | some withheld => .ofExcept (Matcher.prefixVerdict withheld specs.length)
    | none =>
      match v.items? with
      | none => .ok false
      | some items =>
        if v.refusesLength then .fail (.complaint .tooLong)
        else if items.length < specs.length then .ok false
        else (meetsItems limit call specs items).iterated
  | .mapping _ fields, v =>
    match v.withheld? with
    | some withheld => .fail (.complaint withheld.items)
    | none =>
      if v.isObject && decide (fields.length ≤ v.entryCount) then meetsEntries limit call fields v else .ok false
  | .cyclic body, v => meets limit call body v
  | .regex p, v => .ofExcept (p.verdictBy (call.search p) limit v)
  | .cls c, v => .ofExcept (v.isInstanceOfAny [c])
  | .category c, v => .ok (c.contains v)
  | .matcher m, v => m.test call v
  | spec, v =>
    if spec.isLiteral then .ofComparison (spec.strictEqual v)
    else do return (← call spec [v]).truth

/-- Whether items meet specs, one by one from the left, up to the first that does not. -/
def meetsItems (limit : Value) (call : Caller) : List Value → List Value → Outcome Bool
  | [], _ => .ok true
  | _ :: _, [] => .ok false
  | spec :: specs, item :: items => do
    if ← meets limit call spec item then meetsItems limit call specs items else return false

/-- Whether a value has every key and the entries there meet the specs, up to the first that does not. -/
def meetsEntries (limit : Value) (call : Caller) : List (Value × Value) → Value → Outcome Bool
  | [], _ => .ok true
  | (key, spec) :: rest, v =>
    match v.entry? key with
    | none => .ok false
    | some entry => do
      if ← meets limit call spec entry then meetsEntries limit call rest v else return false

end

theorem meets_literal {spec : Value} (h : spec.isLiteral = true) (limit : Value) (call : Caller) (v : Value) :
    meets limit call spec v = .ofComparison (spec.strictEqual v) := by
  cases spec with
  | null | undefined | bool | number | text | derivedText | kind | bytes => simp [meets, h]
  | _ => cases h

private theorem test_ofSpec_leaf (call : Caller) (limit : Value) {spec : Value}
    (hleaf : spec.isContainer = false) (v : Value) :
    (Matcher.ofSpec limit spec).test call v = meets limit call spec v := by
  cases spec with
  | sequence | mapping | cyclic => cases hleaf
  | regex p => rw [Matcher.ofSpec, Matcher.test, meets]
  | cls c => rw [Matcher.ofSpec, Matcher.test, meets]
  | category c => rw [Matcher.ofSpec, Matcher.test, meets]
  | matcher m => rw [Matcher.ofSpec, meets]
  | _ =>
    simp only [Matcher.ofSpec, meets]
    split <;> rw [Matcher.test]

private theorem testItems_ofSpec {call : Caller} {limit v : Value} {specs items : List Value}
    (hspecs : ∀ spec ∈ specs, ∀ v, (Matcher.ofSpec limit spec).test call v = meets limit call spec v)
    (hitems : v.items? = some items) (i : Nat) :
    Matcher.testItems call (specs.map (.ofSpec limit)) v i = meetsItems limit call specs (items.drop i) := by
  induction specs generalizing i with
  | nil => rw [List.map_nil, Matcher.testItems, meetsItems]
  | cons spec specs ih =>
    obtain ⟨hspec, hspecs⟩ := List.forall_mem_cons.mp hspecs
    rw [List.map_cons, Matcher.testItems, item?_eq_bind_items?, hitems, Option.bind_some]
    by_cases hi : i < items.length
    · rw [List.getElem?_eq_getElem hi, List.drop_eq_getElem_cons hi, meetsItems]
      simp only [hspec, ih hspecs]
    · rw [List.getElem?_eq_none (by omega), List.drop_eq_nil_of_le (by omega), meetsItems]

theorem testFields_ofSpec {call : Caller} {limit v : Value} {fields : List (Value × Value)}
    (hfields : ∀ f ∈ fields, ∀ v, (Matcher.ofSpec limit f.2).test call v = meets limit call f.2 v) :
    Matcher.testFields call (fields.map fun f => (f.1, .ofSpec limit f.2)) v = meetsEntries limit call fields v := by
  induction fields with
  | nil => rw [List.map_nil, Matcher.testFields, meetsEntries]
  | cons f fields ih =>
    obtain ⟨hf, hfields⟩ := List.forall_mem_cons.mp hfields
    rw [List.map_cons, Matcher.testFields, meetsEntries]
    cases v.entry? f.1 with
    | none => rfl
    | some entry => simp only [hf, ih hfields]

/-- The matcher that a spec stands for tests whether values meet the spec. -/
theorem test_ofSpec (call : Caller) (limit spec v : Value) :
    (Matcher.ofSpec limit spec).test call v = meets limit call spec v := by
  induction spec using containerInduction generalizing v with
  | sequence shape specs ih =>
    rw [Matcher.ofSpec, Matcher.ofSpecs_eq_map, Matcher.test, meets, length?_eq_map_items?, List.length_map]
    cases v.withheld? with
    | some withheld => rfl
    | none =>
      cases hitems : v.items? with
      | none => rfl
      | some items =>
        have htests : Matcher.testItems call (specs.map (.ofSpec limit)) v 0 = meetsItems limit call specs items :=
          testItems_ofSpec ih hitems 0
        simp only [Option.map_some, htests]
  | mapping shape fields ih =>
    rw [Matcher.ofSpec, Matcher.ofFields_eq_map, Matcher.test, meets, testFields_ofSpec ih, List.length_map]
    cases v.withheld? with
    | some withheld => rfl
    | none =>
      by_cases hobject : v.isObject = true
      · by_cases hcount : v.entryCount < fields.length
        · simp [hobject, hcount, Nat.not_le.mpr hcount]
        · simp [hobject, hcount, Nat.le_of_not_lt hcount]
      · simp [hobject]
  | cyclic body ih => rw [Matcher.ofSpec, meets, ih]
  | leaf spec hleaf => exact test_ofSpec_leaf call limit hleaf v

end Value

end Clausewise
