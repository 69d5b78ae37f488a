import Clausewise.Value.Entries
import Clausewise.Value.Iterate

/-! The views of a sequence agree: its length, its items by index and its entries are those of the list of its
items. -/
namespace Clausewise.Value

/-- The length of a sequence is the number of its items. -/
theorem length?_eq_map_items? (v : Value) : v.length? = v.items?.map List.length := by
  unfold length? items?
  cases v.expose with
  | buffer shape content => cases shape <;> simp
  | range start stop step => simp
  | _ => rfl

/-- The item of a sequence at an index is the item at that place in the list. -/
theorem item?_eq_bind_items? (v : Value) (i : Nat) : v.item? i = v.items?.bind fun items => items[i]? := by
  unfold item? items?
  cases v.expose with
  | buffer shape content => cases shape <;> simp
  | range start stop step =>
    simp only [Option.bind_some, List.getElem?_map]
    split <;> simp_all
  | _ => rfl

variable {v : Value} {items : List Value}

/-- A sequence whose shape shows hands its items out, or withholds them. -/
theorem isSequence_eq_isSome (hshape : v.hidesShape = false) :
    v.isSequence = (v.items?.isSome || v.withheld?.isSome) := by
  simp only [hidesShape, Bool.or_eq_false_iff] at hshape
  unfold isSequence items? withheld?
  cases v.expose with
  | sequence | range => rfl
  | buffer shape content =>
    cases shape with
    | grid dimensions => cases dimensions <;> rfl
    | _ => rfl
  | _ => simp only [hshape.1.2, Bool.false_and, Option.isSome_none, Bool.or_self]

theorem isSequence_of_items? (h : v.items? = some items) : v.isSequence = true := by
  unfold items? at h
  unfold isSequence
  cases hv : v.expose with
  | sequence | range => rfl
  | buffer shape content =>
    cases shape with
    | view => rfl
    | _ => simp [hv] at h
  | _ => simp [hv] at h

theorem isSequence_of_withheld? {withheld : Withheld} (h : v.withheld? = some withheld) : v.isSequence = true := by
  unfold withheld? at h
  unfold isSequence
  cases hv : v.expose with
  | buffer shape content =>
    cases shape with
    | grid | released => rfl
    | _ => simp [hv] at h
  | _ => simp [hv] at h

theorem items?_of_not_isSequence (h : v.isSequence = false) : v.items? = none := by
  cases hitems : v.items? with
  | none => rfl
  | some items => simp [isSequence_of_items? hitems] at h

theorem withheld?_of_not_isSequence (h : v.isSequence = false) : v.withheld? = none := by
  cases hwithheld : v.withheld? with
  | none => rfl
  | some withheld => simp [isSequence_of_withheld? hwithheld] at h

theorem items?_of_isSequence (h : v.isSequence = true) (hshape : v.hidesShape = false) (hgives : v.withheld? = none) :
    ∃ items, v.items? = some items := by
  rw [isSequence_eq_isSome hshape, hgives, Option.isSome_none, Bool.or_false] at h
  exact Option.isSome_iff_exists.mp h

/-- A range that is too long to tell its length would hand out its items. -/
theorem items?_of_refusesLength (h : v.refusesLength = true) : ∃ items, v.items? = some items := by
  rw [refusesLength] at h
  unfold items?
  cases hv : v.expose with
  | range start stop step => exact ⟨_, rfl⟩
  | _ => simp [hv] at h

/-- No sequence both hands its items out and withholds them. -/
theorem withheld?_of_items? (h : v.items? = some items) : v.withheld? = none := by
  unfold items? at h
  unfold withheld?
  cases hv : v.expose with
  | buffer shape content =>
    cases shape with
    | view => rfl
    | _ => simp [hv] at h
  | _ => rfl

theorem withheld?_of_refusesLength (h : v.refusesLength = true) : v.withheld? = none := by
  obtain ⟨items, hitems⟩ := items?_of_refusesLength h
  exact withheld?_of_items? hitems

/-- A sequence is no mapping. -/
theorem entries?_of_items? (h : v.items? = some items) : v.entries? = none := by
  unfold items? at h
  unfold entries?
  cases hv : v.expose with
  | mapping | layers => simp [hv] at h
  | _ => rfl

/-- A sequence runs through its items. -/
theorem iterate?_of_items? (h : v.items? = some items) : v.iterate? = some items := by
  unfold items? at h
  unfold iterate?
  cases hv : v.expose with
  | sequence shape content =>
    rw [hv] at h
    exact h
  | range start stop step =>
    rw [hv] at h
    exact h
  | buffer shape content =>
    rw [hv] at h
    cases shape with
    | view => exact h
    | _ => cases h
  | _ =>
    rw [hv] at h
    cases h

/-- Among values whose shape shows, the objects are those that are no literals. -/
theorem isObject_eq_not_isLiteral (hshape : v.hidesShape = false) : v.isObject = !v.isLiteral := by
  simp only [hidesShape, Bool.or_eq_false_iff] at hshape
  obtain ⟨⟨hnumber, hsequence⟩, -⟩ := hshape
  have htext : v.isMadeFrom .str = false :=
    Bool.eq_false_iff.mpr fun h => Bool.eq_false_iff.mp hsequence (isMadeFrom_of_derivesFrom (by decide) h)
  have hbytes : v.isMadeFrom .bytes = false :=
    Bool.eq_false_iff.mpr fun h => Bool.eq_false_iff.mp hsequence (isMadeFrom_of_derivesFrom (by decide) h)
  simp [isObject, hnumber, htext, hbytes]

theorem isLiteral_of_isObject (h : v.isObject = true) : v.isLiteral = false := by
  simp only [isObject, Bool.and_eq_true, Bool.not_eq_true'] at h
  exact h.1

theorem isObject_of_items? (h : v.items? = some items) : v.isObject = true := by
  cases v with
  | null | undefined | bool | number | text | derivedText | kind | bytes | object | fault => cases h
  | _ => rfl

theorem entryCount_of_items? (h : v.items? = some items) : v.entryCount = items.length := by
  simp [entryCount, entries?_of_items? h, length?_eq_map_items?, h]

/-- What a sequence has under a key is the item at the index that the key stands for. -/
theorem entry?_of_items? (h : v.items? = some items) (k : Value) :
    v.entry? k = k.index?.bind fun i => items[i]? := by
  have hitem : v.item? = fun i => items[i]? := funext fun i => by rw [item?_eq_bind_items?, h, Option.bind_some]
  simp [entries?_of_items? h, entry?, length?_eq_map_items?, h, hitem]

end Clausewise.Value
