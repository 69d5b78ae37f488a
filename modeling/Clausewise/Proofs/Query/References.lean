import Clausewise.Proofs.Ensures
import Clausewise.Proofs.Value.References
import Clausewise.Query.Select

/-! Queries select and compute without adding references: what a query finds in a value refers to nothing that the
value does not refer to. -/
namespace Clausewise

namespace Query
variable {R : Reference → Prop} {v w : Value} {items : List Value}

theorem within_listItems? (hv : v.Within R) (h : listItems? v = some items) : ∀ item ∈ items, item.Within R := by
  have hexpose := Value.within_expose hv
  unfold listItems? at h
  split at h
  · rename_i hshape
    obtain rfl := Option.some.inj h
    rw [hshape] at hexpose
    exact Value.within_sequence.mp hexpose
  · cases h

theorem within_listItems?_getD (hv : v.Within R) : ∀ item ∈ (listItems? v).getD [], item.Within R := by
  cases h : listItems? v with
  | none => nofun
  | some items => exact within_listItems? hv h

theorem within_entries?_getD (hv : v.Within R) : ∀ e ∈ (v.entries?).getD [], e.1.Within R ∧ e.2.Within R := by
  cases h : v.entries? with
  | none => nofun
  | some entries => exact Value.within_entries? hv h

mutual

theorem within_toValue : (l : QueryLiteral) → l.toValue.Within R
  | .null => Value.within_null
  | .bool _ => Value.within_bool _
  | .int _ | .float _ => Value.within_number _
  | .text _ => Value.within_text _
  | .array items => Value.within_sequence.mpr (within_toValues items)
  | .object fields => Value.within_mapping.mpr (within_toEntries fields)

theorem within_toValues : (ls : List QueryLiteral) → ∀ v ∈ QueryLiteral.toValues ls, v.Within R
  | [] => nofun
  | l :: ls => List.forall_mem_cons.mpr ⟨within_toValue l, within_toValues ls⟩

theorem within_toEntries : (fields : List (String × QueryLiteral)) →
    ∀ e ∈ QueryLiteral.toEntries fields, e.1.Within R ∧ e.2.Within R
  | [] => nofun
  | (_, l) :: rest =>
    List.forall_mem_cons.mpr ⟨⟨Value.within_text _, within_toValue l⟩, within_toEntries rest⟩

end

theorem within_fieldOf (hv : v.Within R) (name : String) : (fieldOf v name).Within R := by
  unfold fieldOf
  split
  · rename_i entries hentries
    cases h : Value.lookup entries (.text name) with
    | none => exact Value.within_null
    | some w =>
      obtain ⟨e, he, -, rfl⟩ := Value.exists_mem_of_lookup h
      exact (Value.within_entries? hv hentries e he).2
  · exact Value.within_null

theorem within_indexOf (hv : v.Within R) (i : Int) : (indexOf v i).Within R := by
  unfold indexOf
  split
  · rename_i items hitems
    dsimp only
    generalize (if i < 0 then i + (items.length : Int) else i) = place
    split
    · exact Value.within_null
    · cases h : items[place.toNat]? with
      | none => exact Value.within_null
      | some w => exact within_listItems? hv hitems w (List.mem_of_getElem? h)
  · exact Value.within_null

theorem ensures_sliceOf (hv : v.Within R) (start stop step : Option Int) :
    Ensures (Value.Within R) (sliceOf v start stop step) := by
  unfold sliceOf
  split
  · rename_i items hitems
    split
    · exact ensures_error _
    · refine ensures_ok (Value.within_sequence.mpr fun item hitem => ?_)
      obtain ⟨i, -, hi⟩ := List.mem_filterMap.mp hitem
      exact within_listItems? hv hitems item (List.mem_of_getElem? hi)
  · exact ensures_ok Value.within_null

theorem ensures_collect {step : Value → Except Failure Value}
    (hstep : ∀ v, v.Within R → Ensures (Value.Within R) (step v)) {items : List Value}
    (hitems : ∀ v ∈ items, v.Within R) : Ensures (fun vs => ∀ v ∈ vs, v.Within R) (collect step items) := by
  induction items with
  | nil => exact ensures_ok nofun
  | cons v vs ih =>
    obtain ⟨hv, hvs⟩ := List.forall_mem_cons.mp hitems
    refine (hstep v hv).bind fun r hr => (ih hvs).bind fun rest hrest => ?_
    split
    · exact ensures_ok hrest
    · exact ensures_ok (List.forall_mem_cons.mpr ⟨hr, hrest⟩)

theorem ensures_collectIf {test step : Value → Except Failure Value}
    (hstep : ∀ v, v.Within R → Ensures (Value.Within R) (step v)) {items : List Value}
    (hitems : ∀ v ∈ items, v.Within R) : Ensures (fun vs => ∀ v ∈ vs, v.Within R) (collectIf test step items) := by
  induction items with
  | nil => exact ensures_ok nofun
  | cons v vs ih =>
    obtain ⟨hv, hvs⟩ := List.forall_mem_cons.mp hitems
    refine ensures_bind fun _ => ensures_bind fun passed => ?_
    split
    · exact ih hvs
    · refine (hstep v hv).bind fun r hr => (ih hvs).bind fun rest hrest => ?_
      split
      · exact ensures_ok hrest
      · exact ensures_ok (List.forall_mem_cons.mpr ⟨hr, hrest⟩)

theorem within_flattened (hitems : ∀ v ∈ items, v.Within R) : ∀ v ∈ flattened items, v.Within R := by
  intro v hv
  obtain ⟨item, hitem, hv⟩ := List.mem_flatMap.mp hv
  cases h : listItems? item with
  | none =>
    rw [h] at hv
    obtain rfl := List.mem_singleton.mp hv
    exact hitems v hitem
  | some inner =>
    rw [h] at hv
    exact within_listItems? (hitems item hitem) h v hv

theorem ensures_compareInQuery (c : QueryComparator) (a b : Value) :
    Ensures (Value.Within R) (compareInQuery c a b) := by
  have horder (d : Comparison) : Ensures (Value.Within R) (orderInQuery d a b) := by
    unfold orderInQuery
    split
    · exact ensures_bind fun _ => ensures_ok (Value.within_bool _)
    · exact ensures_ok Value.within_null
  cases c with
  | equal | unequal => exact ensures_bind fun _ => ensures_ok (Value.within_bool _)
  | less | lessOrEqual | greater | greaterOrEqual => exact horder _

theorem ensures_negated (v : Value) : Ensures (Value.Within R) (negated v) := by
  unfold negated
  split
  · refine ensures_bind fun _ => ?_
    split <;> exact ensures_ok (Value.within_bool _)
  · exact ensures_ok (Value.within_bool _)

/-- An argument of a function: a value, or an expression that adds no references to what it is applied to. -/
def ArgumentWithin (R : Reference → Prop) : QueryArgument → Prop
  | .value v => v.Within R
  | .reference f => ∀ v, v.Within R → Ensures (Value.Within R) (f v)

section
variable {entries : List (Value × Value)} {arguments : List QueryArgument}

theorem within_absolute (hv : v.Within R) : (absolute v).Within R := by
  unfold absolute
  split
  · exact Value.within_number _
  · exact Value.within_number _
  · exact hv

theorem ensures_rounded (up : Bool) (v : Value) : Ensures (Value.Within R) (rounded up v) := by
  unfold rounded
  split
  · exact ensures_ok (Value.within_number _)
  · split
    · exact ensures_ok (Value.within_number _)
    · exact ensures_error _
    · exact ensures_error _
  · exact ensures_error _

theorem ensures_meanOf (items : List Value) : Ensures (Value.Within R) (meanOf items) := by
  refine ensures_bind fun sum => ?_
  split
  · exact ensures_ok (Value.within_number _)
  · split <;> exact ensures_ok (Value.within_number _)
  · exact ensures_ok (Value.within_number _)

theorem ensures_extreme (c : Comparison) (hentries : ∀ e ∈ entries, e.2.Within R) :
    Ensures (Value.Within R) (extreme c entries) := by
  cases entries with
  | nil => exact ensures_ok Value.within_null
  | cons first rest =>
    obtain ⟨hfirst, hrest⟩ := List.forall_mem_cons.mp hentries
    refine (ensures_foldlM (P := fun best : Value × Value => best.2.Within R) (fun best hbest e he => ?_) hfirst).bind
      fun best hbest => ensures_ok hbest
    refine ensures_bind fun larger => ?_
    split
    · exact ensures_ok (hrest e he)
    · exact ensures_ok hbest

theorem ensures_insertSorted {e : Value × Value} (he : e.2.Within R) (hentries : ∀ e ∈ entries, e.2.Within R) :
    Ensures (fun sorted => ∀ e ∈ sorted, e.2.Within R) (insertSorted e entries) := by
  induction entries with
  | nil => exact ensures_ok (List.forall_mem_singleton.mpr he)
  | cons f rest ih =>
    obtain ⟨hf, hrest⟩ := List.forall_mem_cons.mp hentries
    refine ensures_bind fun smaller => ?_
    split
    · exact ensures_ok (List.forall_mem_cons.mpr ⟨he, hentries⟩)
    · exact (ih hrest).bind fun sorted hsorted => ensures_ok (List.forall_mem_cons.mpr ⟨hf, hsorted⟩)

theorem ensures_sortedByKey (hentries : ∀ e ∈ entries, e.2.Within R) :
    Ensures (fun vs => ∀ v ∈ vs, v.Within R) (sortedByKey entries) := by
  refine (ensures_foldlM (P := fun sorted : List (Value × Value) => ∀ e ∈ sorted, e.2.Within R)
    (fun sorted hsorted e he => ensures_insertSorted (hentries e he) hsorted) (by simp)).bind fun sorted hsorted => ?_
  exact ensures_ok (List.forall_mem_map.mpr hsorted)

theorem ensures_keysBy {apply : Value → Except Failure Value} {allowed : List QueryType}
    (hitems : ∀ v ∈ items, v.Within R) :
    Ensures (fun entries => ∀ e ∈ entries, e.2.Within R) (keysBy apply allowed items) := by
  induction items with
  | nil => exact ensures_ok nofun
  | cons v vs ih =>
    obtain ⟨hv, hvs⟩ := List.forall_mem_cons.mp hitems
    refine ensures_bind fun k => ?_
    split
    · exact (ih hvs).bind fun rest hrest => ensures_ok (List.forall_mem_cons.mpr ⟨hv, hrest⟩)
    · exact ensures_error _

theorem within_numberOfText (s : List Char) : (numberOfText s).Within R := by
  unfold numberOfText
  dsimp only
  split
  · exact Value.within_number _
  · split
    · exact Value.within_number _
    · exact Value.within_null

theorem ensures_toNumber (v : Value) : Ensures (Value.Within R) (toNumber v) := by
  unfold toNumber
  split
  case h_11 d _ =>
    split
    · exact ensures_ok (Value.within_number _)
    · split
      · exact ensures_ok Value.within_null
      · exact ensures_ok (Value.within_number _)
    · exact ensures_error _
  case h_12 =>
    split
    · exact ensures_ok (within_numberOfText _)
    · exact ensures_ok (within_numberOfText _)
    · exact ensures_error _
  all_goals exact ensures_ok Value.within_null

theorem within_typeName (v : Value) : (typeName v).Within R := by
  unfold typeName
  split <;> first | exact Value.within_text _ | exact Value.within_null

theorem within_sizeOf (v : Value) : (sizeOf v).Within R := by
  unfold sizeOf
  split <;> exact Value.within_number _

private theorem within_findSome?_getD {g : QueryArgument → Option Value}
    (h : ∀ a ∈ arguments, ∀ w, g a = some w → w.Within R) : ((arguments.findSome? g).getD .null).Within R := by
  cases hfind : arguments.findSome? g with
  | none => exact Value.within_null
  | some w =>
    obtain ⟨a, ha, hw⟩ := List.exists_of_findSome?_eq_some hfind
    exact h a ha w hw

theorem ensures_applyChecked (name : String) (harguments : ∀ a ∈ arguments, ArgumentWithin R a) :
    Ensures (Value.Within R) (applyChecked name arguments) := by
  have hvalue {v : Value} (h : .value v ∈ arguments) : v.Within R := harguments (.value v) h
  have hitems {v : Value} (h : .value v ∈ arguments) := within_listItems?_getD (hvalue h)
  have hpairs {v : Value} (h : .value v ∈ arguments) :
      ∀ e ∈ ((listItems? v).getD []).map fun e => (e, e), e.2.Within R := List.forall_mem_map.mpr (hitems h)
  unfold applyChecked
  split
  case h_1 => exact ensures_ok (within_absolute (hvalue (by simp)))
  case h_2 => exact ensures_rounded true _
  case h_3 => exact ensures_rounded false _
  case h_4 =>
    split
    · exact ensures_ok Value.within_null
    · exact ensures_meanOf _
  case h_5 => exact ensures_bind fun _ => ensures_ok (Value.within_number _)
  case h_6 =>
    refine ensures_ok (within_findSome?_getD fun a ha w hw => ?_)
    have hwithin := harguments a ha
    split at hw
    · cases hw
    · obtain rfl := Option.some.inj hw
      exact hwithin
    · obtain rfl := Option.some.inj hw
      exact Value.within_undefined
  case h_7 v =>
    have hv : v.Within R := hvalue (by simp)
    split
    · exact ensures_ok hv
    · exact ensures_ok (Value.within_sequence.mpr (List.forall_mem_singleton.mpr hv))
  case h_8 =>
    split
    · exact ensures_ok (hvalue (by simp))
    · exact ensures_bind fun _ => ensures_ok (Value.within_text _)
  case h_9 => exact ensures_toNumber _
  case h_10 => exact ensures_ok (within_typeName _)
  case h_11 =>
    split
    · exact ensures_bind fun _ => ensures_ok (Value.within_bool _)
    · exact ensures_ok (Value.within_bool _)
    · exact ensures_error _
  case h_12 => exact ensures_ok (within_sizeOf _)
  case h_13 => exact ensures_ok (Value.within_bool _)
  case h_14 => exact ensures_ok (Value.within_bool _)
  case h_15 v =>
    split
    · rename_i items hlist
      have hv : v.Within R := hvalue (by simp)
      exact ensures_ok (Value.within_sequence.mpr fun w hw => within_listItems? hv hlist w (List.mem_reverse.mp hw))
    · exact ensures_ok (Value.within_text _)
  case h_16 => exact ensures_ok (Value.within_text _)
  case h_17 f v =>
    have hf : ArgumentWithin R (.reference f) := harguments _ (by simp)
    have hv : v.Within R := hvalue (by simp)
    exact (ensures_mapM fun w hw => hf w (within_listItems?_getD hv w hw)).bind fun vs hvs =>
      ensures_ok (Value.within_sequence.mpr hvs)
  case h_18 => exact ensures_extreme _ (hpairs (by simp))
  case h_19 => exact ensures_extreme _ (hpairs (by simp))
  case h_20 =>
    exact (ensures_sortedByKey (hpairs (by simp))).bind fun vs hvs => ensures_ok (Value.within_sequence.mpr hvs)
  case h_21 =>
    refine ensures_ok (Value.within_mapping.mpr (Value.within_collectEntries fun e he => ?_))
    obtain ⟨a, ha, he⟩ := List.mem_flatMap.mp he
    cases a with
    | value v => exact within_entries?_getD (hvalue ha) e he
    | reference f => cases he
  case h_22 => exact (ensures_keysBy (hitems (by simp))).bind fun entries hentries => ensures_extreme _ hentries
  case h_23 => exact (ensures_keysBy (hitems (by simp))).bind fun entries hentries => ensures_extreme _ hentries
  case h_24 v _ =>
    have hv : v.Within R := hvalue (by simp)
    have hall := within_listItems?_getD hv
    split
    · exact ensures_ok hv
    · rename_i first rest hlist
      rw [hlist] at hall
      refine ensures_bind fun t => (ensures_keysBy hall).bind fun entries hentries => ?_
      exact (ensures_sortedByKey hentries).bind fun vs hvs => ensures_ok (Value.within_sequence.mpr hvs)
  case h_25 v =>
    have hv : v.Within R := hvalue (by simp)
    exact ensures_ok (Value.within_sequence.mpr (List.forall_mem_map.mpr fun e he => (within_entries?_getD hv e he).1))
  case h_26 v =>
    have hv : v.Within R := hvalue (by simp)
    exact ensures_ok (Value.within_sequence.mpr (List.forall_mem_map.mpr fun e he => (within_entries?_getD hv e he).2))
  case h_27 => exact ensures_ok (Value.within_text _)
  case h_28 => exact ensures_error _

theorem ensures_applyFunction (extended : Bool) (name : String) (harguments : ∀ a ∈ arguments, ArgumentWithin R a) :
    Ensures (Value.Within R) (applyFunction extended name arguments) := by
  unfold applyFunction
  split
  · exact ensures_error _
  · split
    · exact ensures_error _
    · split
      · exact ensures_error _
      · exact ensures_bind fun _ => ensures_applyChecked name harguments

end

mutual

/-- What a query finds in a value refers to nothing that the value does not refer to. -/
theorem ensures_evaluate (extended : Bool) : (q : Query) → (v : Value) → v.Within R →
    Ensures (Value.Within R) (evaluate extended q v)
  | .current, _, hv => ensures_ok hv
  | .field name, _, hv => ensures_ok (within_fieldOf hv name)
  | .index i, _, hv => ensures_ok (within_indexOf hv i)
  | .slice start stop step, _, hv => ensures_sliceOf hv start stop step
  | .sub left right, v, hv =>
    (ensures_evaluate extended left v hv).bind fun w hw => ensures_evaluate extended right w hw
  | .indexed left right, v, hv =>
    (ensures_evaluate extended left v hv).bind fun w hw => ensures_evaluate extended right w hw
  | .projection left right, v, hv => by
    refine (ensures_evaluate extended left v hv).bind fun w hw => ?_
    split
    · rename_i items hitems
      refine (ensures_collect (ensures_evaluate extended right) (within_listItems? hw hitems)).bind fun vs hvs => ?_
      exact ensures_ok (Value.within_sequence.mpr hvs)
    · exact ensures_ok Value.within_null
  | .valueProjection left right, v, hv => by
    refine (ensures_evaluate extended left v hv).bind fun w hw => ?_
    split
    · rename_i entries hentries
      have hvalues : ∀ v ∈ entries.map (·.2), v.Within R :=
        List.forall_mem_map.mpr fun e he => (Value.within_entries? hw hentries e he).2
      refine (ensures_collect (ensures_evaluate extended right) hvalues).bind fun vs hvs => ?_
      exact ensures_ok (Value.within_sequence.mpr hvs)
    · exact ensures_ok Value.within_null
  | .filterProjection left right condition, v, hv => by
    refine (ensures_evaluate extended left v hv).bind fun w hw => ?_
    split
    · rename_i items hitems
      refine (ensures_collectIf (ensures_evaluate extended right) (within_listItems? hw hitems)).bind fun vs hvs => ?_
      exact ensures_ok (Value.within_sequence.mpr hvs)
    · exact ensures_ok Value.within_null
  | .flatten body, v, hv => by
    refine (ensures_evaluate extended body v hv).bind fun w hw => ?_
    split
    · rename_i items hitems
      exact ensures_ok (Value.within_sequence.mpr (within_flattened (within_listItems? hw hitems)))
    · exact ensures_ok Value.within_null
  | .comparison c left right, v, hv => ensures_bind fun a => ensures_bind fun b => ensures_compareInQuery c a b
  | .either left right, v, hv => by
    refine (ensures_evaluate extended left v hv).bind fun a ha => ensures_bind fun missing => ?_
    split
    · exact ensures_evaluate extended right v hv
    · exact ensures_ok ha
  | .both left right, v, hv => by
    refine (ensures_evaluate extended left v hv).bind fun a ha => ensures_bind fun missing => ?_
    split
    · exact ensures_ok ha
    · exact ensures_evaluate extended right v hv
  | .negation body, v, hv => ensures_bind fun a => ensures_negated a
  | .list items, v, hv => by
    unfold evaluate
    split
    · exact ensures_ok Value.within_null
    · exact (ensures_evaluateAll extended items v hv).bind fun vs hvs => ensures_ok (Value.within_sequence.mpr hvs)
  | .hash fields, v, hv => by
    unfold evaluate
    split
    · exact ensures_ok Value.within_null
    · exact (ensures_evaluateFields extended fields v hv).bind fun entries hentries =>
        ensures_ok (Value.within_mapping.mpr (Value.within_collectEntries hentries))
  | .literal value, _, _ => ensures_ok (within_toValue value)
  | .apply function arguments, v, hv =>
    (ensures_evaluateArguments extended arguments v hv).bind fun as has => ensures_applyFunction extended function has
  | .reference _, _, _ => ensures_ok (Value.within_object.mpr nofun)

theorem ensures_evaluateAll (extended : Bool) : (qs : List Query) → (v : Value) → v.Within R →
    Ensures (fun vs => ∀ w ∈ vs, w.Within R) (evaluateAll extended qs v)
  | [], _, _ => ensures_ok nofun
  | q :: qs, v, hv => (ensures_evaluate extended q v hv).bind fun _ hr =>
    (ensures_evaluateAll extended qs v hv).bind fun _ hrs => ensures_ok (List.forall_mem_cons.mpr ⟨hr, hrs⟩)

theorem ensures_evaluateFields (extended : Bool) : (fields : List (String × Query)) → (v : Value) → v.Within R →
    Ensures (fun entries => ∀ e ∈ entries, e.1.Within R ∧ e.2.Within R) (evaluateFields extended fields v)
  | [], _, _ => ensures_ok nofun
  | (_, q) :: rest, v, hv => (ensures_evaluate extended q v hv).bind fun _ hr =>
    (ensures_evaluateFields extended rest v hv).bind fun _ hentries =>
      ensures_ok (List.forall_mem_cons.mpr ⟨⟨Value.within_text _, hr⟩, hentries⟩)

theorem ensures_evaluateArguments (extended : Bool) : (qs : List Query) → (v : Value) → v.Within R →
    Ensures (fun as => ∀ a ∈ as, ArgumentWithin R a) (evaluateArguments extended qs v)
  | [], _, _ => ensures_ok nofun
  | q :: rest, v, hv => by
    have hrest := ensures_evaluateArguments extended rest v hv
    cases q with
    | reference body =>
      have hbody : ArgumentWithin R (.reference (evaluate extended body)) := ensures_evaluate extended body
      exact hrest.bind fun as has => ensures_ok (List.forall_mem_cons.mpr ⟨hbody, has⟩)
    | _ => exact (ensures_evaluate extended _ v hv).bind fun r hr =>
        hrest.bind fun as has => ensures_ok (List.forall_mem_cons.mpr ⟨hr, has⟩)

end

theorem ensures_select (source : String) (extended : Bool) (hv : v.Within R) :
    Ensures (Value.Within R) (select source extended v) :=
  ensures_bind fun q => ensures_evaluate extended q v hv

end Query

end Clausewise
