import Clausewise.Proofs.Match.Correspondence
import Clausewise.Proofs.Ensures
import Clausewise.Proofs.Value.Display
import Clausewise.Stock.Functions

/-! The ready-made functions and classes reach no patterns but those that they and their arguments refer to. -/
namespace Clausewise
variable {R D : Reference → Prop} {v w : Value} {items arguments : List Value}

namespace Value

theorem within_iterate? (hv : v.Within R) (h : v.iterate? = some items) : ∀ item ∈ items, item.Within R := by
  have hexpose := within_expose hv
  unfold iterate? at h
  split at h
  · obtain rfl := Option.some.inj h
    simp [characters]
  · obtain rfl := Option.some.inj h
    simp [characters]
  · obtain rfl := Option.some.inj h
    simp [characters]
  · obtain rfl := Option.some.inj h
    simp [octets]
  · obtain rfl := Option.some.inj h
    simp [octets]
  · obtain rfl := Option.some.inj h
    simp [octets]
  · cases h
  · rename_i hshape
    obtain rfl := Option.some.inj h
    rw [hshape] at hexpose
    exact within_set.mp hexpose
  · split at h
    · rename_i entries _ hentries
      obtain rfl := Option.some.inj h
      exact List.forall_mem_map.mpr fun e he => (within_entries? hexpose hentries e he).1
    · exact within_items? hexpose h

theorem ensures_ofNumber (o : Except NumberFault Number) : Ensures (Within R) (ofNumber o) := by
  cases o with
  | ok n => exact ensures_ok (within_number n)
  | error e => exact ensures_error _

theorem ensures_sub (a b : Value) : Ensures (Within R) (a.sub b) := by
  unfold sub
  split
  · exact ensures_ofNumber _
  · exact ensures_error _

theorem ensures_add (hv : v.Within R) (hw : w.Within R) : Ensures (Within R) (v.add w) := by
  have happend {shape shape' : SequenceShape} {xs ys : List Value} (h : v.expose = sequence shape xs)
      (h' : w.expose = sequence shape' ys) : ∀ item ∈ xs ++ ys, item.Within R := by
    have hxs := within_expose hv
    have hys := within_expose hw
    rw [h] at hxs
    rw [h'] at hys
    exact List.forall_mem_append.mpr ⟨within_sequence.mp hxs, within_sequence.mp hys⟩
  unfold add
  split
  · exact ensures_ofNumber _
  · exact ensures_ok (within_text _)
  · split
    · exact ensures_ok (within_bytes _)
    case h_10 => exact ensures_error _
    all_goals exact ensures_ok (within_sequence.mpr (happend ‹_› ‹_›))

end Value

namespace Action

theorem within_ofExcept {o : Except Failure Value} (h : Ensures (Value.Within R) o) : (ofExcept o).Within R D := by
  cases o with
  | ok v => exact h v rfl
  | error e => trivial

end Action

namespace Stock
variable {handle : String}

theorem within_isEven (v : Value) : (isEven v).Within R D := by
  unfold isEven
  split
  · exact Value.within_bool _
  · exact Value.within_bool _
  · trivial

theorem within_callLess (hhandle : R (.handle handle)) (v : Value) (less : Int) {next : Value → Action}
    (hnext : ∀ w, w.Within R → (next w).Within R D) : (callLess handle v less next).Within R D := by
  refine ⟨hhandle, fun pattern hpattern => ?_⟩
  have hsub := Value.ensures_sub (R := D) v (.int less)
  split
  · rename_i argument hargument
    exact ⟨hpattern, List.forall_mem_singleton.mpr (hsub argument hargument), hnext⟩
  · trivial

theorem within_sumOverItems (hhandle : R (.handle handle)) {sum : Value} (hitems : ∀ item ∈ items, item.Within D)
    (hsum : sum.Within R) : (sumOverItems handle items sum).Within R D := by
  induction items generalizing sum with
  | nil => exact hsum
  | cons item items ih =>
    obtain ⟨hitem, hrest⟩ := List.forall_mem_cons.mp hitems
    refine ⟨hhandle, fun pattern hpattern => ⟨hpattern, List.forall_mem_singleton.mpr hitem, fun answer hanswer => ?_⟩⟩
    have hadd := Value.ensures_add hsum hanswer
    dsimp only
    split
    · rename_i total htotal
      exact ih hrest (hadd total htotal)
    · trivial

theorem within_patternMeaning (hhandle : R (.handle handle)) (name : String)
    (harguments : ∀ v ∈ arguments, v.Within D) : (patternMeaning name handle arguments).Within R D := by
  unfold patternMeaning
  split
  · exact within_callLess hhandle _ 1 fun a ha => within_callLess hhandle _ 2 fun b hb =>
      Action.within_ofExcept (Value.ensures_add ha hb)
  · rename_i v
    have hv := harguments v List.mem_cons_self
    unfold sumOverAll
    split
    · rename_i items hitems
      exact within_sumOverItems hhandle (Value.within_iterate? hv hitems) (Value.within_number _)
    · trivial
  · exact ⟨hhandle, fun pattern hpattern => ⟨hpattern, harguments, fun answer hanswer => hanswer⟩⟩
  · trivial

theorem within_unaryMeaning (name : String) (hv : v.Within R) : (unaryMeaning name v).Within R D := by
  unfold unaryMeaning
  split
  case h_3 => exact within_isEven v
  case h_6 => exact Value.within_mapping.mpr (List.forall_mem_singleton.mpr ⟨Value.within_text _, hv⟩)
  case h_7 =>
    refine Action.within_ofExcept ?_
    cases v.measure with
    | ok n => exact ensures_ok (Value.within_number _)
    | error e => exact ensures_error e
  case h_4 | h_5 | h_11 => trivial
  case h_8 | h_9 | h_10 => exact Value.within_bool _
  all_goals exact hv

theorem within_variadicMeaning (name : String) (harguments : ∀ v ∈ arguments, v.Within R) {action : Action}
    (h : variadicMeaning name arguments = some action) : action.Within R D := by
  unfold variadicMeaning at h
  split at h
  case h_9 => cases h
  all_goals obtain rfl := Option.some.inj h
  case h_1 => split <;> trivial
  case h_2 => exact Value.within_sequence.mpr (List.forall_mem_nil _)
  case h_4 => exact Value.within_sequence.mpr harguments
  case h_6 =>
    split
    · rename_i v hv
      exact harguments v (List.mem_of_getLast? hv)
    · trivial
  case h_7 => exact Value.within_undefined
  case h_8 => exact Value.within_function.mpr (by simp)
  all_goals exact Value.within_number _

theorem within_meaning (hincludes : ∀ ref, D ref → R ref) {f : FunctionName} (hf : (Value.function f).Within R)
    (harguments : ∀ v ∈ arguments, v.Within D) : (meaning f arguments).Within R D := by
  have hreach : ∀ v ∈ arguments, v.Within R := fun v hv => (harguments v hv).mono hincludes
  unfold meaning
  split
  · rename_i handle hhandle
    exact within_patternMeaning (Value.within_function.mp hf handle hhandle) f.name harguments
  · rename_i action _ _ haction
    exact within_variadicMeaning f.name hreach haction
  · exact within_unaryMeaning f.name (hreach _ List.mem_cons_self)
  · trivial

section
variable {α : Type} {build : α → Value}

theorem ensures_orUnusable_map (hbuild : ∀ a, (build a).Within R) (o : Option α) :
    Ensures (Value.Within R) (orUnusable (o.map build)) := by
  cases o with
  | none => exact ensures_error _
  | some a => exact ensures_ok (hbuild a)

theorem ensures_map {o : Except Failure α} (hbuild : ∀ a, (build a).Within R) :
    Ensures (Value.Within R) (o.map build) := by
  cases o with
  | error e => exact ensures_error e
  | ok a => exact ensures_ok (hbuild a)

end

theorem ensures_createInt (v : Value) : Ensures (Value.Within R) (createInt v) := by
  have htruncated (x : Extended) : Ensures (Value.Within R) (truncated x) := by
    unfold truncated
    split
    · exact ensures_ok (Value.within_number _)
    · exact ensures_error _
    · exact ensures_error _
  unfold createInt
  split
  · exact ensures_error _
  · exact htruncated _
  · exact ensures_orUnusable_map (fun _ => Value.within_number _) _
  · exact ensures_orUnusable_map (fun _ => Value.within_number _) _
  · exact ensures_error _

theorem ensures_createIntInBase (v base : Value) : Ensures (Value.Within R) (createIntInBase v base) := by
  unfold createIntInBase
  split
  · split
    · exact ensures_orUnusable_map (fun _ => Value.within_number _) _
    · exact ensures_error _
  · exact ensures_error _

theorem ensures_createFloat (v : Value) : Ensures (Value.Within R) (createFloat v) := by
  unfold createFloat
  split
  · exact ensures_map fun _ => Value.within_number _
  · exact ensures_orUnusable_map (fun _ => Value.within_number _) _
  · exact ensures_orUnusable_map (fun _ => Value.within_number _) _
  · exact ensures_error _

theorem ensures_createDecimal (v : Value) : Ensures (Value.Within R) (createDecimal v) := by
  unfold createDecimal
  split
  · exact ensures_ok (Value.within_number _)
  · exact ensures_ok (Value.within_number _)
  · exact ensures_ok (Value.within_number _)
  · split
    · exact ensures_ok (Value.within_number _)
    · exact ensures_error _
  · split <;> exact ensures_error _

theorem ensures_createComplex (v : Value) : Ensures (Value.Within R) (createComplex v) := by
  unfold createComplex
  split
  · exact ensures_ok (Value.within_number _)
  · exact ensures_map fun _ => Value.within_number _
  · exact ensures_orUnusable_map (fun _ => Value.within_number _) _
  · exact ensures_error _

theorem ensures_createFraction (v : Value) : Ensures (Value.Within R) (createFraction v) := by
  unfold createFraction
  split
  · exact ensures_error _
  · split
    · exact ensures_ok (Value.within_number _)
    · exact ensures_error _
    · exact ensures_error _
  · exact ensures_orUnusable_map (fun _ => Value.within_number _) _
  · exact ensures_error _

theorem ensures_createFrom {build : List Value → Value}
    (hbuild : ∀ items, (∀ item ∈ items, item.Within R) → (build items).Within R) (hv : v.Within R) :
    Ensures (Value.Within R) (createFrom build v) := by
  unfold createFrom
  split
  · rename_i items hitems
    exact ensures_ok (hbuild items (Value.within_iterate? hv hitems))
  · exact ensures_error _

theorem within_collectElements (hitems : ∀ item ∈ items, item.Within R) :
    ∀ item ∈ Value.collectElements items, item.Within R :=
  List.foldlRecOn (motive := fun elements : List Value => ∀ item ∈ elements, item.Within R) items _
    (List.forall_mem_nil _) fun elements helements item hitem => by
      unfold Value.insertElement
      split
      · exact helements
      · exact List.forall_mem_append.mpr ⟨helements, List.forall_mem_singleton.mpr (hitems item hitem)⟩

theorem ensures_createSet (frozen : Bool) (hv : v.Within R) : Ensures (Value.Within R) (createSet frozen v) := by
  unfold createSet
  split
  · rename_i items hitems
    split
    · exact ensures_ok (Value.within_set.mpr (within_collectElements (Value.within_iterate? hv hitems)))
    · exact ensures_error _
  · exact ensures_error _

theorem ensures_pairOf (hv : v.Within R) : Ensures (fun e => e.1.Within R ∧ e.2.Within R) (pairOf v) := by
  unfold pairOf
  split
  · rename_i k w hitems
    have hpair := Value.within_iterate? hv hitems
    split
    · exact ensures_ok ⟨hpair k (by simp), hpair w (by simp)⟩
    · exact ensures_error _
  · exact ensures_error _
  · exact ensures_error _

theorem ensures_createMapping (shape : MappingShape) (hv : v.Within R) :
    Ensures (Value.Within R) (createMapping shape v) := by
  unfold createMapping
  split
  · rename_i entries _ hentries
    exact ensures_ok (Value.within_mapping.mpr (Value.within_collectEntries (Value.within_entries? hv hentries)))
  · rename_i items hitems _
    have hpairs := fun item hitem => ensures_pairOf (Value.within_iterate? hv hitems item hitem)
    exact (ensures_mapM hpairs).bind fun entries hentries =>
      ensures_ok (Value.within_mapping.mpr (Value.within_collectEntries hentries))
  · exact ensures_error _

theorem within_countsOf (hitems : ∀ item ∈ items, item.Within R) :
    ∀ e ∈ countsOf items, e.1.Within R ∧ e.2.Within R :=
  List.foldlRecOn (motive := fun counts : List (Value × Value) => ∀ e ∈ counts, e.1.Within R ∧ e.2.Within R) items _
    (List.forall_mem_nil _) fun _ hcounts item hitem =>
      Value.within_insertEntry (hitems item hitem) (Value.within_number _) hcounts

theorem ensures_createCounter (hv : v.Within R) : Ensures (Value.Within R) (createCounter v) := by
  unfold createCounter
  split
  · exact ensures_ok (Value.within_mapping.mpr (List.forall_mem_nil _))
  · rename_i hentries
    exact ensures_ok (Value.within_mapping.mpr (Value.within_entries? hv hentries))
  · rename_i hitems _
    split
    · exact ensures_ok (Value.within_mapping.mpr (within_countsOf (Value.within_iterate? hv hitems)))
    · exact ensures_error _
  · exact ensures_error _

theorem ensures_createBytes {build : List UInt8 → Value} (hbuild : ∀ content, (build content).Within R) (v : Value) :
    Ensures (Value.Within R) (createBytes build v) := by
  unfold createBytes
  split
  · split
    · exact ensures_error _
    · exact ensures_ok (hbuild _)
  · exact ensures_error _
  · exact ensures_error _
  · split
    · exact ensures_ok (hbuild _)
    · exact ensures_error _
    · exact ensures_bind fun content => ensures_ok (hbuild content)
    · exact ensures_error _

theorem ensures_createRange (start stop step : Int) : Ensures (Value.Within R) (createRange start stop step) := by
  unfold createRange
  split
  · exact ensures_error _
  · exact ensures_ok (Value.within_range _ _ _)

theorem ensures_createCategory (v : Value) : Ensures (Value.Within R) (createCategory v) := by
  unfold createCategory
  split
  · exact ensures_ok (Value.within_category _)
  · exact ensures_orUnusable_map Value.within_category _

theorem ensures_createText (summaries : Nat → BuilderSummary) (v : Value) :
    Ensures (Value.Within R) (createText summaries v) := by
  unfold createText
  split
  · exact ensures_error _
  · exact ensures_ok (Value.within_text _)

theorem ensures_createOfOne (summaries : Nat → BuilderSummary) (c : Class) (hv : v.Within R) :
    Ensures (Value.Within R) (createOfOne summaries c v) := by
  unfold createOfOne
  split
  · exact ensures_ok (Value.within_bool _)
  · exact ensures_createText summaries v
  · exact ensures_createInt v
  · exact ensures_createFloat v
  · exact ensures_createComplex v
  · exact ensures_createDecimal v
  · exact ensures_createFraction v
  · exact ensures_createFrom (fun _ => Value.within_sequence.mpr) hv
  · exact ensures_createFrom (fun _ => Value.within_sequence.mpr) hv
  · exact ensures_createFrom (fun _ => Value.within_sequence.mpr) hv
  · split
    · exact ensures_ok (Value.within_sequence.mpr (List.forall_mem_nil _))
    · exact ensures_createFrom (fun _ => Value.within_sequence.mpr) hv
  · exact ensures_createSet false hv
  · exact ensures_createSet true hv
  · exact ensures_createMapping .plain hv
  · exact ensures_createMapping .ordered hv
  · exact ensures_createCounter hv
  · split
    · exact ensures_ok (Value.within_mapping.mpr (List.forall_mem_nil _))
    · exact ensures_createMapping .wrapped hv
  · split
    · rename_i hentries
      exact ensures_ok (Value.within_mapping.mpr (Value.within_entries? hv hentries))
    · exact ensures_error _
  · exact ensures_createBytes Value.within_bytes v
  · exact ensures_createBytes (Value.within_buffer .array) v
  · split
    · exact ensures_ok (Value.within_buffer _ _)
    · exact ensures_ok (Value.within_buffer _ _)
    · exact ensures_error _
    · exact ensures_ok (Value.within_buffer _ _)
    · exact ensures_error _
  · split
    · exact ensures_createRange _ _ _
    · exact ensures_error _
  · exact ensures_ok (Value.within_cls _)
  · exact ensures_createCategory v
  · exact ensures_error _

theorem ensures_createOfMany (c : Class) (arguments : List Value) :
    Ensures (Value.Within R) (createOfMany c arguments) := by
  unfold createOfMany
  split
  · exact ensures_createIntInBase _ _
  · split
    · exact ensures_createRange _ _ _
    · exact ensures_error _
  · split
    · exact ensures_createRange _ _ _
    · exact ensures_error _
  · exact ensures_error _

/-- The exceptions of this library are about one value each, with a message and the value under a key. -/
theorem eq_faultAbout_of_createOwnFault? {summaries : Nat → BuilderSummary} {id : Nat} {c : Class}
    {about v : Value} (h : createOwnFault? summaries id c about = some v) :
    ∃ message key, v = faultAbout id c message key about := by
  have hmake {message : Option String} {key : String}
      (h : (message.map fun message => faultAbout id c message key about) = some v) :
      ∃ message key, v = faultAbout id c message key about := by
    obtain ⟨text, -, rfl⟩ := Option.map_eq_some_iff.mp h
    exact ⟨text, key, rfl⟩
  unfold createOwnFault? at h
  dsimp only at h
  split at h
  · exact hmake h
  · exact hmake h
  · exact hmake h
  · cases h

theorem within_createOwnFault? {summaries : Nat → BuilderSummary} {id : Nat} {c : Class} (hv : v.Within R)
    (h : createOwnFault? summaries id c v = some w) : w.Within R := by
  obtain ⟨message, key, rfl⟩ := eq_faultAbout_of_createOwnFault? h
  exact Value.within_fault.mpr ⟨List.forall_mem_singleton.mpr (Value.within_text _), List.forall_mem_singleton.mpr hv⟩

theorem ensures_createFault (summaries : Nat → BuilderSummary) (id : Nat) (c : Class)
    (harguments : ∀ v ∈ arguments, v.Within R) :
    Ensures (Value.Within R) (createFault summaries id c arguments []) := by
  unfold createFault
  split
  · split
    · rename_i about
      split
      · exact ensures_error _
      · rename_i id c arguments own _ hown
        have hfault := within_createOwnFault? (harguments about List.mem_cons_self) hown
        obtain ⟨harguments, hown⟩ := Value.within_fault.mp hfault
        rw [List.append_nil]
        exact ensures_ok (Value.within_fault.mpr ⟨harguments, hown⟩)
      · exact ensures_error _
    · exact ensures_error _
  · exact ensures_ok (Value.within_fault.mpr ⟨harguments, List.forall_mem_nil _⟩)

theorem ensures_create (summaries : Nat → BuilderSummary) (c : Class) (harguments : ∀ v ∈ arguments, v.Within R) :
    Ensures (Value.Within R) (create summaries c arguments) := by
  unfold create
  split
  · exact ensures_error _
  · split
    · exact ensures_createFault summaries 0 c harguments
    · split
      · exact ensures_error _
      · split
        · exact ensures_createOfOne summaries c (harguments _ List.mem_cons_self)
        · exact ensures_createOfMany c _

section
variable {summaries summaries' : Nat → BuilderSummary} (h : ∀ id, R (.builder id) → summaries' id = summaries id)
include h

theorem createOwnFault?_congr (id : Nat) (c : Class) (hv : v.Within R) :
    createOwnFault? summaries' id c v = createOwnFault? summaries id c v := by
  simp only [createOwnFault?, Failure.message, Value.display_congr h hv, Value.plain_congr h hv]

theorem createFault_congr (id : Nat) (c : Class) (own : List (String × Value))
    (harguments : ∀ v ∈ arguments, v.Within R) :
    createFault summaries' id c arguments own = createFault summaries id c arguments own := by
  unfold createFault
  split
  · split
    · rw [createOwnFault?_congr h id c (harguments _ List.mem_cons_self)]
    · rfl
  · rfl

theorem createText_congr (hv : v.Within R) : createText summaries' v = createText summaries v := by
  rw [createText, createText, Value.plain_congr h hv]

theorem createOfOne_congr (c : Class) (hv : v.Within R) : createOfOne summaries' c v = createOfOne summaries c v := by
  unfold createOfOne
  rw [createText_congr h hv]

theorem create_congr (c : Class) (harguments : ∀ v ∈ arguments, v.Within R) :
    create summaries' c arguments = create summaries c arguments := by
  unfold create
  split
  · rfl
  · split
    · exact createFault_congr h 0 c [] harguments
    · split
      · rfl
      · split
        · exact createOfOne_congr h c (harguments _ List.mem_cons_self)
        · rfl

end

/-- Within references of any sort, the ready-made functions and classes reach nothing beyond these. -/
theorem library_containedIn (hincludes : ∀ ref, D ref → R ref) : library.ContainedIn R D where
  meaning _ _ hf harguments := within_meaning hincludes hf harguments
  create summaries c _ harguments := ensures_create summaries c fun v hv => (harguments v hv).mono hincludes
  create_congr _ _ c _ harguments h := create_congr h c harguments
  selects source extended _ hv := Query.ensures_select source extended hv

end Stock

end Clausewise
