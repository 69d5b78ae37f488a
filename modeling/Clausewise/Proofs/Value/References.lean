import Clausewise.Proofs.Spec.SelfReference
import Clausewise.Proofs.Value.Layers
import Clausewise.Proofs.Value.Sequence

/-! What values refer to without holding it, and that the parts of a value refer to nothing more than it does. -/
namespace Clausewise

/-- Something outside a value that what it does can depend on: a pattern under construction, by its number; whatever
stands under a handle; or the store of a mapping that look-ups through layers add entries to. -/
inductive Reference where
  | builder (id : Nat)
  | handle (name : String)
  | store
deriving DecidableEq

mutual

/-- The references anywhere in a value. A function refers to the handle that it was made for. -/
def Value.references : Value → List Reference
  | .builder id => [.builder id]
  | .function f => f.handle.toList.map .handle
  | .sequence _ items => Value.referencesOfAll items
  | .set _ elements => Value.referencesOfAll elements
  | .mapping _ entries => Value.referencesOfEntries entries
  | .layers maps => (if maps.any Value.isDefaulting then [.store] else []) ++ Value.referencesOfAll maps
  | .object _ _ own => Value.referencesOfAttributes own
  | .fault _ _ arguments own => Value.referencesOfAll arguments ++ Value.referencesOfAttributes own
  | .matcher m => m.references
  | .constant v => v.references
  | .closed _ clauses fallback =>
    Value.referencesOfClauses clauses ++
      match fallback with
      | some v => v.references
      | none => []
  | .cyclic body => body.references
  | _ => []

/-- The references of the values, one after the other. -/
def Value.referencesOfAll : List Value → List Reference
  | [] => []
  | v :: vs => v.references ++ Value.referencesOfAll vs

/-- The references of keys and values. -/
def Value.referencesOfEntries : List (Value × Value) → List Reference
  | [] => []
  | (k, v) :: rest => k.references ++ v.references ++ Value.referencesOfEntries rest

/-- The references of attributes. -/
def Value.referencesOfAttributes : List (String × Value) → List Reference
  | [] => []
  | (_, v) :: rest => v.references ++ Value.referencesOfAttributes rest

/-- The references of clauses, in their matchers and in their results. -/
def Value.referencesOfClauses : List (Matcher × Value) → List Reference
  | [] => []
  | (m, v) :: rest => m.references ++ v.references ++ Value.referencesOfClauses rest

/-- The references anywhere in a matcher. -/
def Matcher.references : Matcher → List Reference
  | .literal expected => expected.references
  | .sequence items => Matcher.referencesOfAll items
  | .mapping fields => Matcher.referencesOfFields fields
  | .regex _ limit => limit.references
  | .predicate callee => callee.references
  | .anyOf ms => Matcher.referencesOfAll ms
  | .allOf ms => Matcher.referencesOfAll ms
  | .negation inner => inner.references
  | .query _ _ inner => inner.references
  | .comparison _ bound => bound.references
  | .between low high => low.references ++ high.references
  | .equality expected => expected.references
  | _ => []

/-- The references of the matchers, one after the other. -/
def Matcher.referencesOfAll : List Matcher → List Reference
  | [] => []
  | m :: ms => m.references ++ Matcher.referencesOfAll ms

/-- The references of keys and the matchers under them. -/
def Matcher.referencesOfFields : List (Value × Matcher) → List Reference
  | [] => []
  | (k, m) :: rest => k.references ++ m.references ++ Matcher.referencesOfFields rest

end

section
variable {R : Reference → Prop}

/-- That a value has only references of some sort. -/
def Value.Within (R : Reference → Prop) (v : Value) : Prop := ∀ ref ∈ v.references, R ref

/-- That a matcher has only references of some sort. -/
def Matcher.Within (R : Reference → Prop) (m : Matcher) : Prop := ∀ ref ∈ m.references, R ref

namespace Value

theorem Within.mono {S : Reference → Prop} {v : Value} (h : v.Within R) (hincludes : ∀ ref, R ref → S ref) :
    v.Within S :=
  fun ref href => hincludes ref (h ref href)

theorem forall_referencesOfAll {vs : List Value} :
    (∀ ref ∈ referencesOfAll vs, R ref) ↔ ∀ v ∈ vs, v.Within R := by
  induction vs with
  | nil => exact ⟨nofun, nofun⟩
  | cons v vs ih =>
    rw [List.forall_mem_cons, ← ih]
    exact List.forall_mem_append

theorem forall_referencesOfEntries {entries : List (Value × Value)} :
    (∀ ref ∈ referencesOfEntries entries, R ref) ↔ ∀ e ∈ entries, e.1.Within R ∧ e.2.Within R := by
  induction entries with
  | nil => exact ⟨nofun, nofun⟩
  | cons e rest ih =>
    rw [List.forall_mem_cons, ← ih]
    exact List.forall_mem_append.trans (and_congr_left' List.forall_mem_append)

theorem forall_referencesOfAttributes {own : List (String × Value)} :
    (∀ ref ∈ referencesOfAttributes own, R ref) ↔ ∀ a ∈ own, a.2.Within R := by
  induction own with
  | nil => exact ⟨nofun, nofun⟩
  | cons a rest ih =>
    rw [List.forall_mem_cons, ← ih]
    exact List.forall_mem_append

theorem forall_referencesOfClauses {clauses : List Clause} :
    (∀ ref ∈ referencesOfClauses clauses, R ref) ↔ ∀ c ∈ clauses, c.1.Within R ∧ c.2.Within R := by
  induction clauses with
  | nil => exact ⟨nofun, nofun⟩
  | cons c rest ih =>
    rw [List.forall_mem_cons, ← ih]
    exact List.forall_mem_append.trans (and_congr_left' List.forall_mem_append)

theorem within_of_references_eq_nil {v : Value} (h : v.references = []) : v.Within R := by
  rw [Within, h]
  nofun

@[simp] theorem within_null : null.Within R := within_of_references_eq_nil rfl

@[simp] theorem within_undefined : undefined.Within R := within_of_references_eq_nil rfl

@[simp] theorem within_bool (b : Bool) : (bool b).Within R := within_of_references_eq_nil rfl

@[simp] theorem within_number (n : Number) : (number n).Within R := within_of_references_eq_nil rfl

@[simp] theorem within_text (s : String) : (text s).Within R := within_of_references_eq_nil rfl

@[simp] theorem within_bytes (content : List UInt8) : (bytes content).Within R := within_of_references_eq_nil rfl

@[simp] theorem within_buffer (shape : BufferShape) (content : List UInt8) : (buffer shape content).Within R :=
  within_of_references_eq_nil rfl

@[simp] theorem within_range (start stop step : Int) : (range start stop step).Within R :=
  within_of_references_eq_nil rfl

@[simp] theorem within_cls (c : Class) : (cls c).Within R := within_of_references_eq_nil rfl

@[simp] theorem within_category (c : Category) : (category c).Within R := within_of_references_eq_nil rfl

@[simp] theorem within_regex (p : RegexPattern) : (regex p).Within R := within_of_references_eq_nil rfl

@[simp] theorem within_builder {id : Nat} : (builder id).Within R ↔ R (.builder id) := List.forall_mem_singleton

@[simp] theorem within_function {f : FunctionName} :
    (function f).Within R ↔ ∀ name, f.handle = some name → R (.handle name) := by
  have hreferences : (function f).references = f.handle.toList.map .handle := rfl
  simp [Within, hreferences]

@[simp] theorem within_sequence {shape : SequenceShape} {items : List Value} :
    (sequence shape items).Within R ↔ ∀ v ∈ items, v.Within R := forall_referencesOfAll

@[simp] theorem within_set {frozen : Bool} {elements : List Value} :
    (set frozen elements).Within R ↔ ∀ v ∈ elements, v.Within R := forall_referencesOfAll

@[simp] theorem within_mapping {shape : MappingShape} {entries : List (Value × Value)} :
    (mapping shape entries).Within R ↔ ∀ e ∈ entries, e.1.Within R ∧ e.2.Within R := forall_referencesOfEntries

@[simp] theorem within_layers {maps : List Value} :
    (layers maps).Within R ↔ (maps.any isDefaulting = true → R .store) ∧ ∀ v ∈ maps, v.Within R := by
  refine List.forall_mem_append.trans (and_congr ?_ forall_referencesOfAll)
  split <;> simp [*]

@[simp] theorem within_object {id : Nat} {c : Class} {own : List (String × Value)} :
    (object id c own).Within R ↔ ∀ a ∈ own, a.2.Within R := forall_referencesOfAttributes

@[simp] theorem within_fault {id : Nat} {c : Class} {arguments : List Value} {own : List (String × Value)} :
    (fault id c arguments own).Within R ↔ (∀ v ∈ arguments, v.Within R) ∧ ∀ a ∈ own, a.2.Within R :=
  List.forall_mem_append.trans (and_congr forall_referencesOfAll forall_referencesOfAttributes)

@[simp] theorem within_matcher {m : Matcher} : (matcher m).Within R ↔ m.Within R := Iff.rfl

@[simp] theorem within_constant {v : Value} : (constant v).Within R ↔ v.Within R := Iff.rfl

@[simp] theorem within_closed {id : Nat} {clauses : List Clause} {fallback : Option Value} :
    (closed id clauses fallback).Within R ↔
      (∀ c ∈ clauses, c.1.Within R ∧ c.2.Within R) ∧ ∀ v, fallback = some v → v.Within R := by
  cases fallback with
  | none => exact List.forall_mem_append.trans (and_congr forall_referencesOfClauses ⟨nofun, nofun⟩)
  | some v => exact List.forall_mem_append.trans (and_congr forall_referencesOfClauses (by simp [Within]))

@[simp] theorem within_cyclic {body : Value} : (cyclic body).Within R ↔ body.Within R := Iff.rfl

end Value

namespace Matcher

@[simp] theorem within_sequence {items : List Matcher} : (sequence items).Within R ↔ ∀ m ∈ items, m.Within R := by
  induction items with
  | nil => exact ⟨nofun, nofun⟩
  | cons m ms ih =>
    rw [List.forall_mem_cons, ← ih]
    exact List.forall_mem_append

@[simp] theorem within_anyOf {ms : List Matcher} : (anyOf ms).Within R ↔ ∀ m ∈ ms, m.Within R :=
  within_sequence

@[simp] theorem within_allOf {ms : List Matcher} : (allOf ms).Within R ↔ ∀ m ∈ ms, m.Within R :=
  within_sequence

@[simp] theorem within_mapping {fields : List (Value × Matcher)} :
    (mapping fields).Within R ↔ ∀ f ∈ fields, f.1.Within R ∧ f.2.Within R := by
  induction fields with
  | nil => exact ⟨nofun, nofun⟩
  | cons f rest ih =>
    rw [List.forall_mem_cons, ← ih]
    exact List.forall_mem_append.trans (and_congr_left' List.forall_mem_append)

@[simp] theorem within_literal {expected : Value} : (literal expected).Within R ↔ expected.Within R := Iff.rfl

@[simp] theorem within_predicate {callee : Value} : (predicate callee).Within R ↔ callee.Within R := Iff.rfl

@[simp] theorem within_negation {inner : Matcher} : (negation inner).Within R ↔ inner.Within R := Iff.rfl

@[simp] theorem within_query {source : String} {extended : Bool} {inner : Matcher} :
    (query source extended inner).Within R ↔ inner.Within R := Iff.rfl

@[simp] theorem within_regex {pattern : RegexPattern} {limit : Value} :
    (regex pattern limit).Within R ↔ limit.Within R := Iff.rfl

@[simp] theorem within_comparison {c : Comparison} {bound : Value} :
    (comparison c bound).Within R ↔ bound.Within R := Iff.rfl

@[simp] theorem within_between {low high : Value} :
    (between low high).Within R ↔ low.Within R ∧ high.Within R := List.forall_mem_append

@[simp] theorem within_equality {expected : Value} : (equality expected).Within R ↔ expected.Within R := Iff.rfl

end Matcher

namespace Value
variable {v w k : Value} {entries : List (Value × Value)}

theorem within_substitute {whole : Value} (hwhole : whole.Within R) {level : Nat} (hv : v.Within R) :
    (substitute whole level v).Within R := by
  induction v using containerInduction generalizing level with
  | sequence shape items ih =>
    rw [substitute, substituteItems_eq_map, within_sequence, List.forall_mem_map]
    exact fun item hitem => ih item hitem (within_sequence.mp hv item hitem)
  | mapping shape entries ih =>
    rw [substitute, substituteEntries_eq_map, within_mapping, List.forall_mem_map]
    exact fun e he => ⟨(within_mapping.mp hv e he).1, ih e he (within_mapping.mp hv e he).2⟩
  | cyclic body ih =>
    rw [substitute, within_cyclic]
    exact ih (within_cyclic.mp hv)
  | leaf v hleaf =>
    cases v with
    | back n =>
      rw [substitute]
      split
      · exact hwhole
      · exact hv
    | sequence | mapping | cyclic => cases hleaf
    | _ => exact hv

theorem within_expose (hv : v.Within R) : v.expose.Within R := by
  cases v with
  | cyclic body => exact within_substitute hv (within_cyclic.mp hv)
  | _ => exact hv

theorem within_items? {items : List Value} (hv : v.Within R) (h : v.items? = some items) :
    ∀ item ∈ items, item.Within R := by
  have hexpose := within_expose hv
  unfold items? at h
  split at h
  · rename_i hshape
    obtain rfl := Option.some.inj h
    rw [hshape] at hexpose
    exact within_sequence.mp hexpose
  · obtain rfl := Option.some.inj h
    simp
  · obtain rfl := Option.some.inj h
    simp
  · cases h

theorem within_item? {i : Nat} (hv : v.Within R) (h : v.item? i = some w) : w.Within R := by
  rw [item?_eq_bind_items?] at h
  obtain ⟨items, hitems, hi⟩ := Option.bind_eq_some_iff.mp h
  exact within_items? hv hitems w (List.mem_of_getElem? hi)

theorem within_insertEntry (hk : k.Within R) (hv : v.Within R)
    (hentries : ∀ e ∈ entries, e.1.Within R ∧ e.2.Within R) :
    ∀ e ∈ insertEntry k v entries, e.1.Within R ∧ e.2.Within R := by
  induction entries with
  | nil => exact List.forall_mem_singleton.mpr ⟨hk, hv⟩
  | cons first rest ih =>
    obtain ⟨hfirst, hrest⟩ := List.forall_mem_cons.mp hentries
    rw [insertEntry]
    split
    · exact List.forall_mem_cons.mpr ⟨⟨hfirst.1, hv⟩, hrest⟩
    · exact List.forall_mem_cons.mpr ⟨hfirst, ih hrest⟩

theorem within_collectEntries (hentries : ∀ e ∈ entries, e.1.Within R ∧ e.2.Within R) :
    ∀ e ∈ collectEntries entries, e.1.Within R ∧ e.2.Within R :=
  List.foldlRecOn (motive := fun acc : List (Value × Value) => ∀ e ∈ acc, e.1.Within R ∧ e.2.Within R)
    entries _ nofun
    fun _ hacc e he => within_insertEntry (hentries e he).1 (hentries e he).2 hacc

theorem within_lookup (hentries : ∀ e ∈ entries, e.1.Within R ∧ e.2.Within R) (h : lookup entries k = some w) :
    w.Within R := by
  obtain ⟨e, he, -, rfl⟩ := exists_mem_of_lookup h
  exact (hentries e he).2

theorem within_ownEntries (hv : v.Within R) : ∀ e ∈ v.ownEntries, e.1.Within R ∧ e.2.Within R := by
  have hexpose := within_expose hv
  unfold ownEntries
  split
  · rename_i hshape
    rw [hshape] at hexpose
    exact within_mapping.mp hexpose
  · nofun

theorem within_ownAnswer? (hv : v.Within R) (h : v.ownAnswer? k = some w) : w.Within R := by
  have hexpose := within_expose hv
  have hdefault {entries : List (Value × Value)} (hentries : ∀ e ∈ entries, e.1.Within R ∧ e.2.Within R) :
      ((lookup entries k).getD (int 0)).Within R := by
    cases hlookup : lookup entries k with
    | none => simp
    | some x => exact within_lookup hentries hlookup
  unfold ownAnswer? at h
  split at h
  · rename_i hshape
    obtain rfl := Option.some.inj h
    rw [hshape] at hexpose
    exact hdefault (within_mapping.mp hexpose)
  · rename_i hshape
    obtain rfl := Option.some.inj h
    rw [hshape] at hexpose
    exact hdefault (within_mapping.mp hexpose)
  · rename_i hshape
    rw [hshape] at hexpose
    exact within_lookup (within_mapping.mp hexpose) h
  · cases h

theorem within_answer? (hv : v.Within R) (h : v.answer? k = some w) : w.Within R := by
  induction v using layersInduction with
  | layers maps ih =>
    rw [answer?, firstAnswer?_eq_findSome?] at h
    obtain ⟨m, hm, hanswer⟩ := List.exists_of_findSome?_eq_some h
    exact ih m hm ((within_layers.mp hv).2 m hm) hanswer
  | leaf v hleaf =>
    rw [answer?_of_ne_layers hleaf] at h
    exact within_ownAnswer? hv h

theorem within_mappingEntries (hv : v.Within R) : ∀ e ∈ v.mappingEntries, e.1.Within R ∧ e.2.Within R := by
  induction v using layersInduction with
  | layers maps ih =>
    rw [mappingEntries, List.forall_mem_map]
    have hcollected : ∀ e ∈ collectEntries (stackedEntries maps), e.1.Within R ∧ e.2.Within R := by
      apply within_collectEntries
      intro e he
      obtain ⟨m, hm, he⟩ := mem_stackedEntries.mp he
      exact ih m hm ((within_layers.mp hv).2 m hm) e he
    intro e he
    refine ⟨(hcollected e he).1, ?_⟩
    cases hanswer : firstAnswer? maps e.1 with
    | none => exact (hcollected e he).2
    | some x => exact within_answer? (v := layers maps) hv hanswer
  | leaf v hleaf =>
    rw [mappingEntries_of_ne_layers hleaf]
    exact within_ownEntries hv

theorem within_entries? (hv : v.Within R) (h : v.entries? = some entries) :
    ∀ e ∈ entries, e.1.Within R ∧ e.2.Within R := by
  have hexpose := within_expose hv
  unfold entries? at h
  split at h
  · rename_i hshape
    obtain rfl := Option.some.inj h
    rw [hshape] at hexpose
    exact within_mapping.mp hexpose
  · rename_i maps hshape
    obtain rfl := Option.some.inj h
    rw [hshape] at hexpose
    exact within_mappingEntries hexpose
  · cases h

theorem within_matcherAttributes {m : Matcher} (hm : m.Within R) : ∀ a ∈ matcherAttributes m, a.2.Within R := by
  cases m with
  | mapping fields =>
    refine List.forall_mem_singleton.mpr (within_sequence.mpr (List.forall_mem_map.mpr fun f hf => ?_))
    simpa using Matcher.within_mapping.mp hm f hf
  | category c => cases c <;> simp [matcherAttributes, membershipTest]
  | query source extended inner => cases extended <;> simpa [matcherAttributes] using hm
  | always | instanceOf | verdict | depth => simp [matcherAttributes]
  | _ => simpa [matcherAttributes] using hm

theorem within_attributes (hv : v.Within R) : ∀ a ∈ v.attributes, a.2.Within R := by
  cases v with
  | object => exact within_object.mp hv
  | fault => exact (within_fault.mp hv).2
  | matcher m => exact within_matcherAttributes hv
  | constant v => exact List.forall_mem_singleton.mpr hv
  | cls c =>
    rw [attributes]
    split
    · rintro a ha
      simp only [List.cons_append, List.mem_cons, List.mem_append, List.mem_map, List.not_mem_nil, or_false] at ha
      obtain rfl | ⟨e, -, rfl⟩ | rfl := ha <;> simp
    · nofun
  | category c => simp [attributes]
  | _ => nofun

/-- Whatever a pattern finds under a key of a value refers to nothing more than the value does. -/
theorem within_entry? (hv : v.Within R) (h : v.entry? k = some w) : w.Within R := by
  unfold entry? at h
  split at h
  · rename_i hentries
    exact within_lookup (within_entries? hv hentries) h
  · obtain ⟨i, -, hi⟩ := Option.bind_eq_some_iff.mp h
    exact within_item? hv hi
  · obtain ⟨e, he, -, rfl⟩ := exists_mem_of_lookup h
    obtain ⟨a, ha, rfl⟩ := List.mem_map.mp he
    exact within_attributes hv a ha

end Value

end

end Clausewise
