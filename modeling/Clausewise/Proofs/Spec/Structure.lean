import Clausewise.Proofs.Kind.Resolution

/-! The structure of specs: an induction over the containers inside a spec, the matcher that a spec stands for,
and the plan of each kind in terms of it. -/
namespace Clausewise

/-- Whether sequences of the shape are specs: lists and tuples are. -/
def SequenceShape.isSpec : SequenceShape → Bool
  | list | tuple | point => true
  | deque | wrappedList => false

namespace Value

/-- Whether the value is a sequence of items, a mapping with entries, or one of these that contains itself. -/
def isContainer : Value → Bool
  | sequence .. | mapping .. | cyclic _ => true
  | _ => false

/-- Induction over the containers inside a value, with every other value as a leaf. -/
@[elab_as_elim]
theorem containerInduction {motive : Value → Prop}
    (sequence : ∀ shape items, (∀ v ∈ items, motive v) → motive (.sequence shape items))
    (mapping : ∀ shape entries, (∀ e ∈ entries, motive e.2) → motive (.mapping shape entries))
    (cyclic : ∀ body, motive body → motive (.cyclic body))
    (leaf : ∀ v : Value, v.isContainer = false → motive v) : ∀ v, motive v
  | .sequence shape items =>
    sequence shape items fun v _ => containerInduction sequence mapping cyclic leaf v
  | .mapping shape entries =>
    mapping shape entries fun e _ => containerInduction sequence mapping cyclic leaf e.2
  | .cyclic body => cyclic body (containerInduction sequence mapping cyclic leaf body)
  | .null | .undefined | .bool _ | .number _ | .text _ | .derivedText _ | .kind _ | .bytes _ | .buffer ..
  | .range .. | .set .. | .layers _ | .moment .. | .object .. | .fault .. | .cls _ | .category _ | .function _
  | .regex _ | .matcher _ | .constant _ | .builder _ | .closed .. | .back _ => leaf _ rfl
termination_by v => sizeOf v
decreasing_by
  · have := List.sizeOf_lt_of_mem ‹v ∈ items›
    simp only [Value.sequence.sizeOf_spec]
    omega
  · have := List.sizeOf_lt_of_mem ‹e ∈ entries›
    have : sizeOf e.2 < sizeOf e := by
      obtain ⟨k, v⟩ := e
      simp only [Prod.mk.sizeOf_spec]
      omega
    simp only [Value.mapping.sizeOf_spec]
    omega
  · simp

theorem kind?_sequence (shape : SequenceShape) (items : List Value) :
    (sequence shape items).kind? = if shape.isSpec then some .sequence else none := by
  cases shape <;> rfl

theorem kind?_mapping (shape : MappingShape) (entries : List (Value × Value)) :
    (mapping shape entries).kind? = if shape = .plain then some .mapping else none := by
  cases shape <;> rfl

end Value

namespace Matcher

mutual

/-- The matcher that a spec stands for; `limit` is the time limit of searches. A container that contains itself
never compiles, so what stands here for it does not matter. -/
def ofSpec (limit : Value) : Value → Matcher
  | .sequence _ items => .sequence (ofSpecs limit items)
  | .mapping _ entries => .mapping (ofFields limit entries)
  | .cyclic body => ofSpec limit body
  | .regex p => .regex p limit
  | .cls c => .instanceOf [c]
  | .category c => .category c
  | .matcher m => m
  | spec => if spec.isLiteral then .literal spec else .predicate spec

/-- The matchers that the specs stand for. -/
def ofSpecs (limit : Value) : List Value → List Matcher
  | [] => []
  | spec :: specs => ofSpec limit spec :: ofSpecs limit specs

/-- The matchers that the specs under the keys stand for. -/
def ofFields (limit : Value) : List (Value × Value) → List (Value × Matcher)
  | [] => []
  | (key, spec) :: rest => (key, ofSpec limit spec) :: ofFields limit rest

end

@[simp] theorem ofSpecs_eq_map (limit : Value) (specs : List Value) :
    ofSpecs limit specs = specs.map (ofSpec limit) := by
  induction specs with
  | nil => rfl
  | cons spec specs ih => rw [ofSpecs, ih, List.map_cons]

@[simp] theorem ofFields_eq_map (limit : Value) (fields : List (Value × Value)) :
    ofFields limit fields = fields.map fun f => (f.1, ofSpec limit f.2) := by
  induction fields with
  | nil => rfl
  | cons f fields ih => rw [ofFields, ih, List.map_cons]

end Matcher

namespace KindName

/-- Outside containers, the plan of a spec's kind is done at once, with the matcher that the spec stands for. -/
theorem plan_of_kind? (limit : Value) {spec : Value} {k : KindName} (hleaf : spec.isContainer = false)
    (hk : spec.kind? = some k) : k.plan limit spec = .done (.ofSpec limit spec) := by
  have hacc : k.accepts spec = true := by simpa using List.find?_some hk
  cases k with
  | literal =>
    cases spec with
    | null | undefined | bool | number | text | derivedText | kind | bytes => rfl
    | _ => cases hacc
  | sequence =>
    cases spec with
    | sequence | cyclic => cases hleaf
    | _ => cases hacc
  | regex =>
    cases spec with
    | regex => rfl
    | _ => cases hacc
  | constructor =>
    cases spec with
    | cls => rfl
    | _ => cases hacc
  | category =>
    cases spec with
    | category => rfl
    | _ => cases hacc
  | mapping =>
    cases spec with
    | mapping | cyclic => cases hleaf
    | _ => cases hacc
  | predicate =>
    cases spec with
    | cls => cases hk
    | object | function | matcher | builder | closed => rfl
    | _ => cases hacc

end KindName

namespace Plan
variable {compile : Value → Outcome Matcher} {f : Value → Matcher} {m : Matcher}

/-- Asking for the matchers of specs is compiling them one after the other. -/
theorem run_each (compile : Value → Outcome Matcher) (specs : List Value) (next : List Matcher → Plan) :
    (each specs next).run compile = (specs.mapM compile).andThen fun ms => (next ms).run compile := by
  induction specs generalizing next with
  | nil => rfl
  | cons spec specs ih =>
    rw [each, run, List.mapM_cons]
    simp only [ih, Outcome.bind_eq_andThen, Outcome.pure_eq_ok, Outcome.andThen_assoc, Outcome.ok_andThen]

/-- A plan that asks for the matchers of specs, none of which has another matcher than `f` says, ends well only
if each has that one and the plan for them ends well. -/
theorem run_each_eq_ok {specs : List Value} {next : List Matcher → Plan}
    (hf : ∀ spec ∈ specs, ∀ m, (compile spec).result = .ok m → m = f spec)
    (h : ((each specs next).run compile).result = .ok m) :
    (∀ spec ∈ specs, (compile spec).result = .ok (f spec)) ∧
      ((next (specs.map f)).run compile).result = .ok m := by
  rw [run_each, Outcome.result_andThen_eq_ok_iff] at h
  obtain ⟨ms, hms, hnext⟩ := h
  obtain ⟨hall, rfl⟩ := Outcome.results_of_mapM hf hms
  exact ⟨hall, hnext⟩

/-- A plan that asks for the matchers of specs, all of which compile, ends as the plan for their matchers does. -/
theorem result_run_each {specs : List Value} (h : ∀ spec ∈ specs, (compile spec).result = .ok (f spec))
    (next : List Matcher → Plan) :
    ((each specs next).run compile).result = ((next (specs.map f)).run compile).result := by
  rw [run_each, Outcome.result_andThen, Outcome.result_mapM h]
  rfl

/-- Asking for the matchers under keys is asking for them one after the other, with the keys put back. -/
theorem eachField_eq_each (fields : List (Value × Value)) (next : List (Value × Matcher) → Plan) :
    eachField fields next = each (fields.map (·.2)) fun ms => next ((fields.map (·.1)).zip ms) := by
  induction fields generalizing next with
  | nil => rfl
  | cons f fields ih => simp only [eachField, each, ih, List.map_cons, List.zip_cons_cons]

theorem run_eachField_eq_ok {fields : List (Value × Value)} {next : List (Value × Matcher) → Plan}
    (hf : ∀ e ∈ fields, ∀ m, (compile e.2).result = .ok m → m = f e.2)
    (h : ((eachField fields next).run compile).result = .ok m) :
    (∀ e ∈ fields, (compile e.2).result = .ok (f e.2)) ∧
      ((next (fields.map fun e => (e.1, f e.2))).run compile).result = .ok m := by
  rw [eachField_eq_each] at h
  obtain ⟨hall, hnext⟩ := run_each_eq_ok (List.forall_mem_map.mpr hf) h
  rw [List.map_map, List.zip_map'] at hnext
  exact ⟨List.forall_mem_map.mp hall, hnext⟩

theorem result_run_eachField {fields : List (Value × Value)} (h : ∀ e ∈ fields, (compile e.2).result = .ok (f e.2))
    (next : List (Value × Matcher) → Plan) :
    ((eachField fields next).run compile).result = ((next (fields.map fun e => (e.1, f e.2))).run compile).result := by
  rw [eachField_eq_each, result_run_each (List.forall_mem_map.mpr h), List.map_map, List.zip_map']
  rfl

end Plan

end Clausewise
