import Clausewise.Proofs.Spec.Unfolding

/-! Specs some parts of which were compiled beforehand. A matcher is a spec that stands for itself, so neither that
nor the choice between lists and tuples changes what a spec compiles to. -/
namespace Clausewise

namespace Registry

/-- That a spec is obtained from another by replacing parts of it, or all of it, by the matchers that the registry
compiles for them, and lists by tuples or tuples by lists. What is compiled may itself have been changed before. -/
inductive PartlyCompiled (r : Registry) : Value → Value → Prop where
  | same (spec : Value) : PartlyCompiled r spec spec
  | sequence {spec : Value} {shape shape' : SequenceShape} {items : List (Value × Value)} :
      spec.expose = .sequence shape (items.map (·.1)) → shape'.isSpec = true →
      (∀ item ∈ items, PartlyCompiled r item.1 item.2) →
      PartlyCompiled r spec (.sequence shape' (items.map (·.2)))
  | mapping {spec : Value} {fields : List (Value × Value × Value)} :
      spec.expose = .mapping .plain (fields.map fun f => (f.1, f.2.1)) →
      (∀ f ∈ fields, PartlyCompiled r f.2.1 f.2.2) →
      PartlyCompiled r spec (.mapping .plain (fields.map fun f => (f.1, f.2.2)))
  | compiled {spec spec' : Value} {m : Matcher} :
      PartlyCompiled r spec spec' → (r.compile spec').result = .ok m → PartlyCompiled r spec (.matcher m)

variable {limit : Value} {maxDepth : Int} {spec spec' : Value} {m : Matcher}

/-- Neither what a spec stands for nor how deep it goes at most is changed. -/
theorem PartlyCompiled.endsWithin_and_ofSpec_eq (h : (builtIn limit maxDepth).PartlyCompiled spec spec') {levels : Nat}
    (hends : spec.EndsWithin levels) :
    spec'.EndsWithin levels ∧ Matcher.ofSpec limit spec' = .ofSpec limit spec := by
  induction h generalizing levels with
  | same spec => exact ⟨hends, rfl⟩
  | @sequence spec shape shape' items hspec hshape _ ih =>
    obtain ⟨fewer, rfl, hinside⟩ := hends.exists_fewer
    simp only [Value.inside, hspec, List.forall_mem_map] at hinside
    have hitems := fun item hi => ih item hi (hinside item hi)
    refine ⟨⟨⟨.sequence, by rw [Value.kind?_sequence, if_pos hshape]⟩, ?_⟩, ?_⟩
    · simp only [Value.parts, Value.expose, hshape, if_true, List.forall_mem_map]
      exact fun item hi => (hitems item hi).1
    · rw [← ofSpec_expose limit hends, hspec]
      simp only [Matcher.ofSpec, Matcher.ofSpecs_eq_map, List.map_map]
      exact congrArg Matcher.sequence (List.map_congr_left fun item hi => (hitems item hi).2)
  | @mapping spec fields hspec _ ih =>
    obtain ⟨fewer, rfl, hinside⟩ := hends.exists_fewer
    simp only [Value.inside, hspec, List.forall_mem_map] at hinside
    have hfields := fun f hf => ih f hf (hinside f hf)
    refine ⟨⟨⟨.mapping, rfl⟩, ?_⟩, ?_⟩
    · simp only [Value.parts, Value.expose, if_true, List.forall_mem_map]
      exact fun f hf => (hfields f hf).1
    · rw [← ofSpec_expose limit hends, hspec]
      simp only [Matcher.ofSpec, Matcher.ofFields_eq_map, List.map_map]
      exact congrArg Matcher.mapping (List.map_congr_left fun f hf => congrArg (f.1, ·) (hfields f hf).2)
  | compiled _ hm ih =>
    -- A matcher takes one level, which the spec had.
    obtain ⟨fewer, rfl, -⟩ := hends.exists_fewer
    refine ⟨⟨⟨.predicate, rfl⟩, fun part hpart => by cases hpart⟩, ?_⟩
    rw [Matcher.ofSpec, eq_ofSpec_of_compile hm, (ih hends).2]

/-- Compiling parts of a spec beforehand, and the choice between lists and tuples, do not matter. If the built-in
kinds compile a spec, they compile everything inside it on its own, and whatever parts, or all, of the spec are
replaced by their matchers, also one inside another, and whatever lists by tuples or tuples by lists, the result
compiles to the same matcher, so it ends on every value with the same verdict or the same failure. -/
theorem compile_of_partlyCompiled (h : ((builtIn limit maxDepth).compile spec).result = .ok m) :
    (∀ part, Relation.ReflTransGen Value.Holds spec part →
      ∃ m, ((builtIn limit maxDepth).compile part).result = .ok m) ∧
    ∀ spec', (builtIn limit maxDepth).PartlyCompiled spec spec' →
      ((builtIn limit maxDepth).compile spec').result = .ok m := by
  obtain ⟨hends, rfl⟩ := eq_ofSpec_of_compileWithin h
  constructor
  · intro part hpart
    refine ⟨_, result_compileWithin_of_endsWithin limit maxDepth 0 ?_⟩
    rcases Relation.reflTransGen_iff_eq_or_transGen.mp hpart with rfl | hinside
    · exact hends
    · obtain ⟨fewer, hfewer, hends⟩ := hends.of_transGen hinside
      exact hends.mono (Nat.le_of_lt hfewer)
  · intro spec' hspec'
    obtain ⟨hends', hmatcher⟩ := hspec'.endsWithin_and_ofSpec_eq hends
    rw [← hmatcher]
    exact result_compileWithin_of_endsWithin limit maxDepth 0 hends'

/-- A list in a mapping becomes a tuple with a class compiled beforehand, and then is itself compiled. -/
theorem compile_of_partlyCompiled_overlapping :
    let spec := Value.plainMapping [(.text "point", .list [.cls .int, .list []]), (.int 0, .list [.cls .str])]
    let point := Value.tuple [.matcher (.instanceOf [.int]), .list []]
    let spec' := Value.plainMapping
      [(.text "point", .matcher (.ofSpec usualLimit point)), (.int 0, .tuple [.matcher (.instanceOf [.str])])]
    ∃ m, ((builtIn usualLimit 2).compile spec).result = .ok m ∧
      ((builtIn usualLimit 2).compile spec').result = .ok m := by
  intro spec point spec'
  have hclass (c : Class) : (builtIn usualLimit 2).PartlyCompiled (.cls c) (.matcher (.instanceOf [c])) :=
    .compiled (.same _) <| result_compileWithin_of_endsWithin usualLimit 2 0
      ⟨⟨.constructor, rfl⟩, by simp [Value.parts, Value.expose]⟩
  have hpoint : (builtIn usualLimit 2).PartlyCompiled (.list [.cls .int, .list []]) point :=
    @PartlyCompiled.sequence _ _ .list .tuple [(.cls .int, _), (.list [], .list [])] rfl rfl
      (by simp [hclass, PartlyCompiled.same])
  have hstr : (builtIn usualLimit 2).PartlyCompiled (.list [.cls .str]) (.tuple [.matcher (.instanceOf [.str])]) :=
    @PartlyCompiled.sequence _ _ .list .tuple [(.cls .str, _)] rfl rfl (by simp [hclass])
  have hspec : (builtIn usualLimit 2).PartlyCompiled spec spec' :=
    @PartlyCompiled.mapping _ spec [(.text "point", _, _), (.int 0, _, _)] rfl
      (by simpa using ⟨.compiled hpoint (result_compile_of_passes rfl (by decide)), hstr⟩)
  have hcompiles : ((builtIn usualLimit 2).compile spec).result = .ok (.ofSpec usualLimit spec) :=
    result_compile_of_passes rfl (by decide)
  exact ⟨_, hcompiles, (compile_of_partlyCompiled hcompiles).2 spec' hspec⟩

end Registry

end Clausewise
