import Clausewise.Proofs.Spec.Structure

/-! Specs that contain themselves. Within any number of levels only specs that do not refer back to a container
around them compile, so a spec that compiles has the matcher that it stands for. -/
namespace Clausewise

namespace Value

/-- The specs directly inside a spec that compiling asks for. -/
def parts (spec : Value) : List Value :=
  match spec.expose with
  | .sequence shape items => if shape.isSpec then items else []
  | .mapping shape entries => if shape = .plain then entries.map (·.2) else []
  | _ => []

/-- Whether compiling a spec ends within so many levels, each of which is accepted by a kind. -/
def EndsWithin : Nat → Value → Prop
  | 0, _ => False
  | levels + 1, spec => (∃ k, spec.kind? = some k) ∧ ∀ part ∈ spec.parts, EndsWithin levels part

theorem EndsWithin.mono {levels levels' : Nat} {spec : Value} (h : EndsWithin levels spec) (hle : levels ≤ levels') :
    EndsWithin levels' spec := by
  induction levels generalizing levels' spec with
  | zero => cases h
  | succ levels ih =>
    obtain ⟨more, rfl⟩ := Nat.exists_eq_add_of_lt hle
    exact ⟨h.1, fun part hpart => ih (h.2 part hpart) (Nat.le_add_right levels more)⟩

/-- Whether the value is a sequence of items or a mapping with entries as it stands. -/
def isOpen : Value → Bool
  | sequence .. | mapping .. => true
  | _ => false

@[simp] theorem substituteItems_eq_map (whole : Value) (level : Nat) (items : List Value) :
    substituteItems whole level items = items.map (substitute whole level) := by
  induction items with
  | nil => rfl
  | cons v vs ih => rw [substituteItems, ih, List.map_cons]

@[simp] theorem substituteEntries_eq_map (whole : Value) (level : Nat) (entries : List (Value × Value)) :
    substituteEntries whole level entries = entries.map fun e => (e.1, substitute whole level e.2) := by
  induction entries with
  | nil => rfl
  | cons e rest ih => rw [substituteEntries, ih, List.map_cons]

/-- What a kind says of the shape of a spec: it is a list or tuple, a plain mapping, or no container. -/
theorem shape_of_kind? {spec : Value} {k : KindName} (hk : spec.kind? = some k) :
    (k = .sequence ∧ ∃ shape items, shape.isSpec = true ∧ spec.expose = .sequence shape items) ∨
    (k = .mapping ∧ ∃ entries, spec.expose = .mapping .plain entries) ∨
    spec.isContainer = false := by
  cases spec with
  | sequence shape items => cases shape <;> cases hk <;> exact Or.inl ⟨rfl, _, items, rfl, rfl⟩
  | mapping shape entries => cases shape <;> cases hk; exact Or.inr (Or.inl ⟨rfl, entries, rfl⟩)
  | cyclic body =>
    cases body with
    | sequence shape items => cases shape <;> cases hk <;> exact Or.inl ⟨rfl, _, _, rfl, rfl⟩
    | mapping shape entries => cases shape <;> cases hk; exact Or.inr (Or.inl ⟨rfl, _, rfl⟩)
    | back n => cases n <;> cases hk
    | _ => cases hk
  | _ => exact Or.inr (Or.inr rfl)

theorem kind?_cyclic (body : Value) : (cyclic body).kind? = if body.isOpen then body.kind? else none := by
  cases body with
  | sequence shape items => cases shape <;> rfl
  | mapping shape entries => cases shape <;> rfl
  | back n => cases n <;> rfl
  | _ => rfl

theorem isOpen_of_kind?_cyclic {body : Value} (hk : ∃ k, (cyclic body).kind? = some k) :
    body.isOpen = true ∧ ∃ k, body.kind? = some k := by
  rw [kind?_cyclic] at hk
  split at hk
  · exact ⟨‹_›, hk⟩
  · simp at hk

theorem parts_cyclic {body : Value} (h : body.isOpen = true) :
    (cyclic body).parts = body.parts.map (substitute (cyclic body) 0) := by
  cases body with
  | sequence shape items => cases shape <;> simp [parts, expose, substitute, SequenceShape.isSpec]
  | mapping shape entries => cases shape <;> simp [parts, expose, substitute]
  | _ => cases h

theorem kind?_substitute (whole : Value) (level : Nat) {v : Value} (h : v.isOpen = true) :
    (substitute whole level v).kind? = v.kind? := by
  cases v with
  | sequence shape items => cases shape <;> rfl
  | mapping shape entries => cases shape <;> rfl
  | _ => cases h

theorem parts_substitute (whole : Value) (level : Nat) {v : Value} (h : v.isOpen = true) :
    (substitute whole level v).parts = v.parts.map (substitute whole level) := by
  cases v with
  | sequence shape items => cases shape <;> simp [parts, expose, substitute, SequenceShape.isSpec]
  | mapping shape entries => cases shape <;> simp [parts, expose, substitute]
  | _ => cases h

theorem isOpen_substitute_cyclic (body : Value) (level : Nat) (v : Value) :
    (substitute (cyclic body) level v).isOpen = v.isOpen := by
  cases v with
  | back k => rw [substitute]; split <;> rfl
  | _ => rfl

theorem substitute_eq_self_of_parts {whole : Value} {level : Nat} {v : Value} (h : v.isOpen = true)
    (hk : ∃ k, v.kind? = some k) (hparts : ∀ part ∈ v.parts, substitute whole level part = part) :
    substitute whole level v = v := by
  obtain ⟨k, hk⟩ := hk
  cases v with
  | sequence shape items =>
    have hshape : shape.isSpec = true := by cases shape <;> cases hk <;> rfl
    simp only [parts, expose, hshape, if_true] at hparts
    rw [substitute, substituteItems_eq_map, List.map_congr_left hparts, List.map_id']
  | mapping shape entries =>
    have hshape : shape = .plain := by cases shape <;> cases hk; rfl
    simp only [parts, expose, hshape, if_true, List.forall_mem_map] at hparts
    have hentries : ∀ e ∈ entries, (e.1, substitute whole level e.2) = e :=
      fun e he => Prod.ext rfl (hparts e he)
    rw [substitute, substituteEntries_eq_map, List.map_congr_left hentries, List.map_id']
  | _ => cases h

/-- Either nothing was put into a spec that compiles, or the container that was put into it compiles within as
many levels. -/
private theorem substitute_eq_self_or_endsWithin {body : Value} {level levels : Nat} {v : Value}
    (h : EndsWithin levels (substitute (cyclic body) level v)) :
    substitute (cyclic body) level v = v ∨ ∃ l ≤ levels, EndsWithin l (cyclic body) := by
  -- The levels carry the induction: a container inside `v` may itself be put into its own parts.
  induction levels using Nat.strongRecOn generalizing body level v with
  | ind levels ih =>
  cases levels with
  | zero => cases h
  | succ n =>
  by_cases hw : ∃ l ≤ n + 1, EndsWithin l (cyclic body)
  · exact Or.inr hw
  have hpart : ∀ {level : Nat} {part : Value}, EndsWithin n (substitute (cyclic body) level part) →
      substitute (cyclic body) level part = part := by
    intro level part hp
    rcases ih n (by omega) hp with heq | ⟨l, hl, hends⟩
    · exact heq
    · exact absurd ⟨l, by omega, hends⟩ hw
  by_cases hopen : v.isOpen = true
  · obtain ⟨hk, hparts⟩ := h
    rw [kind?_substitute _ _ hopen] at hk
    rw [parts_substitute _ _ hopen, List.forall_mem_map] at hparts
    exact Or.inl (substitute_eq_self_of_parts hopen hk fun part hp => hpart (hparts part hp))
  cases v with
  | sequence | mapping => simp [isOpen] at hopen
  | back k =>
    by_cases hk : k = level
    · rw [substitute, if_pos hk] at h
      exact absurd ⟨n + 1, by omega, h⟩ hw
    · exact Or.inl (by rw [substitute, if_neg hk])
  | cyclic inner =>
    rw [substitute] at h ⊢
    by_cases hloop : ∃ l ≤ n, EndsWithin l (cyclic (substitute (cyclic body) (level + 1) inner))
    · obtain ⟨l, hl, hends⟩ := hloop
      have hwhole : EndsWithin l (substitute (cyclic body) level (cyclic inner)) := by rwa [substitute]
      rcases ih l (by omega) hwhole with heq | ⟨l', hl', hends'⟩
      · exact Or.inl (by rwa [substitute] at heq)
      · exact absurd ⟨l', by omega, hends'⟩ hw
    · obtain ⟨hk, hparts⟩ := h
      obtain ⟨hopen', hk⟩ := isOpen_of_kind?_cyclic hk
      have hinner : inner.isOpen = true := by rwa [isOpen_substitute_cyclic] at hopen'
      rw [kind?_substitute _ _ hinner] at hk
      rw [parts_cyclic hopen', parts_substitute _ _ hinner, List.map_map, List.forall_mem_map] at hparts
      refine Or.inl (congrArg cyclic (substitute_eq_self_of_parts hinner hk fun part hp => ?_))
      rcases ih n (by omega) (hparts part hp) with heq | ⟨l, hl, hends⟩
      · have hends := hparts part hp
        rw [Function.comp_apply, heq] at hends
        exact hpart hends
      · exact absurd ⟨l, hl, hends⟩ hloop
  | _ => exact Or.inl rfl

/-- A container that compiles within some number of levels does not refer back to itself. -/
theorem substitute_eq_self_of_endsWithin {body : Value} {levels : Nat} (h : EndsWithin levels (cyclic body)) :
    substitute (cyclic body) 0 body = body := by
  induction levels using Nat.strongRecOn with
  | ind levels ih =>
  cases levels with
  | zero => cases h
  | succ n =>
  by_cases hloop : ∃ l ≤ n, EndsWithin l (cyclic body)
  · obtain ⟨l, hl, hends⟩ := hloop
    exact ih l (by omega) hends
  · obtain ⟨hk, hparts⟩ := h
    obtain ⟨hopen, hk⟩ := isOpen_of_kind?_cyclic hk
    rw [parts_cyclic hopen, List.forall_mem_map] at hparts
    refine substitute_eq_self_of_parts hopen hk fun part hp => ?_
    exact (substitute_eq_self_or_endsWithin (hparts part hp)).resolve_right hloop

end Value

namespace Registry

theorem result_compileWithin_eq_ok {limit : Value} {maxDepth depth : Int} {levels : Nat} {spec : Value}
    {m : Matcher} (h : ((builtIn limit maxDepth).compileWithin (levels + 1) depth spec).result = .ok m) :
    ∃ k, spec.kind? = some k ∧
      ((k.plan limit spec).run ((builtIn limit maxDepth).compileWithin levels (depth + 1))).result = .ok m := by
  rw [compileWithin, resolve_builtIn] at h
  cases hk : spec.kind? with
  | none => simp [hk] at h
  | some k =>
    rw [hk] at h
    obtain ⟨kind, hkind, hrun⟩ := Outcome.result_andThen_eq_ok_iff.mp h
    obtain rfl := Except.ok.inj hkind
    exact ⟨k, rfl, hrun⟩

theorem ofSpec_expose (limit : Value) {levels : Nat} {spec : Value} (h : spec.EndsWithin levels) :
    Matcher.ofSpec limit spec.expose = .ofSpec limit spec := by
  cases spec with
  | cyclic body => rw [Value.expose, Value.substitute_eq_self_of_endsWithin h, Matcher.ofSpec]
  | _ => rfl

/-- Whatever compiles within some levels ends within them, and has the matcher that it stands for. -/
theorem eq_ofSpec_of_compileWithin {limit : Value} {maxDepth depth : Int} {levels : Nat} {spec : Value}
    {m : Matcher} (h : ((builtIn limit maxDepth).compileWithin levels depth spec).result = .ok m) :
    spec.EndsWithin levels ∧ m = .ofSpec limit spec := by
  induction levels generalizing depth spec m with
  | zero => cases h
  | succ levels ih =>
    obtain ⟨k, hk, hrun⟩ := result_compileWithin_eq_ok h
    have hmatcher {spec : Value} {m : Matcher}
        (h : ((builtIn limit maxDepth).compileWithin levels (depth + 1) spec).result = .ok m) :
        m = .ofSpec limit spec := (ih h).2
    rcases Value.shape_of_kind? hk with ⟨rfl, shape, items, hshape, hspec⟩ | ⟨rfl, entries, hspec⟩ | hleaf
    · simp only [KindName.plan, Value.items?, hspec, Option.getD_some] at hrun
      obtain ⟨hitems, hdone⟩ := Plan.run_each_eq_ok (fun _ _ _ hm => hmatcher hm) hrun
      have hends : spec.EndsWithin (levels + 1) := by
        refine ⟨⟨_, hk⟩, fun part hp => ?_⟩
        rw [Value.parts, hspec] at hp
        simp only [hshape, if_true] at hp
        exact (ih (hitems part hp)).1
      refine ⟨hends, ?_⟩
      rw [← ofSpec_expose limit hends, hspec, Matcher.ofSpec, Matcher.ofSpecs_eq_map]
      exact (Except.ok.inj hdone).symm
    · simp only [KindName.plan, Value.entries?, hspec] at hrun
      obtain ⟨hfields, hdone⟩ := Plan.run_eachField_eq_ok (fun _ _ _ hm => hmatcher hm) hrun
      have hends : spec.EndsWithin (levels + 1) := by
        refine ⟨⟨_, hk⟩, fun part hp => ?_⟩
        rw [Value.parts, hspec] at hp
        obtain ⟨e, he, rfl⟩ := List.mem_map.mp hp
        exact (ih (hfields e he)).1
      refine ⟨hends, ?_⟩
      rw [← ofSpec_expose limit hends, hspec, Matcher.ofSpec, Matcher.ofFields_eq_map]
      exact (Except.ok.inj hdone).symm
    · rw [KindName.plan_of_kind? limit hleaf hk] at hrun
      refine ⟨⟨⟨k, hk⟩, fun part hp => ?_⟩, (Except.ok.inj hrun).symm⟩
      rw [Value.parts] at hp
      cases spec with
      | sequence | mapping | cyclic => cases hleaf
      | _ => simp [Value.expose] at hp

theorem result_compileWithin_of_kind? (limit : Value) (maxDepth depth : Int) (levels : Nat) {spec : Value}
    {k : KindName} (hk : spec.kind? = some k) :
    ((builtIn limit maxDepth).compileWithin (levels + 1) depth spec).result =
      ((k.plan limit spec).run ((builtIn limit maxDepth).compileWithin levels (depth + 1))).result := by
  rw [compileWithin, resolve_builtIn, hk, Outcome.result_andThen]
  rfl

/-- Whatever ends within some levels compiles within them, to the matcher that it stands for. -/
theorem result_compileWithin_of_endsWithin (limit : Value) (maxDepth depth : Int) {levels : Nat} {spec : Value}
    (h : spec.EndsWithin levels) :
    ((builtIn limit maxDepth).compileWithin levels depth spec).result = .ok (.ofSpec limit spec) := by
  induction levels generalizing depth spec with
  | zero => cases h
  | succ levels ih =>
    obtain ⟨⟨k, hk⟩, hparts⟩ := id h
    rw [result_compileWithin_of_kind? limit maxDepth depth levels hk]
    rcases Value.shape_of_kind? hk with ⟨rfl, shape, items, hshape, hspec⟩ | ⟨rfl, entries, hspec⟩ | hleaf
    · rw [Value.parts, hspec] at hparts
      simp only [hshape, if_true] at hparts
      simp only [KindName.plan, Value.items?, hspec, Option.getD_some]
      rw [Plan.result_run_each (fun item hi => ih (depth + 1) (hparts item hi)), ← ofSpec_expose limit h, hspec,
        Matcher.ofSpec, Matcher.ofSpecs_eq_map]
      rfl
    · rw [Value.parts, hspec] at hparts
      simp only [if_true, List.forall_mem_map] at hparts
      simp only [KindName.plan, Value.entries?, hspec]
      rw [Plan.result_run_eachField (fun e he => ih (depth + 1) (hparts e he)), ← ofSpec_expose limit h, hspec,
        Matcher.ofSpec, Matcher.ofFields_eq_map]
      rfl
    · rw [KindName.plan_of_kind? limit hleaf hk]
      rfl

/-- Whatever the built-in kinds compile, they compile to the matcher that it stands for. -/
theorem eq_ofSpec_of_compile {limit : Value} {maxDepth : Int} {spec : Value} {m : Matcher}
    (h : ((builtIn limit maxDepth).compile spec).result = .ok m) : m = .ofSpec limit spec :=
  (eq_ofSpec_of_compileWithin h).2

end Registry

end Clausewise
