import Clausewise.Proofs.Spec.Structure

/-! Compiling a finite spec as one survey of its containers and leaves in preorder: which spec decides, and with
which failure. -/
namespace Clausewise

namespace Value

mutual

/-- The specs that compiling visits, in preorder, each with the number of containers around it: a list or tuple
comes before its items, a plain mapping before its field values, and everything else is a leaf. -/
def visits (depth : Nat) : Value → List (Nat × Value)
  | .sequence shape items =>
    (depth, .sequence shape items) :: if shape.isSpec then visitsOfItems (depth + 1) items else []
  | .mapping shape entries =>
    (depth, .mapping shape entries) :: if shape = .plain then visitsOfFields (depth + 1) entries else []
  | spec => [(depth, spec)]

/-- The visits of the items, one after the other. -/
def visitsOfItems (depth : Nat) : List Value → List (Nat × Value)
  | [] => []
  | spec :: specs => visits depth spec ++ visitsOfItems depth specs

/-- The visits of the field values, one after the other. -/
def visitsOfFields (depth : Nat) : List (Value × Value) → List (Nat × Value)
  | [] => []
  | (_, spec) :: rest => visits depth spec ++ visitsOfFields depth rest

end

theorem visitsOfItems_eq_flatMap (depth : Nat) (specs : List Value) :
    visitsOfItems depth specs = specs.flatMap (visits depth) := by
  induction specs with
  | nil => rfl
  | cons spec specs ih => rw [visitsOfItems, ih, List.flatMap_cons]

theorem visitsOfFields_eq_flatMap (depth : Nat) (fields : List (Value × Value)) :
    visitsOfFields depth fields = (fields.map (·.2)).flatMap (visits depth) := by
  induction fields with
  | nil => rfl
  | cons f fields ih => rw [visitsOfFields, ih, List.map_cons, List.flatMap_cons]

mutual

/-- Whether a spec is a finite tree: no container inside it contains itself. -/
def isTree : Value → Bool
  | .sequence shape items => !shape.isSpec || areTrees items
  | .mapping shape entries => !decide (shape = .plain) || areFieldTrees entries
  | .cyclic _ => false
  | _ => true

/-- Whether all the specs are finite trees. -/
def areTrees : List Value → Bool
  | [] => true
  | spec :: specs => isTree spec && areTrees specs

/-- Whether all the field values are finite trees. -/
def areFieldTrees : List (Value × Value) → Bool
  | [] => true
  | (_, spec) :: rest => isTree spec && areFieldTrees rest

end

theorem areTrees_iff {specs : List Value} : areTrees specs = true ↔ ∀ spec ∈ specs, spec.isTree = true := by
  induction specs with
  | nil => simp [areTrees]
  | cons spec specs ih => simp [areTrees, ih]

theorem areFieldTrees_iff {fields : List (Value × Value)} :
    areFieldTrees fields = true ↔ ∀ f ∈ fields, f.2.isTree = true := by
  induction fields with
  | nil => simp [areFieldTrees]
  | cons f fields ih => simp [areFieldTrees, ih]

theorem visits_leaf (depth : Nat) {spec : Value} (h : spec.isContainer = false) :
    spec.visits depth = [(depth, spec)] := by
  cases spec with
  | sequence | mapping | cyclic => cases h
  | _ => rfl

end Value

namespace Registry

/-- A visited spec passes if it stands no deeper than allowed and some built-in kind accepts it. -/
def Passes (maxDepth : Int) (visit : Nat × Value) : Prop :=
  (visit.1 : Int) ≤ maxDepth ∧ ∃ k : KindName, k.accepts visit.2 = true

instance (maxDepth : Int) (visit : Nat × Value) : Decidable (Passes maxDepth visit) :=
  decidable_of_iff ((visit.1 : Int) ≤ maxDepth ∧ visit.2.kind?.isSome) (by
    rw [Passes, ← Value.exists_kind?_eq_some_iff, Option.isSome_iff_exists])

/-- The failure of a visited spec that does not pass; its depth is looked at before its kind. -/
def refusalOf (maxDepth : Int) (visit : Nat × Value) : Failure :=
  if maxDepth < visit.1 then .nestedTooDeep else .about .unclassifiable visit.2

theorem outOfIteration_refusalOf (maxDepth : Int) (visit : Nat × Value) :
    (refusalOf maxDepth visit).outOfIteration = refusalOf maxDepth visit := by
  unfold refusalOf
  split
  · rfl
  · exact Failure.outOfIteration_about rfl

/-- Looks at visited specs one after the other. Each that passes is reported with its kind, and the first that
does not ends the survey with its failure. -/
def survey (maxDepth : Int) : List (Nat × Value) → Outcome Unit
  | [] => .ok ()
  | (depth, spec) :: rest =>
    if maxDepth < depth then .fail .nestedTooDeep
    else
      match spec.kind? with
      | some k => (Outcome.report (.resolved (.builtIn k) spec)).andThen fun _ => survey maxDepth rest
      | none => .fail (.about .unclassifiable spec)

theorem survey_append (maxDepth : Int) (xs ys : List (Nat × Value)) :
    survey maxDepth (xs ++ ys) = (survey maxDepth xs).andThen fun _ => survey maxDepth ys := by
  induction xs with
  | nil => rfl
  | cons x xs ih =>
    obtain ⟨depth, spec⟩ := x
    simp only [List.cons_append, survey]
    split
    · rfl
    · cases spec.kind? with
      | none => rfl
      | some k => simp only [ih, Outcome.andThen_assoc]

theorem result_survey_cons_of_passes {maxDepth : Int} {x : Nat × Value} (h : Passes maxDepth x)
    (visits : List (Nat × Value)) :
    (survey maxDepth (x :: visits)).result = (survey maxDepth visits).result := by
  obtain ⟨k, hk⟩ := (Value.exists_kind?_eq_some_iff x.2).mpr h.2
  have hdepth : ¬ maxDepth < x.1 := Int.not_lt.mpr h.1
  simp only [survey, hk, if_neg hdepth]
  cases hr : (survey maxDepth visits).result <;> simp [Outcome.andThen, Outcome.report, hr]

theorem survey_cons_of_not_passes {maxDepth : Int} {x : Nat × Value} (h : ¬ Passes maxDepth x)
    (visits : List (Nat × Value)) :
    survey maxDepth (x :: visits) = .fail (refusalOf maxDepth x) := by
  simp only [Passes, ← Value.exists_kind?_eq_some_iff, not_and] at h
  simp only [survey, refusalOf]
  split
  · rfl
  · cases hk : x.2.kind? with
    | none => rfl
    | some k => exact absurd ⟨k, hk⟩ (h (by omega))

theorem result_survey_eq_ok_iff (maxDepth : Int) (visits : List (Nat × Value)) :
    (survey maxDepth visits).result = .ok () ↔ ∀ x ∈ visits, Passes maxDepth x := by
  induction visits with
  | nil => simp [survey]
  | cons x visits ih =>
    rw [List.forall_mem_cons]
    by_cases hx : Passes maxDepth x
    · rw [result_survey_cons_of_passes hx, ih, and_iff_right hx]
    · rw [survey_cons_of_not_passes hx]
      simp [hx]

/-- A survey fails with what the first visited spec that does not pass is refused with. -/
theorem result_survey_eq_error_iff (maxDepth : Int) (visits : List (Nat × Value)) (e : Failure) :
    (survey maxDepth visits).result = .error e ↔
      ∃ before x after, visits = before ++ x :: after ∧ (∀ y ∈ before, Passes maxDepth y) ∧
        ¬ Passes maxDepth x ∧ e = refusalOf maxDepth x := by
  induction visits with
  | nil => simp [survey]
  | cons x visits ih =>
    simp only [List.cons_eq_append_iff]
    by_cases hx : Passes maxDepth x
    · rw [result_survey_cons_of_passes hx, ih]
      constructor
      · rintro ⟨before, y, after, rfl, hbefore, hy⟩
        exact ⟨x :: before, y, after, Or.inr ⟨before, rfl, rfl⟩, List.forall_mem_cons.mpr ⟨hx, hbefore⟩, hy⟩
      · rintro ⟨before, y, after, ⟨rfl, hsplit⟩ | ⟨tail, rfl, rfl⟩, hbefore, hy, he⟩
        · obtain ⟨rfl, rfl⟩ := List.cons.inj hsplit
          exact absurd hx hy
        · exact ⟨tail, y, after, rfl, (List.forall_mem_cons.mp hbefore).2, hy, he⟩
    · rw [survey_cons_of_not_passes hx]
      constructor
      · intro he
        exact ⟨[], x, visits, Or.inl ⟨rfl, rfl⟩, by simp, hx, (Except.error.inj he).symm⟩
      · rintro ⟨before, y, after, ⟨rfl, hsplit⟩ | ⟨tail, rfl, rfl⟩, hbefore, hy, rfl⟩
        · obtain ⟨rfl, rfl⟩ := List.cons.inj hsplit
          rfl
        · exact absurd (List.forall_mem_cons.mp hbefore).1 hx

/-- That compiling a spec at a depth surveys its visits, and then has the matcher that the spec stands for. -/
def CompilesBySurvey (limit : Value) (maxDepth : Int) (depth : Nat) (spec : Value) : Prop :=
  (builtIn limit maxDepth).compileAt depth spec =
    (survey maxDepth (spec.visits depth)).andThen fun _ => .ok (.ofSpec limit spec)

/-- Asking for the matchers of specs, each of which is compiled by a survey, is one survey of all their visits. -/
theorem run_each_eq_survey {maxDepth : Int} {compile : Value → Outcome Matcher} {visits : Value → List (Nat × Value)}
    {matcher : Value → Matcher} {specs : List Value}
    (h : ∀ spec ∈ specs, compile spec = (survey maxDepth (visits spec)).andThen fun _ => .ok (matcher spec))
    (next : List Matcher → Plan) :
    (Plan.each specs next).run compile =
      (survey maxDepth (specs.flatMap visits)).andThen fun _ => (next (specs.map matcher)).run compile := by
  induction specs generalizing next with
  | nil => rfl
  | cons spec specs ih =>
    obtain ⟨hspec, hspecs⟩ := List.forall_mem_cons.mp h
    simp only [Plan.each, Plan.run, hspec, ih hspecs, List.flatMap_cons, survey_append, Outcome.andThen_assoc,
      Outcome.ok_andThen, List.map_cons]

theorem run_eachField_eq_survey {maxDepth : Int} {compile : Value → Outcome Matcher}
    {visits : Value → List (Nat × Value)} {matcher : Value → Matcher} {fields : List (Value × Value)}
    (h : ∀ f ∈ fields, compile f.2 = (survey maxDepth (visits f.2)).andThen fun _ => .ok (matcher f.2))
    (next : List (Value × Matcher) → Plan) :
    (Plan.eachField fields next).run compile =
      (survey maxDepth ((fields.map (·.2)).flatMap visits)).andThen fun _ =>
        (next (fields.map fun f => (f.1, matcher f.2))).run compile := by
  rw [Plan.eachField_eq_each, run_each_eq_survey (List.forall_mem_map.mpr h), List.map_map, List.zip_map']
  rfl

/-- The whole outcome of compiling a finite spec, reports included: the survey of its visits, then the matcher
that it stands for. -/
theorem compileAt_eq_survey (limit : Value) (maxDepth : Int) (depth : Nat) {spec : Value}
    (htree : spec.isTree = true) : CompilesBySurvey limit maxDepth depth spec := by
  induction spec using Value.containerInduction generalizing depth with
  | sequence shape items ih =>
    rw [CompilesBySurvey, compileAt_builtIn, Value.visits, survey, Value.kind?_sequence]
    cases hshape : shape.isSpec with
    | false => split <;> rfl
    | true =>
      simp only [Value.isTree, hshape, Bool.not_true, Bool.false_or, Value.areTrees_iff] at htree
      have hitems : ∀ spec ∈ items, CompilesBySurvey limit maxDepth (depth + 1) spec :=
        fun spec hs => ih spec hs (depth + 1) (htree spec hs)
      have hrun := run_each_eq_survey hitems fun ms => .done (.sequence ms)
      push_cast at hrun
      simp only [if_true, KindName.plan, Value.items?, Value.expose, Option.getD_some, hrun, Plan.run,
        Matcher.ofSpec, Matcher.ofSpecs_eq_map, Value.visitsOfItems_eq_flatMap]
      split
      · rfl
      · simp only [Outcome.andThen_assoc]
  | mapping shape entries ih =>
    rw [CompilesBySurvey, compileAt_builtIn, Value.visits, survey, Value.kind?_mapping]
    by_cases hshape : shape = .plain
    · subst hshape
      simp only [Value.isTree, decide_true, Bool.not_true, Bool.false_or, Value.areFieldTrees_iff] at htree
      have hfields : ∀ f ∈ entries, CompilesBySurvey limit maxDepth (depth + 1) f.2 :=
        fun f hf => ih f hf (depth + 1) (htree f hf)
      have hrun := run_eachField_eq_survey hfields fun fields => .done (.mapping fields)
      push_cast at hrun
      simp only [if_true, KindName.plan, Value.entries?, Value.expose, hrun, Plan.run,
        Matcher.ofSpec, Matcher.ofFields_eq_map, Value.visitsOfFields_eq_flatMap]
      split
      · rfl
      · simp only [Outcome.andThen_assoc]
    · simp only [if_neg hshape]
      split <;> rfl
  | cyclic body => simp [Value.isTree] at htree
  | leaf spec hleaf =>
    rw [CompilesBySurvey, compileAt_builtIn, Value.visits_leaf depth hleaf, survey]
    split
    · rfl
    · cases hk : spec.kind? with
      | none => rfl
      | some k =>
        simp only [KindName.plan_of_kind? limit hleaf hk, Plan.run, survey, Outcome.andThen_assoc,
          Outcome.ok_andThen]

/-- A finite spec whose visits all pass compiles to the matcher that it stands for. -/
theorem result_compile_of_passes {limit : Value} {maxDepth : Int} {spec : Value} (htree : spec.isTree = true)
    (h : ∀ x ∈ spec.visits 0, Passes maxDepth x) :
    ((builtIn limit maxDepth).compile spec).result = .ok (.ofSpec limit spec) := by
  have houtcome : (builtIn limit maxDepth).compile spec = _ := compileAt_eq_survey limit maxDepth 0 htree
  rw [houtcome, Outcome.result_andThen_eq_ok_iff]
  exact ⟨(), (result_survey_eq_ok_iff maxDepth _).mpr h, rfl⟩

end Registry

end Clausewise
