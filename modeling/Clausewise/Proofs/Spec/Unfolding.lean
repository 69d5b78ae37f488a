import Clausewise.Proofs.Kind.Descent
import Clausewise.Proofs.Spec.SelfReference
import Clausewise.Proofs.Spec.Survey
import Mathlib.Logic.Relation
import Mathlib.Tactic.Choose

/-! Specs opened level by level, also those that contain themselves. Compiling with the built-in kinds surveys what
shows in the levels that are allowed and one more, so it fails for a container whose opening never ends, and the first
spec that does not pass says how. -/
namespace Clausewise

namespace Value

/-- The values directly inside a container: the items of a sequence, or what a mapping has under its keys. -/
def inside (v : Value) : List Value :=
  match v.expose with
  | .sequence _ items => items
  | .mapping _ entries => entries.map (·.2)
  | _ => []

/-- That one value is directly inside another. -/
def Holds (outer inner : Value) : Prop := inner ∈ outer.inside

/-- That a container contains itself, directly or further inside. -/
def ContainsItself (v : Value) : Prop := Relation.TransGen Holds v v

/-- The specs that show when a spec is opened so many levels deep, in preorder, each with the number of containers
around it: a list, tuple or plain mapping comes before what is inside it. -/
def unfolding : Nat → Nat → Value → List (Nat × Value)
  | 0, depth, spec => [(depth, spec)]
  | levels + 1, depth, spec => (depth, spec) :: spec.parts.flatMap (unfolding levels (depth + 1))

variable {spec part : Value} {levels : Nat}

/-- Of a spec that some kind accepts compiling asks for everything inside. -/
theorem parts_eq_inside {k : KindName} (hk : spec.kind? = some k) : spec.parts = spec.inside := by
  rcases shape_of_kind? hk with ⟨-, shape, items, hshape, hspec⟩ | ⟨-, entries, hspec⟩ | hleaf
  · simp [parts, inside, hspec, hshape]
  · simp [parts, inside, hspec]
  · cases spec with
    | sequence | mapping | cyclic => cases hleaf
    | _ => rfl

theorem parts_of_not_isContainer (h : spec.isContainer = false) : spec.parts = [] := by
  cases spec with
  | sequence | mapping | cyclic => cases h
  | _ => rfl

/-- What ends within some levels takes one of them itself, and everything inside ends within the others. -/
theorem EndsWithin.exists_fewer (h : EndsWithin levels spec) :
    ∃ fewer, levels = fewer + 1 ∧ ∀ part ∈ spec.inside, EndsWithin fewer part := by
  cases levels with
  | zero => cases h
  | succ levels =>
    obtain ⟨⟨k, hk⟩, hparts⟩ := h
    rw [parts_eq_inside hk] at hparts
    exact ⟨levels, rfl, hparts⟩

theorem EndsWithin.of_holds (h : EndsWithin levels spec) (hpart : Holds spec part) :
    ∃ fewer < levels, EndsWithin fewer part := by
  obtain ⟨fewer, rfl, hinside⟩ := h.exists_fewer
  exact ⟨fewer, Nat.lt_succ_self fewer, hinside part hpart⟩

theorem EndsWithin.of_transGen (h : EndsWithin levels spec) (hpart : Relation.TransGen Holds spec part) :
    ∃ fewer < levels, EndsWithin fewer part := by
  induction hpart with
  | single hpart => exact h.of_holds hpart
  | tail _ hpart ih =>
    obtain ⟨fewer, hfewer, hends⟩ := ih
    obtain ⟨least, hleast, hends⟩ := hends.of_holds hpart
    exact ⟨least, Nat.lt_trans hleast hfewer, hends⟩

/-- A container that contains itself has no bottom within any number of levels. -/
theorem ContainsItself.not_endsWithin (h : part.ContainsItself) (levels : Nat) : ¬ EndsWithin levels part := by
  induction levels using Nat.strongRecOn with
  | ind levels ih =>
    intro hends
    obtain ⟨fewer, hfewer, hends⟩ := hends.of_transGen h
    exact ih fewer hfewer hends

/-- Neither has a container with such a one inside. -/
theorem ContainsItself.not_endsWithin_of_reflTransGen (h : part.ContainsItself)
    (hpart : Relation.ReflTransGen Holds spec part) (levels : Nat) : ¬ EndsWithin levels spec := by
  intro hends
  rcases Relation.reflTransGen_iff_eq_or_transGen.mp hpart with rfl | hinside
  · exact h.not_endsWithin levels hends
  · obtain ⟨fewer, -, hends⟩ := hends.of_transGen hinside
    exact h.not_endsWithin fewer hends

end Value

namespace Registry
variable {limit : Value} {maxDepth : Int}

/-- Compiling a spec at a depth surveys the specs that show in enough levels, and then has some matcher. -/
theorem exists_compileAt_eq_survey (limit : Value) {levels depth : Nat} (h : maxDepth < depth + levels) (spec : Value) :
    ∃ m, (builtIn limit maxDepth).compileAt depth spec =
      (survey maxDepth (spec.unfolding levels depth)).andThen fun _ => .ok m := by
  induction levels generalizing depth spec with
  | zero =>
    have hdepth : maxDepth < depth := by omega
    refine ⟨.always, ?_⟩
    rw [compileAt_builtIn, if_pos hdepth, Value.unfolding, survey, if_pos hdepth]
    rfl
  | succ levels ih =>
    by_cases hdepth : maxDepth < depth
    · refine ⟨.always, ?_⟩
      rw [compileAt_builtIn, if_pos hdepth, Value.unfolding, survey, if_pos hdepth]
      rfl
    rw [compileAt_builtIn, if_neg hdepth, Value.unfolding, survey, if_neg hdepth]
    cases hk : spec.kind? with
    | none => exact ⟨.always, rfl⟩
    | some k =>
      have hnext : maxDepth < (depth + 1 : Nat) + levels := by omega
      choose matcher hmatcher using ih hnext
      push_cast at hmatcher
      simp only [Outcome.andThen_assoc]
      rcases Value.shape_of_kind? hk with ⟨rfl, shape, items, hshape, hspec⟩ | ⟨rfl, entries, hspec⟩ | hleaf
      · refine ⟨.sequence (items.map matcher), ?_⟩
        simp only [KindName.plan, Value.items?, Value.parts, hspec, hshape, if_true, Option.getD_some]
        rw [run_each_eq_survey fun part _ => hmatcher part]
        rfl
      · refine ⟨.mapping (entries.map fun e => (e.1, matcher e.2)), ?_⟩
        simp only [KindName.plan, Value.entries?, Value.parts, hspec, if_true]
        rw [run_eachField_eq_survey fun e _ => hmatcher e.2]
        rfl
      · refine ⟨.ofSpec limit spec, ?_⟩
        rw [KindName.plan_of_kind? limit hleaf hk, Value.parts_of_not_isContainer hleaf]
        rfl

/-- Compiling never fails by exhausting an iteration. -/
theorem outOfIteration_of_compile {spec : Value} {e : Failure}
    (h : ((builtIn limit maxDepth).compile spec).result = .error e) : e.outOfIteration = e := by
  have hlevels : maxDepth < (0 : Nat) + (maxDepth + 1).toNat := by omega
  obtain ⟨m, houtcome⟩ := exists_compileAt_eq_survey limit hlevels spec
  have hcompile : (builtIn limit maxDepth).compile spec = _ := houtcome
  rw [hcompile, Outcome.result_andThen] at h
  cases hsurvey : (survey maxDepth (spec.unfolding (maxDepth + 1).toNat 0)).result with
  | ok =>
    rw [hsurvey] at h
    cases h
  | error e' =>
    rw [hsurvey] at h
    obtain rfl := Except.error.inj h
    obtain ⟨-, first, -, -, -, -, rfl⟩ := (result_survey_eq_error_iff maxDepth _ e').mp hsurvey
    exact outOfIteration_refusalOf maxDepth first

/-- A spec that does not end within any number of levels fails for the first spec that does not pass among those that
show in as many levels as are allowed and one more. -/
theorem exists_first_refused {spec : Value} (h : ∀ levels, ¬ spec.EndsWithin levels) (limit : Value) (maxDepth : Int) :
    ∃ before first after, spec.unfolding (maxDepth + 1).toNat 0 = before ++ first :: after ∧
      (∀ visit ∈ before, Passes maxDepth visit) ∧ ¬ Passes maxDepth first ∧
        ((builtIn limit maxDepth).compile spec).result = .error (refusalOf maxDepth first) := by
  have hlevels : maxDepth < (0 : Nat) + (maxDepth + 1).toNat := by omega
  obtain ⟨m, houtcome⟩ := exists_compileAt_eq_survey limit hlevels spec
  have hcompile : (builtIn limit maxDepth).compile spec = _ := houtcome
  cases hsurvey : (survey maxDepth (spec.unfolding (maxDepth + 1).toNat 0)).result with
  | ok =>
    have hresult : ((builtIn limit maxDepth).compile spec).result = .ok m := by
      rw [hcompile, Outcome.result_andThen, hsurvey]
      rfl
    exact absurd (eq_ofSpec_of_compileWithin hresult).1 (h _)
  | error e =>
    obtain ⟨before, first, after, hsplit, hbefore, hfirst, rfl⟩ := (result_survey_eq_error_iff maxDepth _ e).mp hsurvey
    refine ⟨before, first, after, hsplit, hbefore, hfirst, ?_⟩
    rw [hcompile, Outcome.result_andThen, hsurvey]
    rfl

/-- The depth that is allowed bounds compiling, in four ways. Whatever specs the kinds ask for, compiling a spec at a
depth ends after finitely many calls, in one way only, and reports the classification of each spec on the way, none of
which stands deeper than allowed. With the built-in kinds, a spec that contains itself, or has such a one somewhere
inside, does not compile: in preorder of what shows when it is opened, up to one level too many, there is a first spec
that does not pass, and either it nests too deep, which is the failure with the message given here, or no kind accepts
it. And what compiles to a matcher does so too wherever more depth is allowed. -/
theorem compile_bounded_by_depth :
    (∀ (r : Registry) depth spec, ∃ visits, r.Ends (.compile depth spec) visits (r.compileAt depth spec) ∧
      (∀ visits' o, r.Ends (.compile depth spec) visits' o → visits' = visits ∧ o = r.compileAt depth spec) ∧
      ((r.compileAt depth spec).events = visits.flatMap fun visit => (r.resolve visit.2).events) ∧
      ∀ visit ∈ visits, visit.1 ≤ r.maxDepth) ∧
    (∀ limit maxDepth spec part, Relation.ReflTransGen Value.Holds spec part → part.ContainsItself →
      ∃ before first after, spec.unfolding (maxDepth + 1).toNat 0 = before ++ first :: after ∧
        (∀ visit ∈ before, Passes maxDepth visit) ∧
        (maxDepth < first.1 ∧ ((builtIn limit maxDepth).compile spec).result = .error .nestedTooDeep ∨
          (∀ k : KindName, k.accepts first.2 = false) ∧
            ((builtIn limit maxDepth).compile spec).result = .error (.about .unclassifiable first.2))) ∧
    (∀ builders, Failure.nestedTooDeep.message builders = some "pattern_max_depth exceeded") ∧
    ∀ (r : Registry) maxDepth, r.maxDepth ≤ maxDepth → ∀ depth spec m, (r.compileAt depth spec).result = .ok m →
      ({ r with maxDepth }.compileAt depth spec).result = .ok m := by
  refine ⟨fun r depth spec => ?_, fun limit maxDepth spec part hpart hitself => ?_, fun _ => rfl, ?_⟩
  · obtain ⟨visits, hends⟩ := r.exists_ends_compile depth spec
    exact ⟨visits, hends, fun _ _ hends' => ⟨hends'.visits_unique hends, hends'.eq_outcome⟩, hends.events_eq,
      hends.depth_le⟩
  · obtain ⟨before, first, after, hsplit, hbefore, hfirst, hresult⟩ :=
      exists_first_refused (hitself.not_endsWithin_of_reflTransGen hpart) limit maxDepth
    refine ⟨before, first, after, hsplit, hbefore, ?_⟩
    rw [hresult, refusalOf]
    split
    · exact Or.inl ⟨‹_›, rfl⟩
    · refine Or.inr ⟨fun k => Bool.eq_false_iff.mpr fun hk => hfirst ⟨by omega, k, hk⟩, rfl⟩
  · intro r maxDepth hle depth spec m hresult
    rw [(r.compileAt_sameUnless hle depth spec).eq, hresult]
    rintro _ rfl hfails
    rw [hresult] at hfails
    cases hfails

/-- A list with a mapping inside that holds the list again nests too deep, as does what contains this list. An empty
list in a list compiles if one level is allowed, and so it does if five are. -/
theorem compile_bounded_by_depth_nested :
    let loop := Value.cyclic (.list [.int 1, .plainMapping [(.text "a", .tuple [.back 0])]])
    let spec := Value.list [.cls .int, loop]
    ((builtIn usualLimit 2).compile spec).result = .error .nestedTooDeep ∧
      ∃ m, ((builtIn usualLimit 5).compile (.list [.list []])).result = .ok m := by
  intro loop spec
  obtain ⟨-, hitself, -, hmore⟩ := compile_bounded_by_depth
  refine ⟨?_, .ofSpec usualLimit (.list [.list []]), ?_⟩
  · have hpart : Relation.ReflTransGen Value.Holds spec loop :=
      .single (by simp [Value.Holds, Value.inside, spec, Value.expose])
    have hloop : loop.ContainsItself := by
      refine .head (b := .plainMapping [(.text "a", .tuple [loop])]) ?_ (.head (b := .tuple [loop]) ?_ (.single ?_))
      all_goals simp [Value.Holds, Value.inside, Value.expose, Value.substitute, loop]
    obtain ⟨before, first, after, hsplit, -, ⟨-, hdeep⟩ | ⟨hnone, -⟩⟩ := hitself usualLimit 2 spec loop hpart hloop
    · exact hdeep
    · have hall : ∀ visit ∈ spec.unfolding 3 0, Passes 3 visit := by decide
      obtain ⟨-, k, hk⟩ := hall first (hsplit ▸ by simp)
      rw [hnone k] at hk
      cases hk
  · exact hmore (builtIn usualLimit 1) 5 (by decide) 0 _ _ (result_compile_of_passes rfl (by decide))

end Registry

end Clausewise
