import Clausewise.Proofs.Kind.Precedence
import Clausewise.Proofs.Kind.Recipe

/-! How compiling descends into specs. Carried out call by call, with no bound but the look at the depth, it ends for
every spec, and no spec is classified deeper than the registry allows. What compiles within one depth compiles alike
within any larger one. -/
namespace Clausewise

/-- What is under way while a spec is compiled: a spec is to be compiled that stands at a depth, or a plan is to be
carried out whose specs stand at a depth. -/
inductive Task where
  | compile (depth : Int) (spec : Value)
  | run (depth : Int) (plan : Plan)

/-- The outcome that a task is to have. -/
def Task.outcome (r : Registry) : Task → Outcome Matcher
  | compile depth spec => r.compileAt depth spec
  | run depth plan => plan.run (r.compileAt depth)

namespace Registry
variable {r : Registry} {task : Task} {visits visits' : List (Int × Value)} {o o' : Outcome Matcher}

/-- That a task ends after finitely many calls, with an outcome. `visits` are the specs that are classified on the way,
in order, each with the depth at which it stands. -/
inductive Ends (r : Registry) : Task → List (Int × Value) → Outcome Matcher → Prop
  | tooDeep {depth : Int} {spec : Value} : r.maxDepth < depth → Ends r (.compile depth spec) [] (.fail .nestedTooDeep)
  | unresolved {depth : Int} {spec : Value} {e : Failure} : depth ≤ r.maxDepth → (r.resolve spec).result = .error e →
      Ends r (.compile depth spec) [(depth, spec)] ⟨(r.resolve spec).events, .error e⟩
  | resolved {depth : Int} {spec : Value} {k : Kind} {visits : List (Int × Value)} {o : Outcome Matcher} :
      depth ≤ r.maxDepth → (r.resolve spec).result = .ok k → Ends r (.run (depth + 1) (k.plan depth spec)) visits o →
      Ends r (.compile depth spec) ((depth, spec) :: visits) ⟨(r.resolve spec).events ++ o.events, o.result⟩
  | done {depth : Int} {m : Matcher} : Ends r (.run depth (.done m)) [] (.ok m)
  | fail {depth : Int} {e : Failure} : Ends r (.run depth (.fail e)) [] (.fail e)
  | broken {depth : Int} {spec : Value} {next : Matcher → Plan} {e : Failure} {visits : List (Int × Value)}
      {o : Outcome Matcher} : Ends r (.compile depth spec) visits o → o.result = .error e →
      Ends r (.run depth (.child spec next)) visits ⟨o.events, .error e⟩
  | continued {depth : Int} {spec : Value} {next : Matcher → Plan} {m : Matcher} {visits rest : List (Int × Value)}
      {o o' : Outcome Matcher} : Ends r (.compile depth spec) visits o → o.result = .ok m →
      Ends r (.run depth (next m)) rest o' →
      Ends r (.run depth (.child spec next)) (visits ++ rest) ⟨o.events ++ o'.events, o'.result⟩

/-- A task ends with no other outcome than it is to have. -/
theorem Ends.eq_outcome (h : r.Ends task visits o) : o = task.outcome r := by
  induction h with
  | tooDeep hdepth => rw [Task.outcome, compileAt_step, if_pos hdepth]
  | unresolved hdepth hresolve =>
    rw [Task.outcome, compileAt_step, if_neg (by omega), Outcome.andThen, hresolve]
  | resolved hdepth hresolve _ ih =>
    simp only [Task.outcome] at ih ⊢
    rw [compileAt_step, if_neg (by omega), Outcome.andThen, hresolve, ih]
  | done => rfl
  | fail => rfl
  | broken _ hresult ih =>
    simp only [Task.outcome] at ih ⊢
    rw [Plan.run, ← ih, Outcome.andThen, hresult]
  | continued _ hresult _ ih ihrest =>
    simp only [Task.outcome] at ih ihrest ⊢
    rw [Plan.run, ← ih, Outcome.andThen, hresult, ihrest]

theorem Ends.visits_unique (h : r.Ends task visits o) (h' : r.Ends task visits' o') : visits = visits' := by
  induction h generalizing visits' o' with
  | tooDeep hdepth =>
    cases h' with
    | tooDeep => rfl
    | unresolved hdepth' | resolved hdepth' => omega
  | unresolved hdepth hresolve =>
    cases h' with
    | tooDeep hdepth' => omega
    | unresolved => rfl
    | resolved _ hresolve' => rw [hresolve] at hresolve'; cases hresolve'
  | resolved hdepth hresolve _ ih =>
    cases h' with
    | tooDeep hdepth' => omega
    | unresolved _ hresolve' => rw [hresolve] at hresolve'; cases hresolve'
    | resolved _ hresolve' hrun =>
      rw [hresolve] at hresolve'
      cases hresolve'
      rw [ih hrun]
  | done => cases h'; rfl
  | fail => cases h'; rfl
  | broken hcompile hresult ih =>
    cases h' with
    | broken hcompile' => exact ih hcompile'
    | continued hcompile' hresult' =>
      rw [hcompile.eq_outcome, ← hcompile'.eq_outcome, hresult'] at hresult
      cases hresult
  | continued hcompile hresult _ ih ihrest =>
    cases h' with
    | broken hcompile' hresult' =>
      rw [hcompile.eq_outcome, ← hcompile'.eq_outcome, hresult'] at hresult
      cases hresult
    | continued hcompile' hresult' hrest' =>
      rw [hcompile.eq_outcome, ← hcompile'.eq_outcome, hresult'] at hresult
      cases hresult
      rw [ih hcompile', ihrest hrest']

/-- No spec is classified at a depth above the greatest that is allowed. -/
theorem Ends.depth_le (h : r.Ends task visits o) : ∀ visit ∈ visits, visit.1 ≤ r.maxDepth := by
  induction h with
  | tooDeep | done | fail => exact nofun
  | unresolved hdepth => exact List.forall_mem_singleton.mpr hdepth
  | resolved hdepth _ _ ih => exact List.forall_mem_cons.mpr ⟨hdepth, ih⟩
  | broken _ _ ih => exact ih
  | continued _ _ _ ih ihrest => exact List.forall_mem_append.mpr ⟨ih, ihrest⟩

/-- What is reported is what classifying the visited specs reports, one after the other. -/
theorem Ends.events_eq (h : r.Ends task visits o) :
    o.events = visits.flatMap fun visit => (r.resolve visit.2).events := by
  induction h with
  | tooDeep | done | fail => rfl
  | unresolved => rw [List.flatMap_singleton]
  | resolved _ _ _ ih => rw [List.flatMap_cons, ih]
  | broken _ _ ih => exact ih
  | continued _ _ _ ih ihrest => rw [List.flatMap_append, ih, ihrest]

theorem exists_ends_run {depth : Int}
    (h : ∀ spec, ∃ visits, r.Ends (.compile depth spec) visits (r.compileAt depth spec)) (plan : Plan) :
    ∃ visits, r.Ends (.run depth plan) visits (plan.run (r.compileAt depth)) := by
  induction plan with
  | done m => exact ⟨[], .done⟩
  | fail e => exact ⟨[], .fail⟩
  | child spec next ih =>
    obtain ⟨visits, hcompile⟩ := h spec
    cases hresult : (r.compileAt depth spec).result with
    | error e =>
      refine ⟨visits, ?_⟩
      rw [Plan.run, Outcome.andThen, hresult]
      exact .broken hcompile hresult
    | ok m =>
      obtain ⟨rest, hrest⟩ := ih m
      refine ⟨visits ++ rest, ?_⟩
      rw [Plan.run, Outcome.andThen, hresult]
      exact .continued hcompile hresult hrest

/-- Compiling ends, whatever the kinds ask for: each call stands one level deeper than the one that led to it, and none
goes on below the greatest depth. -/
theorem exists_ends_compile (r : Registry) (depth : Int) (spec : Value) :
    ∃ visits, r.Ends (.compile depth spec) visits (r.compileAt depth spec) := by
  -- The number of levels left carries the induction; the specs need not get smaller.
  induction hlevels : (r.maxDepth + 1 - depth).toNat generalizing depth spec with
  | zero =>
    have hdepth : r.maxDepth < depth := by omega
    rw [compileAt_step, if_pos hdepth]
    exact ⟨[], .tooDeep hdepth⟩
  | succ levels ih =>
    have hdepth : depth ≤ r.maxDepth := by omega
    rw [compileAt_step, if_neg (by omega), Outcome.andThen]
    cases hresolve : (r.resolve spec).result with
    | error e => exact ⟨_, .unresolved hdepth hresolve⟩
    | ok k =>
      obtain ⟨visits, hrun⟩ := exists_ends_run (fun inner => ih (depth + 1) inner (by omega)) (k.plan depth spec)
      exact ⟨_, .resolved hdepth hresolve hrun⟩

/-- With more levels a spec compiles as before, unless it nests too deep for the fewer ones. -/
theorem compileWithin_sameUnless (r : Registry) {levels levels' : Nat} (h : levels ≤ levels') (depth : Int)
    (spec : Value) :
    (r.compileWithin levels depth spec).SameUnless (· = .nestedTooDeep) (r.compileWithin levels' depth spec) := by
  induction levels generalizing levels' depth spec with
  | zero => exact Or.inl ⟨_, rfl, rfl⟩
  | succ levels ih =>
    obtain ⟨more, rfl⟩ := Nat.exists_eq_add_of_le' h
    rw [compileWithin, ← Nat.add_assoc, compileWithin]
    refine (Outcome.SameUnless.refl _ _).andThen fun k => Plan.run_sameUnless (fun inner => ?_) (k.plan depth spec)
    exact ih (Nat.le_add_left levels more) (depth + 1) inner

/-- Where more depth is allowed, a spec compiles as before, unless it nests too deep for what was allowed. -/
theorem compileAt_sameUnless (r : Registry) {maxDepth : Int} (h : r.maxDepth ≤ maxDepth) (depth : Int) (spec : Value) :
    (r.compileAt depth spec).SameUnless (· = .nestedTooDeep) ({ r with maxDepth }.compileAt depth spec) := by
  have hresolve : ∀ spec, { r with maxDepth }.resolve spec = r.resolve spec := fun _ => rfl
  rw [compileAt, compileAt, compileWithin_congr hresolve]
  exact r.compileWithin_sameUnless (Int.toNat_le_toNat (by simp only; omega)) depth spec

end Registry

end Clausewise
