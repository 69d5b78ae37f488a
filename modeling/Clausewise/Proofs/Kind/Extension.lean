import Clausewise.Proofs.Kind.Precedence
import Clausewise.Proofs.Kind.Recipe
import Clausewise.Proofs.Spec.Survey

/-! A further kind that is tried after all others. It decides only on specs that no other kind accepts, so whatever
compiled or failed otherwise without it does so with it, also where kinds ask for specs at depths of their own choice.
-/
namespace Clausewise

/-- Whether a kind says no to a spec. -/
def Kind.rejects (k : Kind) (spec : Value) : Bool :=
  match k.accepts spec with
  | .ok false => true
  | _ => false

theorem Kind.rejects_iff {k : Kind} {spec : Value} : k.rejects spec = true ↔ k.accepts spec = .ok false := by
  unfold rejects
  split
  · simp [*]
  · rename_i hnot
    exact ⟨nofun, fun haccepts => absurd haccepts hnot⟩

namespace Recipe
variable {inside : Int → Value → Option Value} {compile compile' : Int → Value → Outcome Matcher} {recipe : Recipe}
  {inner : Value}

/-- The spec that stops a recipe because it is not classified; `inside` tells that spec for those that the recipe asks
for. -/
def unclassified? (inside : Int → Value → Option Value) (compile : Int → Value → Outcome Matcher) :
    Recipe → Option Value
  | done _ | fail _ => none
  | child depth spec next =>
    match inside depth spec, (compile depth spec).result with
    | some inner, _ => some inner
    | none, .ok m => (next m).unclassified? inside compile
    | none, .error _ => none

theorem run_eq_of_unclassified?_eq_none
    (hcompile : ∀ depth spec, inside depth spec = none → compile' depth spec = compile depth spec)
    (h : recipe.unclassified? inside compile = none) : recipe.run compile' = recipe.run compile := by
  induction recipe with
  | done m => rfl
  | fail e => rfl
  | child depth spec next ih =>
    rw [unclassified?] at h
    cases hinside : inside depth spec with
    | some inner => simp [hinside] at h
    | none =>
      rw [run, run, hcompile depth spec hinside]
      cases hresult : (compile depth spec).result with
      | error e => simp only [Outcome.andThen, hresult]
      | ok m =>
        simp only [hinside, hresult] at h
        simp only [Outcome.andThen, hresult, ih m h]

theorem result_run_of_unclassified? {P : Value → Prop}
    (hcompile : ∀ depth spec, inside depth spec = some inner →
      P inner ∧ (compile depth spec).result = .error (.about .unclassifiable inner))
    (h : recipe.unclassified? inside compile = some inner) :
    P inner ∧ (recipe.run compile).result = .error (.about .unclassifiable inner) := by
  induction recipe with
  | done m => cases h
  | fail e => cases h
  | child depth spec next ih =>
    rw [unclassified?] at h
    rw [run, Outcome.result_andThen]
    cases hinside : inside depth spec with
    | some stopped =>
      simp only [hinside, Option.some.injEq] at h
      obtain ⟨hP, hfails⟩ := hcompile depth spec (hinside.trans (congrArg some h))
      rw [hfails]
      exact ⟨hP, rfl⟩
    | none =>
      cases hresult : (compile depth spec).result with
      | error e => simp [hinside, hresult] at h
      | ok m =>
        simp only [hinside, hresult] at h
        exact ih m h

end Recipe

namespace Registry
variable {r : Registry} {new : Kind}

/-- A kind that is registered last, with a priority not above any other, is tried last. -/
theorem trialOrder_register_last (hlast : ∀ k ∈ r.kinds, new.priority ≤ k.priority) :
    (r.register new).trialOrder = r.trialOrder ++ [new] := by
  refine eq_of_ofPriority_eq (pairwise_trialOrder _) ?_ fun p => ?_
  · rw [List.pairwise_append]
    refine ⟨r.pairwise_trialOrder, List.pairwise_singleton _ _, fun k hk l hl => ?_⟩
    obtain rfl := List.mem_singleton.mp hl
    exact hlast k (r.trialOrder_perm.mem_iff.mp hk)
  · have happend : ∀ kinds, ofPriority p (kinds ++ [new]) = ofPriority p kinds ++ ofPriority p [new] :=
      fun kinds => List.filter_append ..
    rw [ofPriority_trialOrder, happend, ofPriority_trialOrder, register, happend]

/-- A search that some kind ends does not look at kinds further on. -/
theorem firstAccepting_append_eq {kinds : List Kind} {spec : Value} (h : ∃ k ∈ kinds, k.rejects spec = false)
    (more : List Kind) : firstAccepting (kinds ++ more) spec = firstAccepting kinds spec := by
  rcases firstAccepting_cases kinds spec with ⟨hall, -⟩ | ⟨before, k, after, rfl, hbefore, hdecides⟩
  · obtain ⟨k, hk, hrejects⟩ := h
    rw [Kind.rejects, hall k hk] at hrejects
    cases hrejects
  · rw [List.append_assoc, List.cons_append, firstAccepting_append hbefore, firstAccepting_append hbefore]
    rcases hdecides with ⟨haccepts, -⟩ | ⟨e, hfails, -⟩
    · simp only [firstAccepting, haccepts]
    · simp only [firstAccepting, hfails]

/-- The spec that stops the compiling of another one, at some depth and with so many nested calls, because no kind
accepts it: the given one or one that the recipes ask for. There is none if compiling ends otherwise. -/
def unclassified? (r : Registry) (recipe : Kind → Int → Value → Recipe) : Nat → Int → Value → Option Value
  | 0, _, _ => none
  | calls + 1, depth, spec =>
    if r.maxDepth < depth then none
    else if r.kinds.all fun k => k.rejects spec then some spec
    else
      match (r.resolve spec).result with
      | .ok k => (recipe k depth spec).unclassified? (r.unclassified? recipe calls) (r.compileFollowing recipe calls)
      | .error _ => none

theorem resolve_register_last (hlast : ∀ k ∈ r.kinds, new.priority ≤ k.priority) {spec : Value}
    (h : ¬ (r.kinds.all fun k => k.rejects spec) = true) : (r.register new).resolve spec = r.resolve spec := by
  have hdecides : ∃ k ∈ r.trialOrder, k.rejects spec = false := by
    simpa [r.trialOrder_perm.mem_iff] using h
  rw [resolve, resolve, trialOrder_register_last hlast, firstAccepting_append_eq hdecides]

theorem result_resolve_of_rejects {spec : Value} (h : ∀ k ∈ r.kinds, k.accepts spec = .ok false) :
    (r.resolve spec).result = .error (.about .unclassifiable spec) :=
  result_resolve_eq_error_iff.mpr (.inl ⟨rfl, h⟩)

theorem compileFollowing_register_last (hlast : ∀ k ∈ r.kinds, new.priority ≤ k.priority)
    {recipe : Kind → Int → Value → Recipe} {calls : Nat} {depth : Int} {spec : Value}
    (h : r.unclassified? recipe calls depth spec = none) :
    (r.register new).compileFollowing recipe calls depth spec = r.compileFollowing recipe calls depth spec := by
  induction calls generalizing depth spec with
  | zero => rfl
  | succ calls ih =>
    have hdepth : (r.register new).maxDepth = r.maxDepth := rfl
    rw [unclassified?] at h
    rw [compileFollowing, compileFollowing, hdepth]
    split
    · rfl
    rename_i hallowed
    rw [if_neg hallowed] at h
    split at h
    · cases h
    · rename_i hrejected
      rw [resolve_register_last hlast hrejected]
      cases hresolve : (r.resolve spec).result with
      | error e => simp only [Outcome.andThen, hresolve]
      | ok k =>
        rw [hresolve] at h
        have hrun := Recipe.run_eq_of_unclassified?_eq_none (fun depth spec => ih) h
        simp only [Outcome.andThen, hresolve, hrun]

theorem result_compileFollowing_of_unclassified? {recipe : Kind → Int → Value → Recipe} {calls : Nat} {depth : Int}
    {spec inner : Value} (h : r.unclassified? recipe calls depth spec = some inner) :
    (∀ k ∈ r.kinds, k.accepts inner = .ok false) ∧
      (r.compileFollowing recipe calls depth spec).result = .error (.about .unclassifiable inner) := by
  induction calls generalizing depth spec with
  | zero => cases h
  | succ calls ih =>
    rw [unclassified?] at h
    rw [compileFollowing]
    split at h
    · cases h
    rename_i hallowed
    rw [if_neg hallowed, Outcome.result_andThen]
    split at h
    · rename_i hrejected
      obtain rfl := Option.some.inj h
      have hall : ∀ k ∈ r.kinds, k.accepts spec = .ok false :=
        fun k hk => Kind.rejects_iff.mp (List.all_eq_true.mp hrejected k hk)
      rw [result_resolve_of_rejects hall]
      exact ⟨hall, rfl⟩
    · cases hresolve : (r.resolve spec).result with
      | error e =>
        rw [hresolve] at h
        cases h
      | ok k =>
        rw [hresolve] at h
        exact Recipe.result_run_of_unclassified? (P := fun inner => ∀ k ∈ r.kinds, k.accepts inner = .ok false)
          (fun depth spec hinner => ih hinner) h

/-- The spec that stops the compiling of another one by the plans of the kinds because no kind accepts it. -/
def unclassifiedAt? (r : Registry) (depth : Int) (spec : Value) : Option Value :=
  r.unclassified? (fun k depth spec => (k.plan depth spec).recipe (depth + 1)) ((r.maxDepth + 1 - depth).toNat + 1)
    depth spec

/-- A kind that is tried last extends a registry conservatively. Compiling a spec, by recipes with which each kind may
ask for further specs at depths of its own choice or by the plans of the kinds, may stop at a spec that no kind of the
registry accepts, the given one or one inside it; then it fails for that spec. Otherwise compiling with the new kind is
what it was: with the same reports, and the same matcher or the same failure. -/
theorem compile_eq_of_kind_tried_last (hlast : ∀ k ∈ r.kinds, new.priority ≤ k.priority) :
    (∀ recipe calls depth spec,
      match r.unclassified? recipe calls depth spec with
      | some inner => (∀ k ∈ r.kinds, k.accepts inner = .ok false) ∧
          (r.compileFollowing recipe calls depth spec).result = .error (.about .unclassifiable inner)
      | none =>
        (r.register new).compileFollowing recipe calls depth spec = r.compileFollowing recipe calls depth spec) ∧
    ∀ depth spec,
      match r.unclassifiedAt? depth spec with
      | some inner => (∀ k ∈ r.kinds, k.accepts inner = .ok false) ∧
          (r.compileAt depth spec).result = .error (.about .unclassifiable inner)
      | none => (r.register new).compileAt depth spec = r.compileAt depth spec := by
  refine ⟨fun recipe calls depth spec => ?_, fun depth spec => ?_⟩
  · split
    · rename_i hinner
      exact result_compileFollowing_of_unclassified? hinner
    · rename_i hnone
      exact compileFollowing_register_last hlast hnone
  · have hcalls : r.maxDepth - depth < (r.maxDepth + 1 - depth).toNat := by omega
    have hplans := compileFollowing_plans r hcalls spec
    split
    · rename_i hinner
      rw [← hplans]
      exact result_compileFollowing_of_unclassified? hinner
    · rename_i hnone
      rw [← hplans, ← compileFollowing_plans (r.register new) hcalls spec]
      exact compileFollowing_register_last hlast hnone

/-- A kind that never decides, of the same priority as the last of the built-in ones, changes nothing for a list whose
items are all classified; nor for a list that contains itself, where every item is asked for as if it stood at the top
and the calls nest until there may be no more. -/
theorem compile_eq_of_kind_tried_last_tied :
    let new : Kind := ⟨.custom "undecided", 10, Stock.failsToDecide, Stock.failsToCompile⟩
    let r := builtIn usualLimit 1
    let spec := Value.list [.cls .int, .function { name := "is_even" }]
    let endless := Value.cyclic (.list [.back 0])
    let fromTop : Kind → Int → Value → Recipe := fun k depth spec => (k.plan depth spec).recipe 0
    (∀ k ∈ r.kinds, new.priority ≤ k.priority) ∧
      (r.register new).compileAt 0 spec = r.compileAt 0 spec ∧
      (r.register new).compileFollowing fromTop 1 0 endless = r.compileFollowing fromTop 1 0 endless := by
  intro new r spec endless fromTop
  have hlast : ∀ k ∈ r.kinds, new.priority ≤ k.priority := by decide
  obtain ⟨hrecipes, hplans⟩ := compile_eq_of_kind_tried_last hlast
  have hplan := hplans 0 spec
  have hrecipe := hrecipes fromTop 1 0 endless
  have hcompiles : (r.compileAt 0 spec).result = .ok (.ofSpec usualLimit spec) :=
    result_compile_of_passes rfl (by decide)
  have hendless : r.unclassified? fromTop 1 0 endless = none := by
    rw [unclassified?, resolve_builtIn]
    rfl
  rw [hendless] at hrecipe
  refine ⟨hlast, ?_, hrecipe⟩
  cases hstopped : r.unclassifiedAt? 0 spec with
  | none =>
    rw [hstopped] at hplan
    exact hplan
  | some inner =>
    rw [hstopped, hcompiles] at hplan
    cases hplan.2

end Registry

end Clausewise
