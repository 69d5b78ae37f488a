import Clausewise.Kind.BuiltIn

/-! Resolution of specs among the built-in kinds, and compilation as one step that no longer counts levels. -/
namespace Clausewise

/-- The first of the built-in kinds that accepts the spec. -/
def Value.kind? (spec : Value) : Option KindName := KindName.all.find? fun k => k.accepts spec

theorem Value.exists_kind?_eq_some_iff (spec : Value) :
    (∃ k, spec.kind? = some k) ↔ ∃ k : KindName, k.accepts spec = true := by
  rw [← Option.isSome_iff_exists, kind?, List.find?_isSome]
  constructor
  · rintro ⟨k, _, hk⟩
    exact ⟨k, hk⟩
  · rintro ⟨k, hk⟩
    exact ⟨k, by cases k <;> decide, hk⟩

namespace Registry

/-- The registered form of a built-in kind, under its own name and priority. -/
def builtInKind (limit : Value) (k : KindName) : Kind := .builtIn limit k (.builtIn k) k.priority

/-- The built-in kinds are registered in the order in which they are tried. -/
theorem trialOrder_builtIn (limit : Value) (maxDepth : Int) :
    (builtIn limit maxDepth).trialOrder = KindName.all.map (builtInKind limit) := by
  have hsorted : (KindName.all.map (builtInKind limit)).Pairwise
      fun a b => decide (b.priority ≤ a.priority) = true := by
    rw [List.pairwise_map]
    exact (by decide : KindName.all.Pairwise fun a b => decide (b.priority ≤ a.priority) = true)
  exact List.mergeSort_of_pairwise hsorted

private theorem firstAccepting_builtIn (limit : Value) (ks : List KindName) (spec : Value) :
    firstAccepting (ks.map (builtInKind limit)) spec =
      match ks.find? fun k => k.accepts spec with
      | some k => .ok (builtInKind limit k)
      | none => .error (.about .unclassifiable spec) := by
  induction ks with
  | nil => rfl
  | cons k ks ih =>
    rw [List.map_cons, firstAccepting, List.find?_cons, ih]
    cases h : k.accepts spec <;> simp [builtInKind, Kind.builtIn, h]

/-- The built-in kinds resolve a spec to the first that accepts it, and report it. -/
theorem resolve_builtIn (limit : Value) (maxDepth : Int) (spec : Value) :
    (builtIn limit maxDepth).resolve spec =
      match spec.kind? with
      | some k => ⟨[.resolved (.builtIn k) spec], .ok (builtInKind limit k)⟩
      | none => .fail (.about .unclassifiable spec) := by
  rw [resolve, trialOrder_builtIn, firstAccepting_builtIn, Value.kind?]
  cases KindName.all.find? fun k => k.accepts spec <;> rfl

/-- Compiling a spec at a depth: the depth is checked first, then the spec is resolved, then the plan of its
kind runs, one level deeper for what it asks for. -/
theorem compileAt_step (r : Registry) (depth : Int) (spec : Value) :
    r.compileAt depth spec =
      if r.maxDepth < depth then .fail .nestedTooDeep
      else (r.resolve spec).andThen fun k => (k.plan depth spec).run (r.compileAt (depth + 1)) := by
  unfold compileAt
  split
  · rw [show (r.maxDepth + 1 - depth).toNat = 0 by omega, compileWithin]
  · rw [show (r.maxDepth + 1 - depth).toNat = (r.maxDepth + 1 - (depth + 1)).toNat + 1 by omega,
      compileWithin]

theorem compileAt_builtIn (limit : Value) (maxDepth depth : Int) (spec : Value) :
    (builtIn limit maxDepth).compileAt depth spec =
      if maxDepth < depth then .fail .nestedTooDeep
      else
        match spec.kind? with
        | some k =>
          (Outcome.report (.resolved (.builtIn k) spec)).andThen fun _ =>
            (k.plan limit spec).run ((builtIn limit maxDepth).compileAt (depth + 1))
        | none => .fail (.about .unclassifiable spec) := by
  rw [compileAt_step, resolve_builtIn]
  cases spec.kind? <;> rfl

/-- Unless not even specs without parts are allowed, a spec with a kind ends as the plan of its kind. -/
theorem result_compile_of_kind? {maxDepth : Int} (hdepth : 0 ≤ maxDepth) {limit spec : Value} {k : KindName}
    (hkind : spec.kind? = some k) :
    ((builtIn limit maxDepth).compile spec).result =
      ((k.plan limit spec).run ((builtIn limit maxDepth).compileAt 1)).result := by
  rw [compile, compileAt_builtIn, if_neg (by omega), hkind]
  rfl

end Registry

end Clausewise
