import Clausewise.Proofs.Match.Decision
import Clausewise.Proofs.Pattern.Methods
import Clausewise.Proofs.Spec.Survey
import Clausewise.Proofs.Value.Equivalence
import Mathlib.Data.List.Pairwise

/-! Clauses of literals that differ from each other: at most one of them does not refuse a value, so their order makes
no difference. -/
namespace Clausewise

section
variable {call : Caller} {value : Value} {extra : List Value} {fallback : Option Value}

/-- Where at most one clause does not refuse the value, the clauses may be put into any order. -/
theorem result_dispatch_perm {clauses others : List Clause} (hperm : clauses.Perm others)
    (halone : ∀ c ∈ clauses, ∀ d ∈ clauses, ¬ Refuses call value c.1 → ¬ Refuses call value d.1 → c = d) :
    (dispatch call clauses fallback value extra).result = (dispatch call others fallback value extra).result := by
  rcases forall_refuses_or_exists_first call value clauses with hall | ⟨before, c, after, hsplit, hbefore, hc⟩
  · have hothers : ∀ d ∈ others, Refuses call value d.1 := fun d hd => hall d (hperm.mem_iff.mpr hd)
    rw [← List.append_nil clauses, ← List.append_nil others, result_dispatch_append_of_refuses hall,
      result_dispatch_append_of_refuses hothers]
  · have hmem : c ∈ clauses := hsplit ▸ List.mem_append_right _ List.mem_cons_self
    rcases forall_refuses_or_exists_first call value others with hall | ⟨before', d, after', hsplit', hbefore', hd⟩
    · exact absurd (hall c (hperm.mem_iff.mp hmem)) hc
    · have hmem' : d ∈ clauses := hperm.mem_iff.mpr (hsplit' ▸ List.mem_append_right _ List.mem_cons_self)
      obtain rfl := halone c hmem d hmem' hc hd
      rw [hsplit, hsplit', result_dispatch_append_of_refuses hbefore, result_dispatch_append_of_refuses hbefore']
      exact result_dispatch_eq_of_not_refuses hc [] after after'

theorem refuses_literal_iff (call : Caller) (value expected : Value) :
    Refuses call value (.literal expected) ↔ expected.strictEqual value = .ok false := by
  rw [Refuses, Matcher.test]
  cases expected.strictEqual value <;> simp [Outcome.ofComparison]

/-- That the literals of two rows differ. -/
def LiteralsDiffer (row other : Value × Value) : Prop := row.1.strictEqual other.1 = .ok false

theorem result_dispatch_literals_perm {rows others : List (Value × Value)} (hperm : rows.Perm others)
    (hdistinct : rows.Pairwise LiteralsDiffer) (hvalue : value.isSignalling = false) (before : List Clause) :
    (dispatch call (before ++ rows.map fun row => (.literal row.1, row.2)) fallback value extra).result =
      (dispatch call (before ++ others.map fun row => (.literal row.1, row.2)) fallback value extra).result := by
  refine result_dispatch_append_congr (result_dispatch_perm (hperm.map _) ?_) before
  simp only [List.forall_mem_map, refuses_literal_iff]
  intro row hrow other hother hdecides hdecides'
  by_cases heq : row = other
  · rw [heq]
  · have hsymm : Std.Symm LiteralsDiffer := ⟨fun row other h => (Value.strictEqual_comm other.1 row.1).trans h⟩
    rw [Value.strictEqual_comm] at hdecides hdecides'
    exact absurd (hdistinct.forall hrow hother heq) (Value.strictEqual_ne_false_of_common hvalue hdecides hdecides')

end

namespace Registry
variable {limit : Value} {maxDepth : Int}

/-- A literal compiles to the test for it, unless not even specs without parts are allowed. -/
theorem result_compile_literal (hdepth : 0 ≤ maxDepth) {spec : Value} (h : spec.isLiteral = true) :
    ((builtIn limit maxDepth).compile spec).result = .ok (.literal spec) := by
  have hkind : spec.kind? = some .literal := List.find?_cons_of_pos h
  exact result_compile_of_kind? hdepth hkind

end Registry

namespace Builder
variable {registry : Nat → Registry} {b : Builder} {limit : Value} {maxDepth : Int}

/-- Clauses of literals form a table whose order makes no difference. If no literal is strictly equal to another, a
pattern with their clauses in any other order dispatches every value alike, with the same result or the same failure,
except for a number that refuses to be compared. -/
theorem literal_rows_perm {rows others : List (Value × Value)}
    (hregistry : registry b.registry = .builtIn limit maxDepth)
    (hdepth : 0 ≤ maxDepth) (hopen : b.closed = false) (hliteral : ∀ row ∈ rows, row.1.isLiteral = true)
    (hdistinct : rows.Pairwise LiteralsDiffer) (hperm : rows.Perm others) {env : Environment} {pattern other : Value}
    {fallback : Option Value} (hpattern : env.content? pattern = some ((whenRows registry rows b).clauses, fallback))
    (hother : env.content? other = some ((whenRows registry others b).clauses, fallback)) {value : Value}
    (hvalue : value.isSignalling = false) (depth : Nat) (extra : List Value) :
    (env.callWithin depth pattern (value :: extra)).result = (env.callWithin depth other (value :: extra)).result := by
  have hcompile : ∀ row ∈ rows, ((registry b.registry).compile row.1).result = .ok (.literal row.1) := by
    intro row hrow
    rw [hregistry]
    exact Registry.result_compile_literal hdepth (hliteral row hrow)
  have hcompile' : ∀ row ∈ others, ((registry b.registry).compile row.1).result = .ok (.literal row.1) :=
    fun row hrow => hcompile row (hperm.mem_iff.mpr hrow)
  rw [whenRows_eq_of_compile hopen hcompile] at hpattern
  rw [whenRows_eq_of_compile hopen hcompile'] at hother
  cases depth with
  | zero => rfl
  | succ depth =>
    rw [Environment.callWithin_of_content? hpattern, Environment.callWithin_of_content? hother]
    exact result_dispatch_literals_perm hperm hdistinct hvalue b.clauses

end Builder

end Clausewise
