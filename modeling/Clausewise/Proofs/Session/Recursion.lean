import Clausewise.Proofs.Pattern.Reentry
import Clausewise.Proofs.Session.Frame

/-! Patterns of a session whose results call them by their handle compute the recursion that they spell out, closed or
as the builder that they came from, and whatever happens later in the session. -/
namespace Clausewise.Session
open Environment Stock
variable {s : Session} {n : Nat} {view : String} {more : List Command} {limit : Value} {maxDepth : Int}

/-- A pattern that was made among the ready-made functions stands under its handle, and the builder that it came from
holds the same. -/
theorem standsUnder_making {rows : List (Value × Value)} {f : Value → Matcher}
    (hcompile : ∀ row ∈ rows, ((s.registry n).compile row.1).result = .ok (f row.1)) (name : String) (fallback : Value)
    (hmore : ∀ c ∈ more, c.binds? ≠ some view) :
    let clauses := rows.map fun row => (f row.1, row.2)
    let closed := Value.closed s.origins.length clauses (some fallback)
    let env := (s.run Stock.library (Command.making name n rows fallback view ++ more)).environment Stock.library
    env.StandsUnder view closed clauses fallback ∧
      ∀ pattern ∈ [closed, .builder s.builders.length], env.content? pattern = some (clauses, some fallback) := by
  intro clauses closed env
  obtain ⟨hhandle, hbuilder⟩ := run_making hcompile Stock.library name fallback hmore
  refine ⟨⟨rfl, hhandle, rfl⟩, List.forall_mem_cons.mpr ⟨rfl, List.forall_mem_singleton.mpr ?_⟩⟩
  exact congrArg (Option.map _) hbuilder

/-- A pattern with clauses for zero and one and a default that adds what the pattern answers for the two numbers before
ends with the Fibonacci number of every natural number, closed or as the builder that it came from, also after further
commands that leave its handle alone. No more than two calls nest for each step down, and one more. Below zero, where no
clause stops the descent, it nests deeper than any bound. -/
theorem ends_with_fibonacci (hregistry : s.registry n = .builtIn limit maxDepth) (hdepth : 0 ≤ maxDepth) (name : String)
    (id : Nat) (hmore : ∀ c ∈ more, c.binds? ≠ some view) :
    let closed := Value.closed s.origins.length firstTwo (some (descent view id))
    let rows : List (Value × Value) := [(.int 0, .int 0), (.int 1, .int 1)]
    let later := s.run Stock.library (Command.making name n rows (descent view id) view ++ more)
    let env := later.environment Stock.library
    later.handle? view = some closed ∧ ∀ pattern ∈ [closed, .builder s.builders.length],
      (∀ i depth : Nat, 2 * i < depth → (env.callWithin depth pattern [.int i]).result = .ok (.int (Nat.fib i))) ∧
      ∀ i : Int, i < 0 → ∀ depth, (env.callWithin depth pattern [.int i]).result = .error .callsTooDeep := by
  intro closed rows later env
  have hcompile : ∀ row ∈ rows, ((s.registry n).compile row.1).result = .ok (.literal row.1) := by
    rw [hregistry]
    exact List.forall_mem_cons.mpr ⟨Registry.result_compile_literal hdepth rfl,
      List.forall_mem_singleton.mpr (Registry.result_compile_literal hdepth rfl)⟩
  obtain ⟨hstands, hcontent⟩ := standsUnder_making hcompile name (descent view id) hmore
  refine ⟨hstands.handle?, fun pattern hpattern => ⟨fun i depth => ?_, fun i hi depth => ?_⟩⟩
  · exact result_call_fibonacci hstands (hcontent pattern hpattern) i
  · exact result_call_fibonacci_of_neg hstands (hcontent pattern hpattern) hi depth

/-- The tenth Fibonacci number, through the closed pattern and through its builder, after the builder's own handle was
given up. -/
theorem ends_with_fibonacci_tenth :
    let fresh : Session := { registries := [.standard] }
    let rows : List (Value × Value) := [(.int 0, .int 0), (.int 1, .int 1)]
    let s := fresh.run Stock.library (Command.making "p" 0 rows (descent "fib" 0) "fib" ++ [.drop "p"])
    (s.dispatch Stock.library "fib" (.int 10) []).result = .ok (.int 55) ∧
      ((s.environment Stock.library).call (.builder 0) [.int 10]).result = .ok (.int 55) := by
  intro fresh rows s
  have hmore : ∀ c ∈ [Command.drop "p"], c.binds? ≠ some "fib" := by simp [Command.binds?]
  obtain ⟨hhandle, hends⟩ := ends_with_fibonacci (s := fresh) (n := 0) rfl (by decide) "p" 0 hmore
  obtain ⟨hclosed, hbuilder⟩ := List.forall_mem_cons.mp hends
  refine ⟨?_, (hbuilder _ (List.mem_singleton_self _)).1 10 deepestCall (by decide)⟩
  rw [dispatch, show s.handle? "fib" = some _ from hhandle]
  exact hclosed.1 10 deepestCall (by decide)

/-- A pattern that answers numbers with themselves, adds up what it answers for the items of a sequence, and has the
default zero ends with the sum of the integers among the leaves of a tree of sequences, of any height and width, whose
other leaves are anything but numbers: truth values, texts, bytes, absences and mappings, whatever these hold, count for
nothing. No more than two calls nest for each level of the tree, and two more. -/
theorem ends_with_sum_of_leaves (hregistry : s.registry n = .builtIn limit maxDepth) (hdepth : 0 ≤ maxDepth)
    (name : String) (id : Nat) (hmore : ∀ c ∈ more, c.binds? ≠ some view) :
    let closed := Value.closed s.origins.length (summing view id) (some (.int 0))
    let rows : List (Value × Value) := [(.category .number, echo), (.category .sequence, summation view id)]
    let later := s.run Stock.library (Command.making name n rows (.int 0) view ++ more)
    let env := later.environment Stock.library
    later.handle? view = some closed ∧ ∀ pattern ∈ [closed, .builder s.builders.length],
      ∀ (height : Nat) (tree : Value), (∀ leaf ∈ tree.leaves height, leaf.isSummable = true) →
        ∀ depth, 2 * height + 1 < depth → (env.callWithin depth pattern [tree]).result =
          .ok (.int ((tree.leaves height).map Value.summand).sum) := by
  intro closed rows later env
  have hcompile : ∀ row ∈ rows, ((s.registry n).compile row.1).result = .ok (.ofSpec limit row.1) := by
    rw [hregistry]
    exact List.forall_mem_cons.mpr ⟨Registry.result_compile_category hdepth _,
      List.forall_mem_singleton.mpr (Registry.result_compile_category hdepth _)⟩
  obtain ⟨hstands, hcontent⟩ := standsUnder_making hcompile name (.int 0) hmore
  refine ⟨hstands.handle?, fun pattern hpattern height tree hleaves depth hheight => ?_⟩
  exact result_call_tree hstands (hcontent pattern hpattern) hleaves hheight

/-- A list that holds numbers, truth values and texts at several depths, and a mapping that holds the list again. -/
theorem ends_with_sum_of_leaves_mixed :
    let fresh : Session := { registries := [.standard] }
    let rows : List (Value × Value) := [(.category .number, echo), (.category .sequence, summation "total" 0)]
    let s := fresh.run Stock.library (Command.making "p" 0 rows (.int 0) "total" ++ [.addClause "p" .null .null])
    let tree := Value.cyclic (.list [.int 1, .tuple [.bool true, .list [.int (-3), .text "7"], .int 40], .null,
      .undefined, .bytes [7], .list [], .plainMapping [(.text "self", .back 0), (.int 2, .int 100)]])
    (s.dispatch Stock.library "total" tree []).result = .ok (.int 38) ∧
      ((s.environment Stock.library).call (.builder 0) [tree]).result = .ok (.int 38) := by
  intro fresh rows s tree
  have hmore : ∀ c ∈ [Command.addClause "p" .null .null], c.binds? ≠ some "total" := by simp [Command.binds?]
  obtain ⟨hhandle, hends⟩ := ends_with_sum_of_leaves (s := fresh) (n := 0) rfl (by decide) "p" 0 hmore
  obtain ⟨hclosed, hbuilder⟩ := List.forall_mem_cons.mp hends
  have hleaves : ∀ leaf ∈ tree.leaves 3, leaf.isSummable = true := by decide +kernel
  have hsum : ((tree.leaves 3).map Value.summand).sum = 38 := by decide +kernel
  rw [dispatch, show s.handle? "total" = some _ from hhandle, ← hsum]
  exact ⟨hclosed 3 tree hleaves deepestCall (by decide),
    hbuilder _ (List.mem_singleton_self _) 3 tree hleaves deepestCall (by decide)⟩

end Clausewise.Session
