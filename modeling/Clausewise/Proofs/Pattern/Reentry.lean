import Clausewise.Proofs.Spec.Families
import Mathlib.Algebra.BigOperators.Group.List.Basic
import Mathlib.Data.Nat.Fib.Basic

/-! Patterns whose results call them again, by the handle that the pattern stands under: the descent of the Fibonacci
numbers and the sum over a tree of sequences. Each way down costs two nested calls, one of the pattern and one of the
function that its clause or its default leads to. -/
namespace Clausewise

namespace Value

/-- The leaves of a tree of sequences from left to right, if it is at most so high. A value that is no sequence is a
leaf, and what is left at that height counts as one. -/
def leaves : Nat → Value → List Value
  | 0, v => [v]
  | height + 1, v =>
    match v.items? with
    | some items => items.flatMap (leaves height)
    | none => [v]

/-- Whether a leaf can be added up: it is no sequence, and if it is a number, then an integer. -/
def isSummable : Value → Bool
  | number (.int _) => true
  | number _ => false
  | v => !(v.isSequence || v.isMadeFrom .number)

/-- What a leaf adds to a sum: an integer itself, everything else nothing. -/
def summand : Value → Int
  | number (.int n) => n
  | _ => 0

/-- A leaf that can be added up is an integer, or falls into neither of the two categories and adds nothing. -/
theorem isSummable_cases {v : Value} (h : v.isSummable = true) :
    (∃ n, v = int n) ∨
      (Category.number.contains v = false ∧ Category.sequence.contains v = false ∧ v.summand = 0) := by
  cases v with
  | number n =>
    cases n with
    | int n => exact .inl ⟨n, rfl⟩
    | _ => cases h
  | object | fault =>
    simp only [isSummable, Bool.not_eq_true', Bool.or_eq_false_iff] at h
    exact .inr ⟨by rw [Category.contains, h.2]; rfl, h.1, rfl⟩
  | _ =>
    simp only [isSummable, Bool.not_eq_true', Bool.or_eq_false_iff] at h
    exact .inr ⟨rfl, h.1, rfl⟩

end Value

namespace Stock

/-- The function that adds the answers for the two numbers before. -/
def descent (handle : String) (id : Nat) : Value := .function (functionFor "fib" handle id)

/-- The function that adds the answers for all the items of its argument. -/
def summation (handle : String) (id : Nat) : Value := .function (functionFor "sum_tree" handle id)

/-- The function that answers its argument. -/
def echo : Value := .function { name := "<lambda>" }

/-- The clauses for the first two Fibonacci numbers. -/
def firstTwo : List Clause := [(.literal (.int 0), .int 0), (.literal (.int 1), .int 1)]

/-- The clauses for numbers, which count for themselves, and for sequences, whose items are added up. -/
def summing (handle : String) (id : Nat) : List Clause :=
  [(.category .number, echo), (.category .sequence, summation handle id)]

end Stock

namespace Environment
open Stock
variable {env : Environment} {call : Caller} {handle : String} {target pattern : Value} {clauses : List Clause}
  {fallback : Option Value} {depth id : Nat}

/-- A pattern ends as its clauses and its default prescribe, with the calls that they lead to one level less deep. -/
theorem result_callWithin_of_prescribed {value : Value} {extra : List Value} {o : Except Failure Value}
    (h : env.content? pattern = some (clauses, fallback))
    (hends : Prescribed (env.callWithin depth) value extra clauses fallback o) :
    (env.callWithin (depth + 1) pattern (value :: extra)).result = o := by
  rw [callWithin_of_content? h]
  exact prescribed_iff.mp hends

/-- That a pattern with the clauses and the default stands under the handle, among the ready-made functions. -/
structure StandsUnder (env : Environment) (handle : String) (target : Value) (clauses : List Clause)
    (fallback : Value) : Prop where
  library : env.library = Stock.library
  handle? : env.handle? handle = some target
  content? : env.content? target = some (clauses, some fallback)

theorem callWithin_descent (hlibrary : env.library = Stock.library) (v : Value) :
    env.callWithin (depth + 1) (descent handle id) [v] =
      env.carryOut (env.callWithin depth) (sumOfTwoBefore handle v) :=
  callWithin_function hlibrary depth _ [v]

theorem callWithin_summation (hlibrary : env.library = Stock.library) (v : Value) :
    env.callWithin (depth + 1) (summation handle id) [v] =
      env.carryOut (env.callWithin depth) (sumOverAll handle v) :=
  callWithin_function hlibrary depth _ [v]

theorem callWithin_echo (hlibrary : env.library = Stock.library) (v : Value) :
    env.callWithin (depth + 1) echo [v] = .ok v :=
  callWithin_function hlibrary depth _ [v]

/-- Looking up a handle that stands for a pattern, and going on with a call of it. -/
theorem carryOut_lookup_call (hhandle : env.handle? handle = some target) (arguments : List Value)
    (next : Value → Action) :
    env.carryOut call (.lookup handle fun pattern => .call pattern arguments next) =
      (call target arguments).andThen fun answer => env.carryOut call (next answer) := by
  simp only [carryOut, hhandle]

section Descent

theorem carryOut_callLess (hhandle : env.handle? handle = some target) (n less : Int) (next : Value → Action) :
    env.carryOut call (callLess handle (.int n) less next) =
      (call target [.int (n - less)]).andThen fun answer => env.carryOut call (next answer) :=
  carryOut_lookup_call hhandle [.int (n - less)] next

theorem result_carryOut_sumOfTwoBefore (hhandle : env.handle? handle = some target) {n a b : Int}
    (hone : (call target [.int (n - 1)]).result = .ok (.int a))
    (htwo : (call target [.int (n - 2)]).result = .ok (.int b)) :
    (env.carryOut call (sumOfTwoBefore handle (.int n))).result = .ok (.int (a + b)) := by
  rw [sumOfTwoBefore, carryOut_callLess hhandle, Outcome.result_andThen, hone]
  change (env.carryOut call (callLess handle (.int n) 2 _)).result = _
  rw [carryOut_callLess hhandle, Outcome.result_andThen, htwo]
  rfl

theorem refuses_literal_int (call : Caller) {m n : Int} (h : m ≠ n) : Refuses call (.int n) (.literal (.int m)) := by
  rw [refuses_literal_iff, Value.strictEqual_int, decide_eq_false h]

/-- Neither of the two clauses takes another number. -/
theorem refuses_firstTwo (call : Caller) {n : Int} (hzero : n ≠ 0) (hone : n ≠ 1) :
    ∀ c ∈ firstTwo, Refuses call (.int n) c.1 :=
  List.forall_mem_cons.mpr ⟨refuses_literal_int call hzero.symm,
    List.forall_mem_singleton.mpr (refuses_literal_int call hone.symm)⟩

/-- Every other number is passed on to the function that descends. -/
theorem result_call_descent (hpattern : env.content? pattern = some (firstTwo, some (descent handle id))) {n : Int}
    (hzero : n ≠ 0) (hone : n ≠ 1) :
    (env.callWithin (depth + 1) pattern [.int n]).result = (env.callWithin depth (descent handle id) [.int n]).result :=
  result_callWithin_of_prescribed hpattern (.default (refuses_firstTwo _ hzero hone) rfl (.answer rfl))

/-- The first two numbers are their own Fibonacci numbers, without a further call. -/
theorem result_call_firstTwo (hpattern : env.content? pattern = some (firstTwo, fallback)) {n : Nat} (hn : n ≤ 1) :
    (env.callWithin (depth + 1) pattern [.int n]).result = .ok (.int n) := by
  have haccepts : ((Matcher.literal (.int n)).test (env.callWithin depth) (.int n)).result = .ok true := by
    rw [Matcher.test, Value.strictEqual_int, decide_eq_true rfl]
    rfl
  have hplain : Produces (env.callWithin depth) (.int n) [] (.int n) (.ok (.int n)) := .plain (by simp) rfl
  apply result_callWithin_of_prescribed hpattern
  obtain rfl | rfl : n = 0 ∨ n = 1 := by omega
  · exact .clause (show firstTwo = [] ++ _ :: _ from rfl) (List.forall_mem_nil _) haccepts hplain
  · have hzero := refuses_literal_int (env.callWithin depth) (show (0 : Int) ≠ 1 by decide)
    exact .clause (show firstTwo = [_] ++ _ :: _ from rfl) (List.forall_mem_singleton.mpr hzero) haccepts hplain

/-- The pattern ends with the Fibonacci number of every natural number, within two calls for each step down and one
more. -/
theorem result_call_fibonacci (h : env.StandsUnder handle target firstTwo (descent handle id))
    (hpattern : env.content? pattern = some (firstTwo, some (descent handle id))) (n : Nat) (hdepth : 2 * n < depth) :
    (env.callWithin depth pattern [.int n]).result = .ok (.int (Nat.fib n)) := by
  induction n using Nat.twoStepInduction generalizing pattern depth with
  | zero =>
    obtain ⟨depth, rfl⟩ := Nat.exists_eq_add_of_le' (show 1 ≤ depth by omega)
    exact result_call_firstTwo hpattern (by decide)
  | one =>
    obtain ⟨depth, rfl⟩ := Nat.exists_eq_add_of_le' (show 1 ≤ depth by omega)
    exact result_call_firstTwo hpattern (by decide)
  | more n ih ih' =>
    obtain ⟨depth, rfl⟩ := Nat.exists_eq_add_of_le' (show 2 ≤ depth by omega)
    have hone : (env.callWithin depth target [.int ((n + 2 : Nat) - 1)]).result = .ok (.int (Nat.fib (n + 1))) := by
      rw [show ((n + 2 : Nat) - 1 : Int) = (n + 1 : Nat) by omega]
      exact ih' h.content? (by omega)
    have htwo : (env.callWithin depth target [.int ((n + 2 : Nat) - 2)]).result = .ok (.int (Nat.fib n)) := by
      rw [show ((n + 2 : Nat) - 2 : Int) = n by omega]
      exact ih h.content? (by omega)
    rw [result_call_descent hpattern (by omega) (by omega), callWithin_descent h.library,
      result_carryOut_sumOfTwoBefore h.handle? hone htwo, Nat.fib_add_two, Nat.cast_add, add_comm]

/-- Below zero the descent does not end: it nests deeper than any bound. -/
theorem result_call_fibonacci_of_neg (h : env.StandsUnder handle target firstTwo (descent handle id))
    (hpattern : env.content? pattern = some (firstTwo, some (descent handle id))) {n : Int} (hn : n < 0)
    (depth : Nat) : (env.callWithin depth pattern [.int n]).result = .error .callsTooDeep := by
  induction depth using Nat.twoStepInduction generalizing pattern n with
  | zero => rfl
  | one => exact result_call_descent hpattern (Int.ne_of_lt hn) (by omega)
  | more depth ih =>
    have hdeep := ih h.content? (show n - 1 < 0 by omega)
    rw [result_call_descent hpattern (Int.ne_of_lt hn) (by omega), callWithin_descent h.library, sumOfTwoBefore,
      carryOut_callLess h.handle?, Outcome.result_andThen, hdeep]
    rfl

end Descent

section Summing

/-- The answers for the items are added to the sum so far, one after the other. -/
theorem result_carryOut_sumOverItems (hhandle : env.handle? handle = some target) {items : List Value} {f : Value → Int}
    (hitems : ∀ item ∈ items, (call target [item]).result = .ok (.int (f item))) (sum : Int) :
    (env.carryOut call (sumOverItems handle items (.int sum))).result = .ok (.int (sum + (items.map f).sum)) := by
  induction items generalizing sum with
  | nil => simp [sumOverItems, carryOut]
  | cons item items ih =>
    obtain ⟨hitem, hrest⟩ := List.forall_mem_cons.mp hitems
    rw [sumOverItems, carryOut_lookup_call hhandle, Outcome.result_andThen, hitem]
    refine (ih hrest (sum + f item)).trans ?_
    rw [List.map_cons, List.sum_cons, add_assoc]

theorem accepts_category (call : Caller) {v : Value} {c : Category} (h : c.contains v = true) :
    ((Matcher.category c).test call v).result = .ok true := by
  rw [Matcher.test, h, Outcome.result_ok]

/-- A leaf is not looked into: an integer goes to the first clause, everything else to the default. -/
theorem result_call_leaf (h : env.StandsUnder handle target (summing handle id) (.int 0))
    (hpattern : env.content? pattern = some (summing handle id, some (.int 0))) {leaf : Value}
    (hleaf : leaf.isSummable = true) :
    (env.callWithin (depth + 2) pattern [leaf]).result = .ok (.int leaf.summand) := by
  apply result_callWithin_of_prescribed hpattern
  rcases Value.isSummable_cases hleaf with ⟨n, rfl⟩ | ⟨hnumber, hsequence, hsummand⟩
  · have hnumber : Category.number.contains (.int n) = true := rfl
    have haccepts := accepts_category (env.callWithin (depth + 1)) hnumber
    have hanswer : Produces (env.callWithin (depth + 1)) (.int n) [] echo _ := .answer rfl
    rw [callWithin_echo h.library] at hanswer
    exact .clause (show summing handle id = [] ++ _ :: _ from rfl) (List.forall_mem_nil _) haccepts hanswer
  · have hrefuses : ∀ c ∈ summing handle id, Refuses (env.callWithin (depth + 1)) leaf c.1 :=
      List.forall_mem_cons.mpr ⟨(refuses_category_iff ..).mpr hnumber,
        List.forall_mem_singleton.mpr ((refuses_category_iff ..).mpr hsequence)⟩
    rw [hsummand]
    exact .default hrefuses rfl (.plain (by simp) rfl)

/-- A sequence goes to the second clause, which adds the answers for its items. -/
theorem result_call_items (h : env.StandsUnder handle target (summing handle id) (.int 0))
    (hpattern : env.content? pattern = some (summing handle id, some (.int 0))) {v : Value} {items : List Value}
    {f : Value → Int} (hv : v.items? = some items)
    (hitems : ∀ item ∈ items, (env.callWithin depth target [item]).result = .ok (.int (f item))) :
    (env.callWithin (depth + 2) pattern [v]).result = .ok (.int (items.map f).sum) := by
  apply result_callWithin_of_prescribed hpattern
  have hsequence : Category.sequence.contains v = true := Value.isSequence_of_items? hv
  have hnumber : Category.number.contains v = false := by
    cases v with
    | number | object | fault => cases hv
    | _ => rfl
  have hrefuses := (refuses_category_iff (env.callWithin (depth + 1)) v .number).mpr hnumber
  have haccepts := accepts_category (env.callWithin (depth + 1)) hsequence
  have hsum : (env.callWithin (depth + 1) (summation handle id) [v]).result = .ok (.int (items.map f).sum) := by
    rw [callWithin_summation h.library, sumOverAll, Value.iterate?_of_items? hv]
    refine (result_carryOut_sumOverItems h.handle? hitems 0).trans ?_
    rw [zero_add]
  exact .clause (show summing handle id = [_] ++ _ :: _ from rfl) (List.forall_mem_singleton.mpr hrefuses) haccepts
    (hsum ▸ .answer rfl)

/-- The pattern ends with the sum over the leaves of a tree, within two calls for each level and two more. -/
theorem result_call_tree (h : env.StandsUnder handle target (summing handle id) (.int 0))
    (hpattern : env.content? pattern = some (summing handle id, some (.int 0))) {height : Nat} {tree : Value}
    (hleaves : ∀ leaf ∈ tree.leaves height, leaf.isSummable = true) (hdepth : 2 * height + 1 < depth) :
    (env.callWithin depth pattern [tree]).result = .ok (.int ((tree.leaves height).map Value.summand).sum) := by
  induction height generalizing pattern tree depth with
  | zero =>
    obtain ⟨depth, rfl⟩ := Nat.exists_eq_add_of_le' (show 2 ≤ depth by omega)
    rw [Value.leaves, List.forall_mem_singleton] at hleaves
    rw [result_call_leaf h hpattern hleaves, Value.leaves, List.map_singleton, List.sum_singleton]
  | succ height ih =>
    obtain ⟨depth, rfl⟩ := Nat.exists_eq_add_of_le' (show 2 ≤ depth by omega)
    cases hv : tree.items? with
    | none =>
      simp only [Value.leaves, hv, List.forall_mem_singleton] at hleaves ⊢
      rw [result_call_leaf h hpattern hleaves, List.map_singleton, List.sum_singleton]
    | some items =>
      simp only [Value.leaves, hv] at hleaves ⊢
      have hitems : ∀ item ∈ items, (env.callWithin depth target [item]).result =
          .ok (.int ((item.leaves height).map Value.summand).sum) := by
        intro item hitem
        exact ih h.content? (fun leaf hleaf => hleaves leaf (List.mem_flatMap_of_mem hitem hleaf)) (by omega)
      rw [result_call_items h hpattern hv hitems, List.map_flatMap, List.flatMap_def, List.sum_flatten, List.map_map]
      rfl

end Summing

end Environment

end Clausewise
