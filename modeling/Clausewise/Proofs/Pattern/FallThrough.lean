import Clausewise.Proofs.Match.Decision
import Clausewise.Proofs.Match.Depth

/-! Patterns whose default is another closed pattern, and so on: they end as the one pattern with the clauses of all of
them in order and the last default, apart from the calls that the way through the chain costs. -/
namespace Clausewise

/-- The default that leads through closed patterns one after the other, up to a last default if there is one. -/
def fallThrough : List (Nat × List Clause) → Option Value → Option Value
  | [], fallback => fallback
  | (id, clauses) :: rest, fallback => some (.closed id clauses (fallThrough rest fallback))

/-- What follows the same clauses may be exchanged for what it approximates, where the calls before it do so too. -/
theorem approximates_dispatch_append {call call' : Caller} {rest rest' : List Clause}
    {fallback fallback' : Option Value} {value : Value} {extra : List Value}
    (hcall : Outcome.approximation.AgreeWithin (fun _ => True) (fun _ => True) call call')
    (h : (dispatch call rest fallback value extra).Approximates (dispatch call' rest' fallback' value extra))
    (clauses : List Clause) :
    (dispatch call (clauses ++ rest) fallback value extra).Approximates
      (dispatch call' (clauses ++ rest') fallback' value extra) := by
  induction clauses with
  | nil => exact h
  | cons c clauses ih =>
    rw [Outcome.Approximates, List.cons_append, List.cons_append, result_dispatch_cons, result_dispatch_cons]
    rcases approximates_test hcall c.1 value with hdeep | heq
    · rw [hdeep]
      exact Or.inl rfl
    · rw [heq]
      cases (c.1.test call value).result with
      | error e => exact Or.inr rfl
      | ok accepted =>
        cases accepted with
        | true => exact approximates_produce hcall c.2 value extra
        | false => exact ih

namespace Environment
variable {env : Environment} {value : Value} {extra : List Value}

/-- A default that is a closed pattern is called one level deeper, and dispatches there. -/
theorem result_dispatch_nil_closed (depth id : Nat) (clauses : List Clause) (fallback : Option Value) (value : Value)
    (extra : List Value) :
    (dispatch (env.callWithin (depth + 1)) [] (some (.closed id clauses fallback)) value extra).result =
      (dispatch (env.callWithin depth) clauses fallback value extra).result := by
  rw [result_dispatch_nil]
  rfl

/-- A chain ends as the concatenation does within the same bound, unless it runs into the bound itself. -/
theorem approximates_dispatch_concatenation (depth : Nat) (chain : List (Nat × List Clause)) (fallback : Option Value)
    (clauses : List Clause) :
    (dispatch (env.callWithin depth) clauses (fallThrough chain fallback) value extra).Approximates
      (dispatch (env.callWithin depth) (clauses ++ chain.flatMap (·.2)) fallback value extra) := by
  induction chain generalizing depth clauses with
  | nil =>
    rw [List.flatMap_nil, List.append_nil]
    exact .refl _
  | cons pattern rest ih =>
    obtain ⟨id, others⟩ := pattern
    have hsame := env.agreeWithin_callWithin (Nat.le_refl depth)
    rw [List.flatMap_cons, ← List.append_nil clauses, List.append_assoc, List.nil_append]
    refine approximates_dispatch_append hsame ?_ clauses
    -- The default is called, so the rest of the chain has one level less than the clauses before it.
    cases depth with
    | zero =>
      rw [Outcome.Approximates, result_dispatch_nil]
      exact Or.inl rfl
    | succ depth =>
      have hinner := Outcome.Approximates.of_result_eq
        (env.result_dispatch_nil_closed depth id others (fallThrough rest fallback) value extra)
      have hmore := approximates_dispatch (env.agreeWithin_callWithin_succ depth) (others ++ rest.flatMap (·.2))
        fallback value extra
      exact hinner.trans ((ih depth others).trans hmore)

/-- The concatenation ends as the chain does that may make one more call for each of its patterns. -/
theorem approximates_dispatch_fallThrough (depth : Nat) (chain : List (Nat × List Clause)) (fallback : Option Value)
    (clauses : List Clause) :
    (dispatch (env.callWithin depth) (clauses ++ chain.flatMap (·.2)) fallback value extra).Approximates
      (dispatch (env.callWithin (depth + chain.length)) clauses (fallThrough chain fallback) value extra) := by
  induction chain generalizing clauses with
  | nil =>
    rw [List.flatMap_nil, List.append_nil]
    exact .refl _
  | cons pattern rest ih =>
    obtain ⟨id, others⟩ := pattern
    have hdeeper := env.agreeWithin_callWithin (Nat.le_add_right depth (rest.length + 1))
    have hinner := Outcome.Approximates.of_result_eq
      (env.result_dispatch_nil_closed (depth + rest.length) id others (fallThrough rest fallback) value extra).symm
    have hrest := approximates_dispatch_append hdeeper ((ih others).trans hinner) clauses
    rw [List.append_nil] at hrest
    exact hrest

/-- A pattern that falls through a chain of closed patterns ends as the pattern with the clauses of all of them, in
order, and the default of the last, or without a default if the last has none: with the same result, or with the same
failure. Either of them that stays within a bound on nested calls ends that way; the chain may need as many calls more
as there are patterns in it. -/
theorem fallThrough_eq_concatenation {pattern other : Value} {clauses : List Clause}
    {chain : List (Nat × List Clause)} {fallback : Option Value}
    (hpattern : env.content? pattern = some (clauses, fallThrough chain fallback))
    (hother : env.content? other = some (clauses ++ chain.flatMap (·.2), fallback)) (value : Value)
    (extra : List Value) :
    (∃ r, env.Ends pattern (value :: extra) r ∧ env.Ends other (value :: extra) r) ∧
      (∀ depth, (env.callWithin depth pattern (value :: extra)).Approximates
        (env.callWithin depth other (value :: extra))) ∧
      ∀ depth, (env.callWithin depth other (value :: extra)).Approximates
        (env.callWithin (depth + chain.length) pattern (value :: extra)) := by
  have hforth : ∀ depth, (env.callWithin depth pattern (value :: extra)).Approximates
      (env.callWithin depth other (value :: extra)) := by
    intro depth
    cases depth with
    | zero => exact .refl _
    | succ depth =>
      rw [callWithin_of_content? hpattern, callWithin_of_content? hother]
      exact approximates_dispatch_concatenation depth chain fallback clauses
  have hback : ∀ depth, (env.callWithin depth other (value :: extra)).Approximates
      (env.callWithin (depth + chain.length) pattern (value :: extra)) := by
    intro depth
    cases depth with
    | zero => exact Or.inl rfl
    | succ depth =>
      rw [Nat.add_right_comm, callWithin_of_content? hpattern, callWithin_of_content? hother]
      exact approximates_dispatch_fallThrough depth chain fallback clauses
  obtain ⟨r, enough, hends⟩ := env.exists_ends pattern (value :: extra)
  obtain ⟨r', enough', hends'⟩ := env.exists_ends other (value :: extra)
  -- Both have reached their ending at this depth; if one of them ends by nesting too deep, so does the other.
  let depth := max enough enough'
  have hpatternEnds := hends depth (Nat.le_max_left _ _)
  have hchainEnds := hends (depth + chain.length) (Nat.le_trans (Nat.le_max_left _ _) (Nat.le_add_right _ _))
  have hotherEnds := hends' depth (Nat.le_max_right _ _)
  have hsame : r' = r := by
    rcases hback depth with hdeep' | hback
    · rcases hforth depth with hdeep | hforth
      · rw [← hotherEnds, ← hpatternEnds, hdeep, hdeep']
      · rw [← hotherEnds, ← hpatternEnds, hforth]
    · rw [← hotherEnds, ← hchainEnds, hback]
  exact ⟨⟨r, ⟨enough, hends⟩, ⟨enough', hsame ▸ hends'⟩⟩, hforth, hback⟩

/-- A value that neither pattern of a chain takes: nothing matched it, as in the one pattern with both clauses. -/
theorem fallThrough_eq_concatenation_unmatched :
    let lib := Library.empty
    let env : Environment := ⟨lib, fun _ => none, fun _ => none⟩
    let one : List Clause := [(.literal (.int 1), .text "one")]
    let two : List Clause := [(.literal (.int 2), .text "two")]
    (env.call (.closed 1 one (some (.closed 0 two none))) [.int 3]).result = .error (.unmatched (.int 3)) := by
  intro lib env one two
  have hrefuses : ∀ c ∈ one ++ two, Refuses (env.callWithin 488) (.int 3) c.1 := by
    simp only [one, two, List.singleton_append, List.forall_mem_cons, List.not_mem_nil, false_implies, implies_true,
      and_true]
    constructor <;> rw [Refuses, Matcher.test] <;> rfl
  have hone : (env.callWithin 489 (.closed 2 (one ++ two) none) [.int 3]).result = .error (.unmatched (.int 3)) := by
    rw [callWithin_of_content? rfl, ← List.append_nil (one ++ two), result_dispatch_append_of_refuses hrefuses]
    exact result_dispatch_nil
  have hends := (@fallThrough_eq_concatenation env (.closed 1 one (some (.closed 0 two none)))
    (.closed 2 (one ++ two) none) one [(0, two)] none rfl rfl (.int 3) []).2.2 489
  rcases hends with hdeep | heq
  · rw [hone] at hdeep
    cases hdeep
  · exact heq.trans hone

end Environment

end Clausewise
