import Clausewise.Proofs.Match.Correspondence

/-! The bound on nested calls: a larger bound never changes an outcome, it only gives one to calls that had run into the
bound. So every call has an ending that no longer depends on the bound. -/
namespace Clausewise

namespace Outcome
variable {α β : Type} {o o' o'' : Outcome α}

/-- That the second computation ends as the first does, unless calls in the first nest too deep. -/
def Approximates (o o' : Outcome α) : Prop := o.result = .error .callsTooDeep ∨ o'.result = o.result

theorem Approximates.of_result_eq (h : o.result = o'.result) : o.Approximates o' := Or.inr h.symm

theorem Approximates.refl (o : Outcome α) : o.Approximates o := of_result_eq rfl

theorem Approximates.trans (h : o.Approximates o') (h' : o'.Approximates o'') : o.Approximates o'' := by
  rcases h with hdeep | heq
  · exact Or.inl hdeep
  · rcases h' with hdeep | heq'
    · exact Or.inl (heq ▸ hdeep)
    · exact Or.inr (heq'.trans heq)

theorem Approximates.andThen {next next' : α → Outcome β} (h : o.Approximates o')
    (hnext : ∀ a, o.result = .ok a → (next a).Approximates (next' a)) :
    (o.andThen next).Approximates (o'.andThen next') := by
  rw [Approximates, result_andThen, result_andThen]
  rcases h with hdeep | heq
  · rw [hdeep]
    exact Or.inl rfl
  · rw [heq]
    cases hresult : o.result with
    | error e => exact Or.inr rfl
    | ok a => exact hnext a hresult

theorem Approximates.iterated (h : o.Approximates o') : o.iterated.Approximates o'.iterated := by
  rw [Approximates, result_iterated, result_iterated]
  rcases h with hdeep | heq
  · rw [hdeep]
    exact Or.inl rfl
  · rw [heq]
    exact Or.inr rfl

/-- Approximation as a correspondence. -/
def approximation : Correspondence where
  holds := Approximates
  refl := Approximates.refl
  andThen := Approximates.andThen
  iterated := Approximates.iterated

end Outcome

section
variable {call call' : Caller}

theorem approximates_test (hcall : Outcome.approximation.AgreeWithin (fun _ => True) (fun _ => True) call call')
    (m : Matcher) (value : Value) : (m.test call value).Approximates (m.test call' value) :=
  (Matcher.agree_test hcall m value (fun _ _ => trivial) fun _ _ => trivial).corresponds

theorem approximates_produce (hcall : Outcome.approximation.AgreeWithin (fun _ => True) (fun _ => True) call call')
    (result value : Value) (extra : List Value) :
    (produce call result value extra).Approximates (produce call' result value extra) :=
  (agree_produce hcall (fun _ _ => trivial) (fun _ _ => trivial) fun _ _ _ _ => trivial).corresponds

theorem approximates_dispatch (hcall : Outcome.approximation.AgreeWithin (fun _ => True) (fun _ => True) call call')
    (clauses : List Clause) (fallback : Option Value) (value : Value) (extra : List Value) :
    (dispatch call clauses fallback value extra).Approximates (dispatch call' clauses fallback value extra) :=
  (agree_dispatch hcall (fun _ _ => ⟨fun _ _ => trivial, fun _ _ => trivial⟩) (fun _ _ _ _ => trivial)
    (fun _ _ => trivial) fun _ _ _ _ => trivial).corresponds

end

theorem Action.within_true (action : Action) : action.Within (fun _ => True) fun _ => True := by
  induction action with
  | done v => exact fun _ _ => trivial
  | fail e => trivial
  | call callee arguments next ih => exact ⟨fun _ _ => trivial, fun _ _ _ _ => trivial, fun v _ => ih v⟩
  | lookup handle next ih => exact ⟨trivial, fun v _ => ih v⟩

/-- Among all references nothing is out of reach. -/
theorem Library.containedIn_true (lib : Library) : lib.ContainedIn (fun _ => True) fun _ => True where
  meaning f arguments _ _ := (lib.meaning f arguments).within_true
  create _ _ _ _ _ _ _ _ := trivial
  create_congr summaries summaries' c arguments _ h := by
    obtain rfl : summaries' = summaries := funext fun id => h id trivial
    rfl
  selects _ _ _ _ _ _ _ _ := trivial

namespace Environment
variable {env : Environment} {depth depth' : Nat} {callee : Value} {arguments : List Value}
  {r : Except Failure Value}

theorem agreeWithin_true (env : Environment) : AgreeWithin (fun _ => True) (fun _ => True) env env where
  includes _ := id
  library := rfl
  contained := env.library.containedIn_true
  handle? _ _ := rfl
  builder? _ _ := rfl
  within_handle _ _ _ _ _ _ := trivial
  within_builder _ _ _ _ := ⟨fun _ _ => ⟨fun _ _ => trivial, fun _ _ => trivial⟩, fun _ _ _ _ => trivial⟩

theorem agreeWithin_callWithin_succ (env : Environment) (depth : Nat) :
    Outcome.approximation.AgreeWithin (fun _ => True) (fun _ => True) (env.callWithin depth)
      (env.callWithin (depth + 1)) := by
  induction depth with
  | zero => exact env.agreeWithin_true.caller fun _ _ _ _ => ⟨Or.inl rfl, fun _ _ _ _ => trivial⟩
  | succ depth ih => exact env.agreeWithin_true.caller fun _ _ => env.agreeWithin_true.answer ih

/-- Answers under any bound come with the searches and queries of the library. -/
theorem caller_callWithin (env : Environment) (depth : Nat) :
    env.caller (env.callWithin depth).answer = env.callWithin depth := by
  cases depth <;> rfl

theorem agreeWithin_callWithin (env : Environment) (h : depth ≤ depth') :
    Outcome.approximation.AgreeWithin (fun _ => True) (fun _ => True) (env.callWithin depth)
      (env.callWithin depth') := by
  rw [← env.caller_callWithin depth, ← env.caller_callWithin depth']
  induction h with
  | refl => exact env.agreeWithin_true.caller fun _ _ _ _ => .refl fun _ _ _ _ => trivial
  | @step between _ ih =>
    refine env.agreeWithin_true.caller fun callee arguments hcallee harguments => ?_
    rw [caller_callWithin, caller_callWithin] at ih
    have hnow := ih.answer callee arguments hcallee harguments
    have hstep := (env.agreeWithin_callWithin_succ between).answer callee arguments hcallee harguments
    exact ⟨hnow.corresponds.trans hstep.corresponds, hnow.ensures⟩

/-- With a larger bound on nested calls every call ends as before, unless it ran into the bound. -/
theorem approximates_callWithin (env : Environment) (h : depth ≤ depth') (callee : Value) (arguments : List Value) :
    (env.callWithin depth callee arguments).Approximates (env.callWithin depth' callee arguments) :=
  ((env.agreeWithin_callWithin h).answer callee arguments (fun _ _ => trivial) fun _ _ _ _ => trivial).corresponds

/-- How a call ends whatever the bound on nested calls is, if it is large enough. -/
def Ends (env : Environment) (callee : Value) (arguments : List Value) (r : Except Failure Value) : Prop :=
  ∃ enough, ∀ depth, enough ≤ depth → (env.callWithin depth callee arguments).result = r

/-- A call that stays within some bound ends that way with every larger one. -/
theorem ends_of_result_ne (h : (env.callWithin depth callee arguments).result ≠ .error .callsTooDeep) :
    env.Ends callee arguments (env.callWithin depth callee arguments).result :=
  ⟨depth, fun _ hle => (env.approximates_callWithin hle callee arguments).resolve_left h⟩

/-- Every call ends; one that runs into every bound ends by nesting too deep. -/
theorem exists_ends (env : Environment) (callee : Value) (arguments : List Value) :
    ∃ r, env.Ends callee arguments r := by
  by_cases h : ∃ depth, (env.callWithin depth callee arguments).result ≠ .error .callsTooDeep
  · obtain ⟨depth, hdepth⟩ := h
    exact ⟨_, ends_of_result_ne hdepth⟩
  · exact ⟨.error .callsTooDeep, 0, fun depth _ => Classical.not_not.mp fun hne => h ⟨depth, hne⟩⟩

end Environment

end Clausewise
