import Clausewise.Match.Test
import Clausewise.Proofs.Spec.BooleanLaws
import Clausewise.Proofs.Value.Reversal

/-! Ranges against the two comparisons that they are made of. A range asks its lower bound whether it is at most the
value, a comparison asks the value whether it is at least the bound. -/
namespace Clausewise

namespace Matcher
open Value
variable {low high v : Value}

/-- A comparison of two values never exhausts an iteration, so it may as well be a step of one. -/
@[simp] theorem iterated_ofExcept_forgiving (answer : Except ComparisonFault Bool) :
    (Outcome.ofExcept (forgiving answer)).iterated = .ofExcept (forgiving answer) := by
  cases answer with
  | ok holds => rfl
  | error fault =>
    rw [forgiving]
    cases fault.isAboutTypes with
    | false => exact congrArg Outcome.fail fault.outOfIteration_toFailure
    | true => rfl

/-- A range ends as the comparisons with its two bounds do, one after the other, where it does not matter which side the
lower bound is asked from. -/
theorem test_between (h : ordered .ge v low = ordered .le low v) (call : Caller) (high : Value) :
    (between low high).test call v = (allOf [comparison .ge low, comparison .le high]).test call v := by
  rw [test, test, testAll, testAll, testAll, test, test, rangeVerdict, comparisonVerdict, comparisonVerdict, h]
  simp only [Outcome.bind_eq_andThen, Outcome.pure_eq_ok, Outcome.andThen_ite_ok, Outcome.iterated_andThen,
    iterated_ofExcept_forgiving]
  cases ordered .le low v with
  | ok verdict =>
    cases verdict with
    | false => rfl
    | true => exact (iterated_ofExcept_forgiving _).symm
  | error fault =>
    -- A fault about types is a no, and ends both before the upper bound is asked.
    simp only [forgiving, bind, Except.bind]
    cases fault.isAboutTypes <;> rfl

end Matcher

namespace Registry
open Value
variable {limit low : Value} {maxDepth : Int}

/-- A range is the intersection of the comparisons with its two bounds. Where the lower bound and the value are literals
or sequences of such values, nested to any depth, NaN among them, both come to the same verdict or fail alike. -/
theorem between_eq_comparisons (hdepth : 0 ≤ maxDepth) (limit : Value) (hlow : Ordinary low) (high : Value) :
    ∃ m, ((builtIn limit maxDepth).allOf
        [.matcher (.comparison .ge low), .matcher (.comparison .le high)]).result = .ok m ∧
      ∀ call v, Ordinary v → (Matcher.between low high).test call v = m.test call v := by
  refine ⟨.allOf [.comparison .ge low, .comparison .le high], ?_, fun call v hv => ?_⟩
  · exact result_allOf_matchers hdepth [_, _]
  · exact Matcher.test_between (hlow.ordered_flip hv .le) call high

/-- The first items are equal, `1` and `true`, and the next ones are tuples whose first items, a decimal NaN and a
fraction, have no order: both tests fail before the upper bound is looked at. -/
theorem between_eq_comparisons_nested :
    let call : Caller := .answering fun _ _ => .fail .callsTooDeep
    let low := Value.list [.int 1, .tuple [.number (.decimal (.nan false false none))]]
    let v := Value.list [.bool true, .tuple [.number (.fraction 2)], .text "a"]
    ∃ m, ((builtIn usualLimit 0).allOf
        [.matcher (.comparison .ge low), .matcher (.comparison .le .null)]).result = .ok m ∧
      (Matcher.between low .null).test call v = .fail .invalidOperation ∧ m.test call v = .fail .invalidOperation := by
  intro call low v
  have hlow : Ordinary low := by
    refine .sequence (List.forall_mem_cons.mpr ⟨.literal rfl, List.forall_mem_singleton.mpr ?_⟩)
    exact .sequence (List.forall_mem_singleton.mpr (.literal rfl))
  have hv : Ordinary v := by
    refine .sequence (List.forall_mem_cons.mpr ⟨.literal rfl, List.forall_mem_cons.mpr ⟨?_, ?_⟩⟩)
    · exact .sequence (List.forall_mem_singleton.mpr (.literal rfl))
    · exact List.forall_mem_singleton.mpr (.literal rfl)
  obtain ⟨m, hm, hends⟩ := between_eq_comparisons (show 0 ≤ 0 by decide) usualLimit hlow .null
  have hfail : (Matcher.between low .null).test call v = .fail .invalidOperation := by
    rw [Matcher.test]
    rfl
  exact ⟨m, hm, hfail, (hends call v hv).symm.trans hfail⟩

end Registry

end Clausewise
