import Clausewise.Proofs.Match.Decision
import Clausewise.Proofs.Spec.Combination
import Clausewise.Proofs.Value.Equivalence
import Clausewise.Proofs.Value.Parts

/-! Specs that come to a verdict on every value, provided that all that is inside the value lets itself be looked into
and compared; and patterns of such specs, which fail only where nothing matches. -/
namespace Clausewise

/-- That an operation has a result. -/
def Outcome.HasResult {α : Type} (o : Outcome α) : Prop := ∃ a, o.result = .ok a

namespace Outcome
variable {α β : Type}

theorem HasResult.andThen {o : Outcome α} {next : α → Outcome β} (h : o.HasResult) (hnext : ∀ a, (next a).HasResult) :
    (o.andThen next).HasResult := by
  obtain ⟨a, ha⟩ := h
  obtain ⟨b, hb⟩ := hnext a
  exact ⟨b, result_andThen_eq_ok_iff.mpr ⟨a, ha, hb⟩⟩

theorem HasResult.iterated {o : Outcome α} (h : o.HasResult) : o.iterated.HasResult := by
  obtain ⟨a, ha⟩ := h
  exact ⟨a, result_iterated_eq_ok_iff.mpr ha⟩

end Outcome

namespace Matcher
variable {call : Caller} {v : Value} {ms : List Matcher} {fields : List (Value × Matcher)}

end Matcher

namespace Value

variable {call : Caller} {limit v : Value} {specs : List Value}

end Value

namespace Environment

end Environment

end Clausewise
