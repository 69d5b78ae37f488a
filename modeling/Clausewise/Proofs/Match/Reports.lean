import Clausewise.Match.Call

/-! What is reported while values are tested and dispatched. Tests and productions report nothing of their own, only
what the calls do that they make; so whatever a call reports comes from dispatches. -/
namespace Clausewise

namespace Outcome
variable {α β : Type} {P : Event → Prop} {o : Outcome α} {next : α → Outcome β}

/-- That everything an operation reports has a property. -/
def Reports (P : Event → Prop) (o : Outcome α) : Prop := ∀ event ∈ o.events, P event

theorem reports_ok (a : α) : (ok a).Reports P := nofun

theorem reports_fail (e : Failure) : (fail e : Outcome α).Reports P := nofun

theorem reports_ofExcept (r : Except Failure α) : (ofExcept r).Reports P := nofun

theorem reports_ofComparison (r : Except ComparisonFault α) : (ofComparison r).Reports P := by
  cases r <;> exact nofun

theorem Reports.andThen (h : o.Reports P) (hnext : ∀ a, (next a).Reports P) : (o.andThen next).Reports P := by
  unfold Outcome.andThen
  split
  · exact List.forall_mem_append.mpr ⟨h, hnext _⟩
  · exact h

theorem Reports.ite {c : Prop} [Decidable c] {o' : Outcome α} (h : o.Reports P) (h' : o'.Reports P) :
    (if c then o else o').Reports P := by
  split
  · exact h
  · exact h'

theorem Reports.iterated (h : o.Reports P) : o.iterated.Reports P := h

end Outcome

open Outcome

variable {P : Event → Prop} {call : Caller}

namespace Matcher

mutual

/-- A test reports what its calls report. -/
theorem reports_test (hcall : ∀ callee arguments, (call callee arguments).Reports P) : (m : Matcher) → (v : Value) →
    (m.test call v).Reports P
  | .predicate callee, v => by
    rw [test]
    exact (hcall callee [v]).andThen fun _ => reports_ok _
  | .sequence items, v => by
    rw [test]
    split
    · exact reports_ofExcept _
    · split
      · exact reports_ok _
      · exact (reports_fail _).ite ((reports_ok _).ite (reports_testItems hcall items v 0).iterated)
  | .mapping fields, v => by
    rw [test]
    split
    · exact reports_fail _
    · exact (reports_ok _).ite (reports_testFields hcall fields v)
  | .anyOf ms, v => by
    rw [test]
    exact (reports_testAny hcall ms v).iterated
  | .allOf ms, v => by
    rw [test]
    exact (reports_testAll hcall ms v).iterated
  | .negation inner, v => by
    rw [test]
    exact (reports_test hcall inner v).andThen fun _ => reports_ok _
  | .query _ _ inner, v => by
    rw [test]
    exact (reports_ofExcept _).andThen fun found => reports_test hcall inner found
  | .literal expected, v => by
    rw [test]
    exact reports_ofComparison _
  | .always, _ | .regex _ _, _ | .instanceOf _, _ | .category _, _ | .comparison _ _, _ | .between _ _, _
  | .verdict _, _ | .depth _, _ => by
    rw [test]
    exact nofun
  | .equality expected, v => by
    rw [test]
    exact reports_ofComparison _

theorem reports_testItems (hcall : ∀ callee arguments, (call callee arguments).Reports P) : (ms : List Matcher) →
    (v : Value) → (i : Nat) → (testItems call ms v i).Reports P
  | [], _, _ => by
    rw [testItems]
    exact reports_ok _
  | m :: ms, v, i => by
    rw [testItems]
    split
    · exact reports_ok _
    · exact (reports_test hcall m _).andThen fun _ => (reports_testItems hcall ms v (i + 1)).ite (reports_ok _)

theorem reports_testFields (hcall : ∀ callee arguments, (call callee arguments).Reports P) :
    (fields : List (Value × Matcher)) → (v : Value) → (testFields call fields v).Reports P
  | [], _ => by
    rw [testFields]
    exact reports_ok _
  | (k, m) :: rest, v => by
    rw [testFields]
    split
    · exact reports_ok _
    · exact (reports_test hcall m _).andThen fun _ => (reports_testFields hcall rest v).ite (reports_ok _)

theorem reports_testAny (hcall : ∀ callee arguments, (call callee arguments).Reports P) : (ms : List Matcher) →
    (v : Value) → (testAny call ms v).Reports P
  | [], _ => by
    rw [testAny]
    exact reports_ok _
  | m :: ms, v => by
    rw [testAny]
    exact (reports_test hcall m v).andThen fun _ => (reports_ok _).ite (reports_testAny hcall ms v)

theorem reports_testAll (hcall : ∀ callee arguments, (call callee arguments).Reports P) : (ms : List Matcher) →
    (v : Value) → (testAll call ms v).Reports P
  | [], _ => by
    rw [testAll]
    exact reports_ok _
  | m :: ms, v => by
    rw [testAll]
    exact (reports_test hcall m v).andThen fun _ => (reports_testAll hcall ms v).ite (reports_ok _)

end

end Matcher

namespace Event

end Event

namespace Environment

end Environment

end Clausewise
