import Clausewise.Proofs.Match.Incomparable
import Clausewise.Proofs.Number.Line
import Clausewise.Proofs.Value.StrictEquality

/-! Comparisons of real numbers cut the line of numbers. A number lies below, at or above a bound, whatever the families
of the two are, and the tests say which. -/
namespace Clausewise

namespace Value
variable {v b : Value} {p q : NumberLine}

/-- The place of a value on the line of numbers; truth values stand at zero and one. -/
def place? (v : Value) : Option NumberLine := v.number?.bind Number.place?

theorem ordered_eq_cmp (hv : v.place? = some p) (hb : b.place? = some q) (c : Comparison) :
    ordered c v b = .ok (c.holds (cmp p q)) := by
  obtain ⟨m, hm, hp⟩ := Option.bind_eq_some_iff.mp hv
  obtain ⟨n, hn, hq⟩ := Option.bind_eq_some_iff.mp hb
  rw [ordered_of_number? hm hn, Number.order_eq_cmp hp hq]
  rfl

theorem isLiteral_of_place? (h : v.place? = some p) : v.isLiteral = true := by
  cases v <;> first | rfl | cases h

theorem equal_eq_cmp (hv : v.place? = some p) (hb : b.place? = some q) : v.equal b = .ok (cmp p q == .eq) := by
  obtain ⟨eq, hequal⟩ := equal_of_isLiteral (isLiteral_of_place? hv) (isLiteral_of_place? hb)
  obtain ⟨m, hm, hp⟩ := Option.bind_eq_some_iff.mp hv
  obtain ⟨n, hn, hq⟩ := Option.bind_eq_some_iff.mp hb
  have hnumbers : partsEqual eq v b = liftNumbers (m.equal n) := by simp only [partsEqual, hm, hn]
  rw [hequal, hnumbers, Number.equal_eq_cmp hp hq]
  rfl

end Value

namespace Matcher
open Value
variable {v b : Value} {p q : NumberLine}

theorem test_comparison_of_place? (call : Caller) (hv : v.place? = some p) (hb : b.place? = some q) (c : Comparison) :
    (comparison c b).test call v = .ok (c.holds (cmp p q)) := by
  rw [test, comparisonVerdict, ordered_eq_cmp hv hb]
  rfl

theorem test_equality_of_place? (call : Caller) (hv : v.place? = some p) (hb : b.place? = some q) :
    (equality b).test call v = .ok (cmp p q == .eq) := by
  rw [test, equal_eq_cmp hv hb]
  rfl

/-- Complex numbers are in no order with any number. -/
theorem test_comparison_of_isComplex (call : Caller) {m n : Number} (hv : v.number? = some m) (hb : b.number? = some n)
    (h : m.isComplex = true ∨ n.isComplex = true) (c : Comparison) : (comparison c b).test call v = .ok false := by
  rw [test, comparisonVerdict, ordered_of_number? hv hb, Number.order, if_pos (by simpa using h)]
  rfl

/-- That the comparisons of a value with a bound cut the line of numbers where the bound stands. -/
structure CutsLine (call : Caller) (v b : Value) (p q : NumberLine) : Prop where
  below : (comparison .lt b).test call v = .ok (decide (p < q))
  equal : (equality b).test call v = .ok (decide (p = q))
  above : (comparison .gt b).test call v = .ok (decide (q < p))
  atMost : (comparison .le b).test call v = .ok (decide (p ≤ q))
  atLeast : (comparison .ge b).test call v = .ok (decide (q ≤ p))
  /-- The value is below the bound, equal to it or above it, and only one of these. -/
  exactlyOne : ∃! m, m ∈ [comparison .lt b, equality b, comparison .gt b] ∧ m.test call v = .ok true
  atMost_iff : (comparison .le b).test call v = .ok true ↔
    (comparison .lt b).test call v = .ok true ∨ (equality b).test call v = .ok true
  atLeast_iff : (comparison .ge b).test call v = .ok true ↔
    (comparison .gt b).test call v = .ok true ∨ (equality b).test call v = .ok true
  /-- The value is below the bound if the bound is above the value. -/
  mirrored : (comparison .lt b).test call v = (comparison .gt v).test call b

private theorem ok_eq_ok_decide {verdict : Bool} {P : Prop} [Decidable P] (h : verdict = true ↔ P) :
    Outcome.ok verdict = .ok (decide P) := by
  rw [Bool.eq_iff_iff.mpr (h.trans (decide_eq_true_iff (p := P)).symm)]

private theorem ok_decide_eq_ok_true_iff {P : Prop} [Decidable P] : Outcome.ok (decide P) = .ok true ↔ P := by
  simp [Outcome.ok]

theorem cutsLine (call : Caller) (hv : v.place? = some p) (hb : b.place? = some q) : CutsLine call v b p q := by
  have below : (comparison .lt b).test call v = .ok (decide (p < q)) :=
    (test_comparison_of_place? call hv hb .lt).trans (ok_eq_ok_decide (beq_iff_eq.trans (cmp_eq_lt_iff p q)))
  have equal : (equality b).test call v = .ok (decide (p = q)) :=
    (test_equality_of_place? call hv hb).trans (ok_eq_ok_decide (beq_iff_eq.trans (cmp_eq_eq_iff p q)))
  have above : (comparison .gt b).test call v = .ok (decide (q < p)) :=
    (test_comparison_of_place? call hv hb .gt).trans (ok_eq_ok_decide (beq_iff_eq.trans (cmp_eq_gt_iff p q)))
  have atMost : (comparison .le b).test call v = .ok (decide (p ≤ q)) := by
    refine (test_comparison_of_place? call hv hb .le).trans (ok_eq_ok_decide ?_)
    rw [Comparison.holds, bne_iff_ne, Ne, cmp_eq_gt_iff, not_lt]
  have atLeast : (comparison .ge b).test call v = .ok (decide (q ≤ p)) := by
    refine (test_comparison_of_place? call hv hb .ge).trans (ok_eq_ok_decide ?_)
    rw [Comparison.holds, bne_iff_ne, Ne, cmp_eq_lt_iff, not_lt]
  have mirrored : (comparison .gt v).test call b = .ok (decide (p < q)) :=
    (test_comparison_of_place? call hb hv .gt).trans (ok_eq_ok_decide (beq_iff_eq.trans (cmp_eq_gt_iff q p)))
  have below_iff : (comparison .lt b).test call v = .ok true ↔ p < q := by rw [below, ok_decide_eq_ok_true_iff]
  have equal_iff : (equality b).test call v = .ok true ↔ p = q := by rw [equal, ok_decide_eq_ok_true_iff]
  have above_iff : (comparison .gt b).test call v = .ok true ↔ q < p := by rw [above, ok_decide_eq_ok_true_iff]
  refine ⟨below, equal, above, atMost, atLeast, ?_, ?_, ?_, below.trans mirrored.symm⟩
  · simp only [List.mem_cons, List.not_mem_nil, or_false]
    rcases lt_trichotomy p q with h | h | h
    · refine ⟨_, ⟨.inl rfl, below_iff.mpr h⟩, ?_⟩
      rintro m ⟨rfl | rfl | rfl, htest⟩
      · rfl
      · exact absurd (equal_iff.mp htest) h.ne
      · exact absurd (above_iff.mp htest) h.not_gt
    · refine ⟨_, ⟨.inr (.inl rfl), equal_iff.mpr h⟩, ?_⟩
      rintro m ⟨rfl | rfl | rfl, htest⟩
      · exact absurd h (below_iff.mp htest).ne
      · rfl
      · exact absurd h (above_iff.mp htest).ne'
    · refine ⟨_, ⟨.inr (.inr rfl), above_iff.mpr h⟩, ?_⟩
      rintro m ⟨rfl | rfl | rfl, htest⟩
      · exact absurd (below_iff.mp htest) h.not_gt
      · exact absurd (equal_iff.mp htest) h.ne'
      · rfl
  · rw [atMost, ok_decide_eq_ok_true_iff, below_iff, equal_iff, le_iff_lt_or_eq]
  · rw [atLeast, ok_decide_eq_ok_true_iff, above_iff, equal_iff, le_iff_lt_or_eq, eq_comm]

/-- Comparisons of real numbers of all families, infinities among them, cut the line of numbers exactly: below, equal
and above exclude each other and leave no gap, and what is below a number that is below a third is below the third.
Complex numbers are in no order with any number, NaN among them. -/
theorem comparisons_cut_number_line (call : Caller) :
    (∀ v b p q, place? v = some p → place? b = some q → CutsLine call v b p q) ∧
    (∀ v b d p q r, place? v = some p → place? b = some q → place? d = some r →
      (comparison .lt b).test call v = .ok true → (comparison .lt d).test call b = .ok true →
      (comparison .lt d).test call v = .ok true) ∧
    ∀ v b m n, number? v = some m → number? b = some n → m.isComplex = true ∨ n.isComplex = true →
      ∀ c, (comparison c b).test call v = .ok false := by
  refine ⟨fun v b p q hv hb => cutsLine call hv hb, ?_, ?_⟩
  · intro v b d p q r hv hb hd hvb hbd
    rw [(cutsLine call hv hb).below, ok_decide_eq_ok_true_iff] at hvb
    rw [(cutsLine call hb hd).below, ok_decide_eq_ok_true_iff] at hbd
    rw [(cutsLine call hv hd).below, ok_decide_eq_ok_true_iff]
    exact hvb.trans hbd
  · intro v b m n hv hb h
    exact test_comparison_of_isComplex call hv hb h

/-- Two numbers beyond the integers that binary numbers tell apart: `2 ^ 53` as a binary number, the next integer, and a
decimal just above it. -/
theorem comparisons_cut_number_line_beyond_binary :
    let call : Caller := .answering fun _ _ => .fail .callsTooDeep
    let v := number (.float (.finite false 1 53))
    let b := Value.int 9007199254740993
    let d := number (.decimal (.finite false 90071992547409930001 (-4)))
    (comparison .lt b).test call v = .ok true ∧ (comparison .gt v).test call b = .ok true ∧
      (comparison .lt d).test call b = .ok true ∧ (comparison .lt d).test call v = .ok true ∧
      (comparison .le (number (.complex .zero .zero))).test call v = .ok false := by
  intro call v b d
  obtain ⟨hcuts, htrans, hcomplex⟩ := comparisons_cut_number_line call
  have hvb : (comparison .lt b).test call v = .ok true := by
    rw [test]
    rfl
  have hbd : (comparison .lt d).test call b = .ok true := by
    rw [test]
    rfl
  refine ⟨hvb, ?_, hbd, ?_, ?_⟩
  · exact (hcuts v b _ _ rfl rfl).mirrored.symm.trans hvb
  · exact htrans v b d _ _ _ rfl rfl rfl hvb hbd
  · exact hcomplex v _ _ _ rfl rfl (.inr rfl) .le

end Matcher

end Clausewise
