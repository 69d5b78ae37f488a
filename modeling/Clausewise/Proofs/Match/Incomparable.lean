import Clausewise.Match.Test
import Clausewise.Proofs.Value.Equivalence

/-! Tests of numbers against numbers where some are NaN. They come to a verdict, and it is no, except where decimal
arithmetic takes the comparison for an invalid operation: then they fail. -/
namespace Clausewise

namespace Number
variable {a b : Number}

/-- That equality of two numbers is an invalid operation: one is a signalling decimal, and the other one, to be compared
with it, lies on the real line. -/
def RefusesEquality (a b : Number) : Prop :=
  (a.isSignalling = true ∧ b.isReal = true) ∨ (b.isSignalling = true ∧ a.isReal = true)

/-- That the order of two numbers is an invalid operation: neither is complex, one is a decimal, and one is NaN. -/
def RefusesOrder (a b : Number) : Prop :=
  (a.isComplex = false ∧ b.isComplex = false) ∧ (a.isDecimal = true ∨ b.isDecimal = true) ∧
    (a.isNaN = true ∨ b.isNaN = true)

theorem equal_of_refusesEquality (h : a.RefusesEquality b) : a.equal b = .error .invalid := by
  rw [equal, if_pos (by simpa [RefusesEquality] using h)]

/-- Numbers that may be asked are equal or not, and not if one is NaN. -/
theorem exists_equal (h : ¬ a.RefusesEquality b) :
    ∃ same, a.equal b = .ok same ∧ (a.isNaN = true ∨ b.isNaN = true → same = false) := by
  have hanswer : ∃ same, a.equal b = .ok same := by
    rw [equal, if_neg (by simpa [RefusesEquality] using h)]
    split
    · exact ⟨false, rfl⟩
    · exact ⟨_, rfl⟩
  obtain ⟨same, hsame⟩ := hanswer
  refine ⟨same, hsame, fun hnan => ?_⟩
  cases same with
  | false => rfl
  | true =>
    obtain ⟨⟨ha, hb⟩, -⟩ := equal_eq_true_iff.mp hsame
    simp [ha, hb] at hnan

theorem order_of_refusesOrder (h : a.RefusesOrder b) : a.order b = .error .invalid := by
  obtain ⟨⟨ha, hb⟩, hdecimal, hnan⟩ := h
  rw [order, if_neg (by simp [ha, hb]), if_pos (by simp [hdecimal, hnan])]

/-- Only the real part of a number that is not complex can be missing. -/
theorem isNaN_of_not_isComplex (h : a.isComplex = false) : a.isNaN = a.realPart.isNaN := by
  cases a with
  | complex => cases h
  | _ => simp [isNaN, imaginaryPart, Extended.isNaN]

theorem order_eq_none_of_isNaN {x y : Extended} (h : x.isNaN = true ∨ y.isNaN = true) : x.order y = none := by
  cases x <;> cases y <;> simp_all [Extended.isNaN, Extended.order]

/-- Numbers that may be asked for their order have one or not, and not if one is NaN, unless their families have
none. -/
theorem order_cases (h : ¬ a.RefusesOrder b) :
    a.order b = .error .unordered ∨
      ∃ o, a.order b = .ok o ∧ (a.isNaN = true ∨ b.isNaN = true → o = none) := by
  by_cases hcomplex : a.isComplex = true ∨ b.isComplex = true
  · exact .inl (by rw [order, if_pos (by simpa using hcomplex)])
  · obtain ⟨ha, hb⟩ : a.isComplex = false ∧ b.isComplex = false := by simpa using hcomplex
    refine .inr ⟨a.realPart.order b.realPart, ?_, fun hnan => ?_⟩
    · have hvalid : ¬ ((a.isDecimal = true ∨ b.isDecimal = true) ∧ (a.isNaN = true ∨ b.isNaN = true)) :=
        fun h' => h ⟨⟨ha, hb⟩, h'⟩
      rw [order, if_neg (by simp [ha, hb]), if_neg (by simpa using hvalid)]
    · rw [isNaN_of_not_isComplex ha, isNaN_of_not_isComplex hb] at hnan
      exact order_eq_none_of_isNaN hnan

end Number

namespace Value
variable {a b v : Value} {m n : Number}

/-- That two values are numbers whose equality is an invalid operation. A truth value is never compared with a
number. -/
def RefusesEquality (a b : Value) : Prop := ∃ m n, a = number m ∧ b = number n ∧ m.RefusesEquality n

/-- That two values count as numbers whose order is an invalid operation. -/
def RefusesOrder (a b : Value) : Prop := ∃ m n, a.number? = some m ∧ b.number? = some n ∧ m.RefusesOrder n

theorem refusesEquality_number : RefusesEquality (number m) (number n) ↔ m.RefusesEquality n := by
  simp [RefusesEquality]

theorem refusesOrder_iff (ha : a.number? = some m) (hb : b.number? = some n) :
    RefusesOrder a b ↔ m.RefusesOrder n := by
  simp [RefusesOrder, ha, hb]

theorem isNaN_of_number? (h : v.number? = some n) : v.isNaN = n.isNaN := by
  cases v with
  | bool | number =>
    obtain rfl := Option.some.inj h
    rfl
  | _ => cases h

/-- Values that count as numbers have the order of the numbers, for no class of theirs has a rule of its own. -/
theorem ordered_of_number? (ha : a.number? = some m) (hb : b.number? = some n) (c : Comparison) :
    ordered c a b = (liftNumbers (m.order n)).map fun o => (o.map c.holds).getD false := by
  have hbound : comparisonBound a b = (a.weight + 1) * b.weight + a.weight + 1 := by
    rw [comparisonBound, Nat.mul_succ]
    omega
  have hrule {v : Value} {n : Number} (h : v.number? = some n) (c : Comparison) : v.orderingRule? c = none := by
    cases v <;> first | rfl | cases h
  have hexpose {v : Value} {n : Number} (h : v.number? = some n) : v.expose = v := by
    cases v <;> first | rfl | cases h
  rw [ordered, hbound, orderedWithin, hrule ha c, hrule hb c.flip]
  simp only [hexpose ha, hexpose hb, partsOrdered, ha, hb]

end Value

namespace Matcher
open Value
variable {a b v low high : Value}

/-- How a test ends that may be an invalid operation of decimal arithmetic: it fails as one exactly if it is one, and
else comes to a verdict, which is no if a number is NaN. -/
inductive Settles (refuses nan : Prop) : Outcome Bool → Prop
  | refused : refuses → Settles refuses nan (.fail .invalidOperation)
  | verdict {answer : Bool} : ¬ refuses → (nan → answer = false) → Settles refuses nan (.ok answer)

theorem Settles.eq_ok_false {refuses nan : Prop} {o : Outcome Bool} (h : Settles refuses nan o) (hvalid : ¬ refuses)
    (hnan : nan) : o = .ok false := by
  cases h with
  | refused hrefuses => exact absurd hrefuses hvalid
  | verdict _ hanswer => rw [hanswer hnan]

private theorem settles_literal (call : Caller) (ha : a.isNumeric = true) (hv : v.isNumeric = true) :
    Settles (RefusesEquality v a) (a.isNaN = true ∨ v.isNaN = true) ((literal a).test call v) := by
  rw [test]
  cases a with
  | bool x =>
    have hrefuses : ¬ RefusesEquality v (bool x) := by
      rintro ⟨m, n, -, ⟨⟩, -⟩
    cases v with
    | bool y =>
      refine .verdict hrefuses ?_
      rintro (hnan | hnan) <;> cases hnan
    | number n => exact .verdict hrefuses fun _ => rfl
    | _ => cases hv
  | number m =>
    cases v with
    | bool y =>
      refine .verdict ?_ fun _ => rfl
      rintro ⟨m, n, ⟨⟩, -⟩
    | number n =>
      rw [strictEqual]
      by_cases hrefuses : n.RefusesEquality m
      · rw [Number.equal_of_refusesEquality hrefuses]
        exact .refused (refusesEquality_number.mpr hrefuses)
      · obtain ⟨same, hsame, hnan⟩ := Number.exists_equal hrefuses
        rw [hsame]
        exact .verdict (fun h => hrefuses (refusesEquality_number.mp h)) fun h => hnan h.symm
    | _ => cases hv
  | _ => cases ha

private theorem ordered_cases (ha : a.isNumeric = true) (hb : b.isNumeric = true) (c : Comparison) :
    (RefusesOrder a b ∧ ordered c a b = .error .invalid) ∨
      ¬ RefusesOrder a b ∧ (ordered c a b = .error .unordered ∨
        ∃ answer, ordered c a b = .ok answer ∧ (a.isNaN = true ∨ b.isNaN = true → answer = false)) := by
  obtain ⟨m, hm⟩ := Option.isSome_iff_exists.mp ha
  obtain ⟨n, hn⟩ := Option.isSome_iff_exists.mp hb
  rw [ordered_of_number? hm hn, isNaN_of_number? hm, isNaN_of_number? hn, refusesOrder_iff hm hn]
  by_cases hrefuses : m.RefusesOrder n
  · rw [Number.order_of_refusesOrder hrefuses]
    exact .inl ⟨hrefuses, rfl⟩
  · refine .inr ⟨hrefuses, ?_⟩
    rcases Number.order_cases hrefuses with horder | ⟨o, horder, hnan⟩
    · rw [horder]
      exact .inl rfl
    · rw [horder]
      refine .inr ⟨_, rfl, fun h => ?_⟩
      rw [hnan h]
      rfl

private theorem settles_comparison (call : Caller) (hb : b.isNumeric = true) (hv : v.isNumeric = true)
    (c : Comparison) :
    Settles (RefusesOrder v b) (b.isNaN = true ∨ v.isNaN = true) ((comparison c b).test call v) := by
  rw [test, comparisonVerdict]
  rcases ordered_cases hv hb c with ⟨hrefuses, h⟩ | ⟨hrefuses, h | ⟨answer, h, hnan⟩⟩ <;> rw [h]
  · exact .refused hrefuses
  · exact .verdict hrefuses fun _ => rfl
  · exact .verdict hrefuses fun h => hnan h.symm

private theorem settles_between (call : Caller) (hlow : low.isNumeric = true) (hhigh : high.isNumeric = true)
    (hv : v.isNumeric = true) :
    Settles (RefusesOrder low v ∨ (ordered .le low v = .ok true ∧ RefusesOrder v high))
      (low.isNaN = true ∨ high.isNaN = true ∨ v.isNaN = true) ((between low high).test call v) := by
  rw [test, rangeVerdict]
  rcases ordered_cases hlow hv .le with ⟨hrefuses, h⟩ | ⟨hrefuses, h | ⟨answer, h, hnan⟩⟩ <;> rw [h]
  · exact .refused (.inl hrefuses)
  · exact .verdict (by simp [hrefuses]) fun _ => rfl
  · cases answer with
    | false => exact .verdict (by simp [hrefuses]) fun _ => rfl
    | true =>
      -- The lower bound and the value are in order, so neither is NaN, and the upper bound decides.
      have hfirst : low.isNaN = true ∨ v.isNaN = true → False := fun h => Bool.noConfusion (hnan h)
      change Settles _ _ (.ofExcept (forgiving (ordered .le v high)))
      rcases ordered_cases hv hhigh .le with ⟨hrefuses', h'⟩ | ⟨hrefuses', h' | ⟨answer, h', hnan'⟩⟩ <;> rw [h']
      · exact .refused (.inr ⟨rfl, hrefuses'⟩)
      · exact .verdict (by simp [hrefuses, hrefuses']) fun _ => rfl
      · refine .verdict (by simp [hrefuses, hrefuses']) ?_
        rintro (h | h | h)
        · exact (hfirst (.inl h)).elim
        · exact hnan' (.inr h)
        · exact (hfirst (.inr h)).elim

/-- Numbers against numbers, truth values among them. A literal, a comparison and a range come to a verdict and report
nothing, and where one of the numbers is NaN the verdict is no; they fail exactly where decimal arithmetic takes what
they ask for an invalid operation. A range asks its upper bound only if the lower one is in order. -/
theorem numeric_test_settles (call : Caller) (hb : b.isNumeric = true) (hv : v.isNumeric = true) :
    Settles (RefusesEquality v b) (b.isNaN = true ∨ v.isNaN = true) ((literal b).test call v) ∧
    (∀ c, Settles (RefusesOrder v b) (b.isNaN = true ∨ v.isNaN = true) ((comparison c b).test call v)) ∧
    (∀ low high, low.isNumeric = true → high.isNumeric = true →
      Settles (RefusesOrder low v ∨ (ordered .le low v = .ok true ∧ RefusesOrder v high))
        (low.isNaN = true ∨ high.isNaN = true ∨ v.isNaN = true) ((between low high).test call v)) := by
  refine ⟨?_, ?_, ?_⟩
  · exact settles_literal call hb hv
  · exact settles_comparison call hb hv
  · intro low high hlow hhigh
    exact settles_between call hlow hhigh hv

/-- A signalling decimal is not equal to the imaginary unit and has no order with it, and it is no upper bound that a
number below the lower bound is compared with. -/
theorem numeric_test_settles_signalling :
    let call : Caller := .answering fun _ _ => .fail .callsTooDeep
    let signalling := number (.decimal (.nan false true none))
    let unit := number (.complex .zero (.finite false 1 0))
    signalling.isNumeric = true ∧ unit.isNumeric = true ∧ (literal signalling).test call unit = .ok false ∧
      (comparison .le signalling).test call unit = .ok false ∧
      (between (.int 0) signalling).test call (.int (-1)) = .ok false := by
  intro call signalling unit
  obtain ⟨hliteral, hcomparison, -⟩ := numeric_test_settles call (b := signalling) (v := unit) rfl rfl
  obtain ⟨-, -, hbetween⟩ := numeric_test_settles call (b := signalling) (v := .int (-1)) rfl rfl
  have hreal : (Number.complex .zero (.finite false 1 0)).isReal = false := by decide
  refine ⟨rfl, rfl, ?_, ?_, ?_⟩
  · apply hliteral.eq_ok_false _ (Or.inl rfl)
    rw [refusesEquality_number]
    rintro (⟨h, -⟩ | ⟨-, h⟩)
    · cases h
    · exact Bool.noConfusion (hreal.symm.trans h)
  · apply (hcomparison .le).eq_ok_false _ (Or.inl rfl)
    rw [refusesOrder_iff rfl rfl]
    rintro ⟨⟨h, -⟩, -⟩
    cases h
  · apply (hbetween (.int 0) signalling rfl rfl).eq_ok_false _ (Or.inr (Or.inl rfl))
    rintro (h | ⟨h, -⟩)
    · rw [refusesOrder_iff rfl rfl] at h
      obtain ⟨-, h | h, -⟩ := h <;> cases h
    · have hbelow : ordered .le (.int 0) (.int (-1)) = .ok false := by
        rw [ordered_of_number? rfl rfl]
        rfl
      rw [hbelow] at h
      cases h

/-- The order of an integer and a quiet decimal NaN fails, and so does equality with a signalling one. -/
theorem numeric_test_refused :
    let call : Caller := .answering fun _ _ => .fail .callsTooDeep
    let quiet := number (.decimal (.nan false false none))
    let signalling := number (.decimal (.nan false true none))
    (comparison .lt quiet).test call (.int 1) = .fail .invalidOperation ∧
      (between quiet (.int 2)).test call (.int 1) = .fail .invalidOperation ∧
      (literal signalling).test call (.int 1) = .fail .invalidOperation := by
  intro call quiet signalling
  refine ⟨?_, ?_, ?_⟩ <;> rw [test] <;> rfl

end Matcher

end Clausewise
