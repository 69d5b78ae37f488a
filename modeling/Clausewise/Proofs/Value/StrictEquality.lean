import Clausewise.Proofs.Value.Entries
import Clausewise.Value.Equality

/-! Strict equality against plain equality. On literals it is plain equality with the truth values kept apart from the
numbers, and it is an equivalence but for NaN, which is not even equal to itself. -/
namespace Clausewise.Value
variable {a b : Value}

/-- The comparison of two literals comes down to their parts at once, for no class of theirs has a rule of its own. -/
theorem equal_of_isLiteral (ha : a.isLiteral = true) (hb : b.isLiteral = true) :
    ∃ eq, a.equal b = partsEqual eq a b := by
  have hbound : comparisonBound a b = (a.weight + 1) * b.weight + a.weight + 1 := by
    rw [comparisonBound, Nat.mul_succ]
    omega
  refine ⟨equalWithin ((a.weight + 1) * b.weight + a.weight), ?_⟩
  rw [equal, hbound, equalWithin]
  cases a with
  | null | undefined | bool | number | text | derivedText | kind | bytes =>
    cases b with
    | null | undefined | bool | number | text | derivedText | kind | bytes => rfl
    | _ => cases hb
  | _ => cases ha

theorem sameKey_number (n : Number) (hb : b.isLiteral = true) (hn : b.isNumeric = false) :
    (number n).sameKey b = false := by
  cases b with
  | bool | number => cases hn
  | null | undefined | text | derivedText | kind | bytes =>
    simp only [sameKey, key?, numberAtom?]
    cases n.isNaN <;> rfl
  | _ => cases hb

/-- On literals strict equality is plain equality, except that a truth value is no number. -/
theorem strictEqual_eq_ite (ha : a.isLiteral = true) (hb : b.isLiteral = true) :
    a.strictEqual b = if a.isBool = b.isBool then a.equal b else .ok false := by
  obtain ⟨eq, hequal⟩ := equal_of_isLiteral ha hb
  rw [hequal]
  -- Within a family both compare contents; across families plain equality is sameness of keys, which differ.
  cases a with
  | number m =>
    cases b with
    | number n =>
      rw [strictEqual_comm]
      rfl
    | bool => rfl
    | null | undefined | text | derivedText | kind | bytes => exact congrArg Except.ok (sameKey_number m hb rfl).symm
    | _ => cases hb
  | bool x =>
    cases b with
    | bool y => cases x <;> cases y <;> rfl
    | number | null | undefined | text | derivedText | kind | bytes => rfl
    | _ => cases hb
  | null | undefined =>
    cases b with
    | number n => exact congrArg Except.ok ((sameKey_comm _ _).trans (sameKey_number n ha rfl)).symm
    | null | undefined | bool | text | derivedText | kind | bytes => rfl
    | _ => cases hb
  | text | derivedText | kind =>
    cases b with
    | number n => exact congrArg Except.ok ((sameKey_comm _ _).trans (sameKey_number n ha rfl)).symm
    | text | derivedText | kind =>
      rw [strictEqual_comm]
      rfl
    | null | undefined | bool | bytes => rfl
    | _ => cases hb
  | bytes =>
    cases b with
    | number n => exact congrArg Except.ok ((sameKey_comm _ _).trans (sameKey_number n ha rfl)).symm
    | bytes =>
      rw [strictEqual_comm]
      rfl
    | null | undefined | bool | text | derivedText | kind => rfl
    | _ => cases hb
  | _ => cases ha

/-- A value that is no literal is strictly equal to nothing, whatever its class says, and the comparison does not
fail. -/
theorem strictEqual_of_not_isLiteral (h : a.isLiteral = false ∨ b.isLiteral = false) : a.strictEqual b = .ok false := by
  rcases h with ha | hb
  · cases a <;> first | rfl | cases ha
  · cases a <;> first | rfl | (cases b <;> first | rfl | cases hb)

theorem strictEqual_self_eq (ha : a.isLiteral = true) (hcompares : a.isSignalling = false) :
    a.strictEqual a = .ok !a.isNaN := by
  cases hnan : a.isNaN with
  | false => exact strictEqual_self ha hnan
  | true =>
    obtain ⟨verdict, hverdict⟩ := exists_strictEqual hcompares hcompares
    cases verdict with
    | false => exact hverdict
    | true =>
      cases a with
      | number n =>
        obtain ⟨m, hm, hequal⟩ := number_of_strictEqual hverdict
        obtain rfl := number.inj hm
        have hnone : n.isNaN = false := (Number.equal_eq_true_iff.mp hequal).1.1
        rw [isNaN, hnone] at hnan
        cases hnan
      | _ => cases hnan

/-- That a value is a literal, and no number that refuses to be compared. -/
structure Comparable (v : Value) : Prop where
  literal : v.isLiteral = true
  compares : v.isSignalling = false

/-- On literals that can be compared, strict equality comes to a verdict, the same from both sides: plain equality with
truth values kept apart from everything else. It is transitive, and every literal but NaN is strictly equal to itself.
Any two values are told apart if one of them is no literal, whatever their classes say. -/
theorem strictEqual_partial_equivalence (ha : a.Comparable) (hb : b.Comparable) :
    (∃ same, a.strictEqual b = .ok same ∧ b.strictEqual a = .ok same ∧
      (same = true ↔ a.equal b = .ok true ∧ a.isBool = b.isBool)) ∧
    (∀ c : Value, a.strictEqual b = .ok true → b.strictEqual c = .ok true → a.strictEqual c = .ok true) ∧
    a.strictEqual a = .ok !a.isNaN ∧
    ∀ e v : Value, e.isLiteral = false ∨ v.isLiteral = false → e.strictEqual v = .ok false := by
  refine ⟨?_, fun c => strictEqual_trans, strictEqual_self_eq ha.literal ha.compares, ?_⟩
  · obtain ⟨same, hsame⟩ := exists_strictEqual ha.compares hb.compares
    refine ⟨same, hsame, (strictEqual_comm b a).trans hsame, ?_⟩
    rw [strictEqual_eq_ite ha.literal hb.literal] at hsame
    by_cases hbool : a.isBool = b.isBool
    · rw [if_pos hbool] at hsame
      simp [hsame, hbool]
    · rw [if_neg hbool] at hsame
      obtain rfl := Except.ok.inj hsame
      simp [hbool]
  · intro e v h
    exact strictEqual_of_not_isLiteral h

end Clausewise.Value
