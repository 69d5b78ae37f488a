import Clausewise.Number.Basic
import Mathlib.Algebra.Field.Rat
import Mathlib.Algebra.Order.Ring.Unbundled.Rat
import Mathlib.Algebra.GroupWithZero.Basic
import Mathlib.Order.WithBot
import Mathlib.Order.Compare

/-! Real numbers on the line of the rationals with an infinity at each end. Numbers of all families are compared by
their places on the line, and so without any rounding. -/
namespace Clausewise

/-- The line of the rationals with an infinity at each end. -/
abbrev NumberLine : Type := WithBot (WithTop ℚ)

namespace NumberLine

/-- The place of a rational. -/
def rational (q : ℚ) : NumberLine := ((q : WithTop ℚ) : WithBot (WithTop ℚ))

/-- The end of the line in one of the two directions. -/
def infinity (negative : Bool) : NumberLine := if negative then ⊥ else ⊤

theorem rational_strictMono : StrictMono rational := fun _ _ h => WithBot.coe_lt_coe.mpr (WithTop.coe_lt_coe.mpr h)

theorem bot_lt_rational (q : ℚ) : ⊥ < rational q := WithBot.bot_lt_coe _

theorem rational_lt_top (q : ℚ) : rational q < ⊤ := WithBot.coe_lt_coe.mpr (WithTop.coe_lt_top q)

theorem bot_lt_top : (⊥ : NumberLine) < ⊤ := WithBot.bot_lt_coe _

end NumberLine

/-- A natural number with a sign. -/
def signed (negative : Bool) (n : Nat) : ℚ := if negative then -n else n

/-- The place of a binary number on the line; the absence of a number has none. -/
def Binary64.place? : Binary64 → Option NumberLine
  | nan => none
  | infinity negative => some (.infinity negative)
  | finite negative m e => some (.rational (signed negative m * 2 ^ e))

/-- The place of a decimal number on the line; the absence of a number has none. -/
def Decimal.place? : Decimal → Option NumberLine
  | nan .. => none
  | infinity negative => some (.infinity negative)
  | finite negative c e => some (.rational (signed negative c * 10 ^ e))

/-- The place of a number on the line. Complex numbers, also those without an imaginary part, have none. -/
def Number.place? : Number → Option NumberLine
  | int n => some (.rational n)
  | float x => x.place?
  | complex .. => none
  | decimal d => d.place?
  | fraction q => some (.rational q)

/-- A scaled quantity is the rational that it stands for. -/
theorem scaled_eq_mul_zpow (base : Nat) (m e : Int) : scaled base m e = m * (base : ℚ) ^ e := by
  rw [scaled]
  split
  · obtain ⟨n, rfl⟩ := Int.eq_ofNat_of_zero_le ‹0 ≤ e›
    simp
  · obtain ⟨n, rfl⟩ : ∃ n : Nat, e = -(n : Int) := ⟨(-e).toNat, by omega⟩
    simp [Rat.mkRat_eq_div, div_eq_mul_inv]

namespace Extended

/-- The place of an extended rational on the line. -/
def place? : Extended → Option NumberLine
  | nan => none
  | negInf => some ⊥
  | finite q => some (.rational q)
  | posInf => some ⊤

theorem place?_infinity (negative : Bool) : (infinity negative).place? = some (.infinity negative) := by
  cases negative <;> rfl

/-- The order of extended rationals is that of their places, where both have one. -/
theorem order_eq_cmp (x y : Extended) : x.order y = x.place?.bind fun p => y.place?.map fun q => cmp p q := by
  cases x with
  | nan => rfl
  | negInf =>
    cases y with
    | nan => rfl
    | negInf => exact congrArg some (cmp_self_eq_eq _).symm
    | finite q => exact congrArg some (NumberLine.bot_lt_rational q).cmp_eq_lt.symm
    | posInf => exact congrArg some NumberLine.bot_lt_top.cmp_eq_lt.symm
  | finite p =>
    cases y with
    | nan => rfl
    | negInf => exact congrArg some (NumberLine.bot_lt_rational p).cmp_eq_gt.symm
    | finite q =>
      refine congrArg some (Eq.symm ?_)
      calc
        cmp (NumberLine.rational p) (.rational q) = cmp p q := NumberLine.rational_strictMono.cmp_map_eq p q
        _ = _ := cmp_eq_compareOfLessAndEq p q
    | posInf => exact congrArg some (NumberLine.rational_lt_top p).cmp_eq_lt.symm
  | posInf =>
    cases y with
    | nan => rfl
    | negInf => exact congrArg some NumberLine.bot_lt_top.cmp_eq_gt.symm
    | finite q => exact congrArg some (NumberLine.rational_lt_top q).cmp_eq_gt.symm
    | posInf => exact congrArg some (cmp_self_eq_eq _).symm

/-- The order seen from the other side. -/
theorem order_swap (x y : Extended) : (x.order y).map Ordering.swap = y.order x := by
  rw [order_eq_cmp, order_eq_cmp]
  cases x.place? with
  | none => cases y.place? <;> rfl
  | some p =>
    cases y.place? with
    | none => rfl
    | some q => exact congrArg some (cmp_swap p q)

/-- Extended rationals are equal if the order says so. -/
theorem same_eq_order (x y : Extended) : x.same y = (x.order y == some .eq) := by
  cases x with
  | finite p =>
    cases y with
    | finite q =>
      rcases lt_trichotomy p q with h | rfl | h
      · simp [same, order, isNaN, h, ne_of_lt h]
      · simp [same, order, isNaN]
      · simp [same, order, isNaN, not_lt_of_gt h, ne_of_gt h]
    | _ => rfl
  | _ => cases y <;> rfl

theorem isNaN_of_place? {x : Extended} {p : NumberLine} (h : x.place? = some p) : x.isNaN = false := by
  cases x with
  | nan => cases h
  | _ => rfl

end Extended

theorem Binary64.place?_toExtended (x : Binary64) : x.toExtended.place? = x.place? := by
  cases x with
  | nan => rfl
  | infinity negative => exact Extended.place?_infinity negative
  | finite negative m e =>
    refine congrArg (some ∘ NumberLine.rational) ((scaled_eq_mul_zpow 2 _ e).trans ?_)
    cases negative <;> simp [signed]

theorem Decimal.place?_toExtended (d : Decimal) : d.toExtended.place? = d.place? := by
  cases d with
  | nan => rfl
  | infinity negative => exact Extended.place?_infinity negative
  | finite negative c e =>
    refine congrArg (some ∘ NumberLine.rational) ((scaled_eq_mul_zpow 10 _ e).trans ?_)
    cases negative <;> simp [signed]

namespace Number
variable {m n : Number} {p q : NumberLine}

theorem place?_realPart (h : m.place? = some p) : m.realPart.place? = some p := by
  cases m with
  | int | fraction => exact h
  | float x => exact (x.place?_toExtended).trans h
  | decimal d => exact (d.place?_toExtended).trans h
  | complex => cases h

theorem imaginaryPart_of_place? (h : m.place? = some p) : m.imaginaryPart = .finite 0 := by
  cases m with
  | complex => cases h
  | _ => rfl

theorem isComplex_of_place? (h : m.place? = some p) : m.isComplex = false := by
  cases m with
  | complex => cases h
  | _ => rfl

theorem isNaN_of_place? (h : m.place? = some p) : m.isNaN = false := by
  rw [isNaN, Extended.isNaN_of_place? (place?_realPart h), imaginaryPart_of_place? h]
  rfl

theorem isSignalling_of_place? (h : m.place? = some p) : m.isSignalling = false := by
  cases m with
  | decimal d =>
    cases d with
    | nan => cases h
    | _ => rfl
  | _ => rfl

/-- Numbers with places on the line have the order of their places. -/
theorem order_eq_cmp (hm : m.place? = some p) (hn : n.place? = some q) : m.order n = .ok (some (cmp p q)) := by
  rw [order, isComplex_of_place? hm, isComplex_of_place? hn, isNaN_of_place? hm, isNaN_of_place? hn,
    Extended.order_eq_cmp, place?_realPart hm, place?_realPart hn, Bool.or_false, Bool.and_false]
  rfl

/-- Numbers with places on the line are equal if their places are. -/
theorem equal_eq_cmp (hm : m.place? = some p) (hn : n.place? = some q) : m.equal n = .ok (cmp p q == .eq) := by
  rw [equal, isSignalling_of_place? hm, isSignalling_of_place? hn, sameValue, imaginaryPart_of_place? hm,
    imaginaryPart_of_place? hn, Extended.same_eq_order, Extended.order_eq_cmp, place?_realPart hm, place?_realPart hn]
  exact congrArg Except.ok (Bool.and_true _)

theorem order_swap (m n : Number) : (m.order n).map (Option.map Ordering.swap) = n.order m := by
  simp only [order, Bool.or_comm n.isComplex, Bool.or_comm n.isDecimal, Bool.or_comm n.isNaN]
  split
  · rfl
  · split
    · rfl
    · exact congrArg Except.ok (Extended.order_swap m.realPart n.realPart)

end Number

end Clausewise
