import Clausewise.Proofs.Number.Line
import Clausewise.Proofs.Value.Entries
import Clausewise.Value.Order

/-! Comparisons asked from the other side. Equality does not depend on the order of the sides, and one value stands to
another in an order as the other does in the flipped one to the first; so do the failures. -/
namespace Clausewise

theorem Comparison.holds_flip_swap (c : Comparison) (o : Ordering) : c.flip.holds o.swap = c.holds o := by
  cases c <;> cases o <;> rfl

namespace Value

theorem listOrder_swap (xs ys : List Nat) : (listOrder xs ys).swap = listOrder ys xs := by
  induction xs generalizing ys with
  | nil => cases ys <;> rfl
  | cons x xs ih =>
    cases ys with
    | nil => rfl
    | cons y ys =>
      rw [listOrder, listOrder]
      rcases Nat.lt_trichotomy x y with h | rfl | h
      · simp [h, Nat.lt_asymm h]
      · simpa using ih ys
      · simp [h, Nat.lt_asymm h]

theorem comparableShapes_comm (p q : SequenceShape) : comparableShapes p q = comparableShapes q p := by
  cases p <;> cases q <;> rfl

theorem comparesLengthFirst_of_comparableShapes {p q : SequenceShape} (h : comparableShapes p q = true) :
    comparesLengthFirst p = comparesLengthFirst q := by
  cases p <;> cases q <;> first | rfl | cases h

/-- The values that literals and sequences of such values make up. No class of theirs has a rule of its own. -/
inductive Ordinary : Value → Prop
  | literal {v : Value} : v.isLiteral = true → Ordinary v
  | sequence {shape : SequenceShape} {items : List Value} : (∀ v ∈ items, Ordinary v) →
      Ordinary (.sequence shape items)

variable {a b : Value} {xs ys : List Value}

theorem Ordinary.equalityRule? (h : Ordinary a) : a.equalityRule? = none := by
  cases h with
  | sequence => rfl
  | literal h => cases a <;> first | rfl | cases h

theorem Ordinary.orderingRule? (h : Ordinary a) (c : Comparison) : a.orderingRule? c = none := by
  cases h with
  | sequence => rfl
  | literal h => cases a <;> first | rfl | cases h

theorem Ordinary.expose (h : Ordinary a) : a.expose = a := by
  cases h with
  | sequence => rfl
  | literal h => cases a <;> first | rfl | cases h

section Equality
variable {eq : Value → Value → Except ComparisonFault Bool}

theorem itemsEqual_comm (h : ∀ x ∈ xs, ∀ y ∈ ys, eq x y = eq y x) : itemsEqual eq xs ys = itemsEqual eq ys xs := by
  induction xs generalizing ys with
  | nil => cases ys <;> rfl
  | cons x xs ih =>
    cases ys with
    | nil => rfl
    | cons y ys =>
      obtain ⟨hx, hxs⟩ := List.forall_mem_cons.mp h
      rw [itemsEqual, itemsEqual, hx y List.mem_cons_self, ih fun x' hx' y' hy' => hxs x' hx' y' (.tail _ hy')]

theorem partsEqual_comm_of_isLiteral (ha : a.isLiteral = true) (hb : b.isLiteral = true) :
    partsEqual eq a b = partsEqual eq b a := by
  cases a with
  | number m =>
    cases b with
    | number n => exact congrArg liftNumbers (m.equal_comm n)
    | bool y => exact congrArg liftNumbers (m.equal_comm _)
    | null | undefined | text | derivedText | kind | bytes => exact congrArg Except.ok (sameKey_comm _ _)
    | _ => cases hb
  | bool x =>
    cases b with
    | number n => exact congrArg liftNumbers (Number.equal_comm _ n)
    | bool y => cases x <;> cases y <;> rfl
    | null | undefined | text | derivedText | kind | bytes => exact congrArg Except.ok (sameKey_comm _ _)
    | _ => cases hb
  | null | undefined =>
    cases b <;> first | exact congrArg Except.ok (sameKey_comm _ _) | cases hb
  | text | derivedText | kind =>
    cases b with
    | text | derivedText | kind => exact congrArg Except.ok (Bool.beq_comm ..)
    | null | undefined | bool | number | bytes => exact congrArg Except.ok (sameKey_comm _ _)
    | _ => cases hb
  | bytes =>
    cases b with
    | bytes => exact congrArg Except.ok (Bool.beq_comm ..)
    | null | undefined | bool | number | text | derivedText | kind => exact congrArg Except.ok (sameKey_comm _ _)
    | _ => cases hb
  | _ => cases ha

theorem partsEqual_comm (h : ∀ x y, Ordinary x → Ordinary y → eq x y = eq y x) (ha : Ordinary a) (hb : Ordinary b) :
    partsEqual eq a b = partsEqual eq b a := by
  cases ha with
  | literal ha =>
    cases hb with
    | literal hb => exact partsEqual_comm_of_isLiteral ha hb
    | sequence => cases a <;> first | exact congrArg Except.ok (sameKey_comm _ _) | cases ha
  | @sequence p xs hxs =>
    cases hb with
    | literal hb => cases b <;> first | exact congrArg Except.ok (sameKey_comm _ _) | cases hb
    | @sequence q ys hys =>
      simp only [partsEqual, number?, text?, rawBytes?, entries?, Value.expose, comparableShapes_comm q p]
      cases hshapes : comparableShapes p q with
      | false => rfl
      | true =>
        rw [itemsEqual_comm fun x hx y hy => h x y (hxs x hx) (hys y hy),
          comparesLengthFirst_of_comparableShapes hshapes, bne_comm]

theorem equalWithin_comm (fuel : Nat) (ha : Ordinary a) (hb : Ordinary b) :
    equalWithin fuel a b = equalWithin fuel b a := by
  induction fuel generalizing a b with
  | zero => rfl
  | succ fuel ih =>
    rw [equalWithin, equalWithin]
    simp only [ha.equalityRule?, hb.equalityRule?, ha.expose, hb.expose]
    exact partsEqual_comm (fun x y hx hy => ih hx hy) ha hb

theorem Ordinary.equal_comm (ha : Ordinary a) (hb : Ordinary b) : a.equal b = b.equal a := by
  rw [equal, equal, comparisonBound, comparisonBound, Nat.mul_comm, equalWithin_comm _ ha hb]

end Equality

section Order
variable {cmp : Comparison → Value → Value → Except ComparisonFault Bool} {c : Comparison}

theorem itemsOrdered_flip (h : ∀ x ∈ xs, ∀ y ∈ ys, cmp c.flip y x = cmp c x y) (hxs : ∀ x ∈ xs, Ordinary x)
    (hys : ∀ y ∈ ys, Ordinary y) : itemsOrdered c.flip (cmp c.flip) ys xs = itemsOrdered c (cmp c) xs ys := by
  induction xs generalizing ys with
  | nil => cases ys <;> cases c <;> rfl
  | cons x xs ih =>
    cases ys with
    | nil => cases c <;> rfl
    | cons y ys =>
      obtain ⟨hx, hxs⟩ := List.forall_mem_cons.mp hxs
      obtain ⟨hy, hys⟩ := List.forall_mem_cons.mp hys
      obtain ⟨hhead, htail⟩ := List.forall_mem_cons.mp h
      rw [itemsOrdered, itemsOrdered, hy.equal_comm hx, hhead y List.mem_cons_self,
        ih (fun x' hx' y' hy' => htail x' hx' y' (.tail _ hy')) hxs hys]

theorem verdict_flip_of_numbers (c : Comparison) (m n : Number) :
    ((liftNumbers (n.order m)).map fun o => (o.map c.flip.holds).getD false) =
      (liftNumbers (m.order n)).map fun o => (o.map c.holds).getD false := by
  rw [← Number.order_swap m n]
  cases m.order n with
  | error e => rfl
  | ok o =>
    cases o with
    | none => rfl
    | some o => exact congrArg Except.ok (c.holds_flip_swap o)

theorem verdict_flip_of_lists (c : Comparison) (xs ys : List Nat) :
    c.flip.holds (listOrder ys xs) = c.holds (listOrder xs ys) := by
  rw [← listOrder_swap, Comparison.holds_flip_swap]

theorem partsOrdered_flip (h : ∀ x y, Ordinary x → Ordinary y → cmp c.flip y x = cmp c x y) (ha : Ordinary a)
    (hb : Ordinary b) : partsOrdered cmp c.flip b a = partsOrdered cmp c a b := by
  cases ha with
  | @sequence p xs hxs =>
    cases hb with
    | literal hb => cases b <;> first | rfl | cases hb
    | @sequence q ys hys =>
      simp only [partsOrdered, number?, text?, rawBytes?, comparableShapes_comm q p]
      rw [itemsOrdered_flip (fun x hx y hy => h x y (hxs x hx) (hys y hy)) hxs hys]
  | literal ha =>
    cases hb with
    | sequence => cases a <;> first | rfl | cases ha
    | literal hb =>
      -- Within a family both sides ask for the order of the same contents; across families there is none.
      cases a with
      | number | bool =>
        cases b with
        | number | bool =>
          simp only [partsOrdered, number?]
          exact verdict_flip_of_numbers c _ _
        | null | undefined | text | derivedText | kind | bytes => rfl
        | _ => cases hb
      | text | derivedText | kind =>
        cases b with
        | text | derivedText | kind => exact congrArg Except.ok (verdict_flip_of_lists c ..)
        | null | undefined | bool | number | bytes => rfl
        | _ => cases hb
      | bytes =>
        cases b with
        | bytes => exact congrArg Except.ok (verdict_flip_of_lists c ..)
        | null | undefined | bool | number | text | derivedText | kind => rfl
        | _ => cases hb
      | null | undefined => cases b <;> first | rfl | cases hb
      | _ => cases ha

theorem orderedWithin_flip (fuel : Nat) (c : Comparison) (ha : Ordinary a) (hb : Ordinary b) :
    orderedWithin fuel c.flip b a = orderedWithin fuel c a b := by
  induction fuel generalizing a b with
  | zero => rfl
  | succ fuel ih =>
    rw [orderedWithin, orderedWithin]
    simp only [ha.orderingRule?, hb.orderingRule?, ha.expose, hb.expose]
    exact partsOrdered_flip (fun x y hx hy => ih hx hy) ha hb

/-- An ordinary value stands to another in an order as the other does in the flipped one to it, or both comparisons
fail alike. -/
theorem Ordinary.ordered_flip (ha : Ordinary a) (hb : Ordinary b) (c : Comparison) :
    ordered c.flip b a = ordered c a b := by
  rw [ordered, ordered, comparisonBound, comparisonBound, Nat.mul_comm, orderedWithin_flip _ c ha hb]

end Order

end Value

end Clausewise
