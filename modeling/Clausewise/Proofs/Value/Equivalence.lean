import Clausewise.Value.Family
import Clausewise.Proofs.Value.Sequence

/-! Strict equality of literals as sameness of keys with truth values kept apart from numbers, and the entries of a
value, which depend on a key only up to sameness. -/
namespace Clausewise

theorem Extended.same_comm (a b : Extended) : a.same b = b.same a := by
  by_cases h : a = b
  · rw [h]
  · simp [same, h, Ne.symm h]

namespace Number

theorem equal_comm (a b : Number) : a.equal b = b.equal a := by
  simp only [equal, sameValue, Extended.same_comm a.realPart, Extended.same_comm a.imaginaryPart,
    Bool.or_comm (a.isSignalling && b.isReal), Bool.or_comm a.isSignalling]

private theorem isSignalling_of_not_isNaN {a : Number} (h : a.isNaN = false) : a.isSignalling = false := by
  cases a with
  | decimal d =>
    cases d with
    | nan => cases h
    | _ => rfl
  | _ => rfl

theorem equal_eq_true_iff {a b : Number} :
    a.equal b = .ok true ↔
      (a.isNaN = false ∧ b.isNaN = false) ∧ a.realPart = b.realPart ∧ a.imaginaryPart = b.imaginaryPart := by
  constructor
  · intro h
    simp only [equal] at h
    split at h
    · cases h
    · split at h
      · cases h
      · have hsame := Except.ok.inj h
        simp only [sameValue, Extended.same, Bool.and_eq_true, Bool.not_eq_true', decide_eq_true_eq] at hsame
        obtain ⟨⟨hre, hreal⟩, him, himaginary⟩ := hsame
        have ha : a.isNaN = false := by rw [isNaN, hre, him, Bool.or_self]
        exact ⟨⟨ha, by rwa [isNaN, hreal, himaginary] at ha⟩, hreal, himaginary⟩
  · rintro ⟨⟨ha, hb⟩, hreal, himaginary⟩
    have hparts : a.realPart.isNaN = false ∧ a.imaginaryPart.isNaN = false := by simpa [isNaN] using ha
    have hsame : a.sameValue b = true := by simp [sameValue, Extended.same, hparts, ← hreal, ← himaginary]
    rw [equal, isSignalling_of_not_isNaN ha, isSignalling_of_not_isNaN hb, hsame]
    rfl

private theorem equal_ne_false_iff {a b : Number} (ha : a.isSignalling = false) :
    a.equal b ≠ .ok false ↔ (b.isSignalling = true ∧ a.isReal = true) ∨ a.equal b = .ok true := by
  cases hb : b.isSignalling <;> cases hreal : a.isReal <;> simp [equal, ha, hb, hreal]

private theorem isReal_eq_of_equal {a b : Number} (h : a.equal b = .ok true) : a.isReal = b.isReal := by
  rw [isReal, isReal, (equal_eq_true_iff.mp h).2.2]

private theorem isReal_of_isSignalling {a : Number} (h : a.isSignalling = true) : a.isReal = true := by
  cases a with
  | decimal d => rfl
  | _ => cases h

/-- Two numbers that a third one is not told apart from, be it that the comparison fails, are not told apart either. -/
theorem equal_ne_false_of_common {a b c : Number} (hc : c.isSignalling = false) (hca : c.equal a ≠ .ok false)
    (hcb : c.equal b ≠ .ok false) : a.equal b ≠ .ok false := by
  rw [equal_ne_false_iff hc] at hca hcb
  rcases hca with ⟨ha, hreal⟩ | hca
  · have hbreal : b.isReal = true := by
      rcases hcb with ⟨hb, -⟩ | hcb
      · exact isReal_of_isSignalling hb
      · rw [← isReal_eq_of_equal hcb, hreal]
    simp [equal, ha, hbreal]
  · rcases hcb with ⟨hb, hreal⟩ | hcb
    · rw [isReal_eq_of_equal hca] at hreal
      simp [equal, hb, hreal]
    · rw [equal_eq_true_iff] at hca hcb
      have hab : a.equal b = .ok true := equal_eq_true_iff.mpr
        ⟨⟨hca.1.2, hcb.1.2⟩, hca.2.1.symm.trans hcb.2.1, hca.2.2.symm.trans hcb.2.2⟩
      simp [hab]

end Number

namespace Value

/-- Whether the value is a number that is none. -/
def isNaN : Value → Bool
  | number n => n.isNaN
  | _ => false

/-- Whether the value is a number that refuses to be compared. -/
def isSignalling : Value → Bool
  | number n => n.isSignalling
  | _ => false

/-- A literal that is not NaN is strictly equal to itself. -/
theorem strictEqual_self {v : Value} (hliteral : v.isLiteral = true) (hnan : v.isNaN = false) :
    v.strictEqual v = .ok true := by
  cases v with
  | number n =>
    have hequal : n.equal n = .ok true := Number.equal_eq_true_iff.mpr ⟨⟨hnan, hnan⟩, rfl, rfl⟩
    rw [strictEqual, hequal, liftNumbers]
  | null | undefined | bool => simp [strictEqual]
  | text | derivedText | kind | bytes => simp [strictEqual, text?, bytes?]
  | _ => cases hliteral

/-- Only literals are strictly equal to anything. -/
theorem isLiteral_of_strictEqual {a b : Value} (h : a.strictEqual b = .ok true) :
    a.isLiteral = true ∧ b.isLiteral = true := by
  cases a with
  | null | undefined | bool | number | text | derivedText | kind | bytes =>
    cases b with
    | null | undefined | bool | number | text | derivedText | kind | bytes => exact ⟨rfl, rfl⟩
    | _ => cases h
  | _ => cases h

theorem strictEqual_int (m n : Int) : (int m).strictEqual (int n) = .ok (decide (m = n)) := by
  have hequal : (Number.int n).equal (.int m) = .ok ((Number.int n).sameValue (.int m)) := rfl
  rw [strictEqual, hequal, liftNumbers]
  simp [Number.sameValue, Number.realPart, Number.imaginaryPart, Extended.same, Extended.isNaN, eq_comm]

theorem number_of_strictEqual {m : Number} {v : Value} (h : (number m).strictEqual v = .ok true) :
    ∃ n, v = number n ∧ n.equal m = .ok true := by
  cases v with
  | number n =>
    refine ⟨n, rfl, ?_⟩
    rw [strictEqual] at h
    cases hequal : n.equal m with
    | ok verdict =>
      rw [hequal] at h
      exact congrArg Except.ok (Except.ok.inj h)
    | error e =>
      rw [hequal] at h
      cases h
  | _ => cases h

theorem strictEqual_trans {a b c : Value} (hab : a.strictEqual b = .ok true)
    (hbc : b.strictEqual c = .ok true) : a.strictEqual c = .ok true := by
  cases a with
  | null =>
    cases b with
    | null => exact hbc
    | _ => cases hab
  | undefined =>
    cases b with
    | undefined => exact hbc
    | _ => cases hab
  | bool x =>
    cases b with
    | bool y =>
      obtain rfl : x = y := by simpa [strictEqual] using hab
      exact hbc
    | _ => cases hab
  | number m =>
    obtain ⟨n, rfl, hn⟩ := number_of_strictEqual hab
    obtain ⟨l, rfl, hl⟩ := number_of_strictEqual hbc
    rw [Number.equal_eq_true_iff] at hn hl
    have hequal : l.equal m = .ok true :=
      Number.equal_eq_true_iff.mpr ⟨⟨hl.1.1, hn.1.2⟩, hl.2.1.trans hn.2.1, hl.2.2.trans hn.2.2⟩
    rw [strictEqual, hequal, liftNumbers]
  | text | derivedText | kind =>
    rw [strictEqual_of_text? rfl, Except.ok.injEq, beq_iff_eq] at hab
    rwa [strictEqual_of_text? rfl, ← strictEqual_of_text? hab]
  | bytes =>
    rw [strictEqual_of_bytes? rfl, Except.ok.injEq, beq_iff_eq] at hab
    rwa [strictEqual_of_bytes? rfl, ← strictEqual_of_bytes? hab]
  | _ => cases hab

/-- Strict equality does not depend on the order of the sides, nor does its failure. -/
theorem strictEqual_comm (a b : Value) : a.strictEqual b = b.strictEqual a := by
  cases a with
  | number m =>
    cases b with
    | number n => simp only [strictEqual, Number.equal_comm m]
    | _ => rfl
  | bool x =>
    cases b with
    | bool y => simp only [strictEqual, Bool.beq_comm]
    | _ => rfl
  | text | derivedText | kind | bytes =>
    cases b with
    | text | derivedText | kind | bytes => simp [strictEqual, text?, bytes?, Bool.beq_comm]
    | _ => rfl
  | _ => cases b <;> rfl

theorem exists_strictEqual {v w : Value} (hv : v.isSignalling = false) (hw : w.isSignalling = false) :
    ∃ verdict, v.strictEqual w = .ok verdict := by
  cases v with
  | number m =>
    cases w with
    | number n =>
      have hm : m.isSignalling = false := hv
      have hn : n.isSignalling = false := hw
      exact ⟨n.sameValue m, by simp [strictEqual, liftNumbers, Number.equal, hm, hn]⟩
    | _ => exact ⟨_, rfl⟩
  | null | undefined | bool => exact ⟨_, rfl⟩
  | text | derivedText | kind => exact ⟨_, strictEqual_of_text? rfl _⟩
  | bytes => exact ⟨_, strictEqual_of_bytes? rfl _⟩
  | _ => exact ⟨_, rfl⟩

private theorem liftNumbers_ne_false_iff {r : Except NumberFault Bool} : liftNumbers r ≠ .ok false ↔ r ≠ .ok false := by
  cases r <;> simp [liftNumbers]

/-- Two values that a third one is not strictly told apart from, be it that the comparison fails, are not strictly told
apart either, unless the third one refuses all comparisons. -/
theorem strictEqual_ne_false_of_common {a b c : Value} (hc : c.isSignalling = false)
    (hca : c.strictEqual a ≠ .ok false) (hcb : c.strictEqual b ≠ .ok false) : a.strictEqual b ≠ .ok false := by
  cases c with
  | null | undefined =>
    cases a <;> first | exact hcb | exact absurd rfl hca
  | bool x =>
    cases a with
    | bool y =>
      obtain rfl : x = y := by simpa [strictEqual] using hca
      exact hcb
    | _ => exact absurd rfl hca
  | number n =>
    cases a with
    | number m =>
      cases b with
      | number l =>
        simp only [strictEqual, liftNumbers_ne_false_iff] at hca hcb ⊢
        rw [Number.equal_comm] at hca hcb ⊢
        exact Number.equal_ne_false_of_common hc hca hcb
      | _ => exact absurd rfl hcb
    | _ => exact absurd rfl hca
  | text | derivedText | kind =>
    rw [strictEqual_of_text? rfl] at hca hcb
    rwa [strictEqual_of_text? (by simpa using hca)]
  | bytes =>
    rw [strictEqual_of_bytes? rfl] at hca hcb
    rwa [strictEqual_of_bytes? (by simpa using hca)]
  | _ => exact absurd rfl hca

theorem sameKey_iff {a b : Value} : a.sameKey b = true ↔ ∃ k, a.key? = some k ∧ b.key? = some k := by
  rw [sameKey, Bool.and_eq_true, Option.isSome_iff_exists, beq_iff_eq]
  constructor
  · rintro ⟨⟨k, hk⟩, hsame⟩
    exact ⟨k, hk, hsame ▸ hk⟩
  · rintro ⟨k, ha, hb⟩
    exact ⟨⟨k, ha⟩, ha.trans hb.symm⟩

theorem sameKey_congr {k l : Value} (h : k.key? = l.key?) (e : Value) : e.sameKey k = e.sameKey l := by
  rw [sameKey, sameKey, h]

theorem lookup_congr {k l : Value} (h : k.key? = l.key?) (entries : List (Value × Value)) :
    lookup entries k = lookup entries l := by
  simp only [lookup, sameKey_congr h]

/-- What a value has under a key depends on the key only up to sameness. -/
theorem entry?_congr {k l : Value} (h : k.key? = l.key?) (v : Value) : v.entry? k = v.entry? l := by
  have hindex : k.index? = l.index? := by rw [index?, index?, h]
  simp only [lookup_congr h, entry?, hindex]

theorem exists_mem_of_lookup {entries : List (Value × Value)} {k v : Value} (h : lookup entries k = some v) :
    ∃ e ∈ entries, e.1.key? = k.key? ∧ e.2 = v := by
  obtain ⟨e, hfind, hvalue⟩ := Option.map_eq_some_iff.mp h
  obtain ⟨key, he, hk⟩ := sameKey_iff.mp (by simpa using List.find?_some hfind)
  exact ⟨e, List.mem_of_find?_eq_some hfind, he.trans hk.symm, hvalue⟩

/-- Among entries with keys that all differ, each is the one under its key. -/
theorem lookup_of_mem {entries : List (Value × Value)} (hnodup : (entries.map fun e => e.1.key?).Nodup)
    {e : Value × Value} (he : e ∈ entries) (hkey : e.1.key?.isSome = true) :
    lookup entries e.1 = some e.2 := by
  induction entries with
  | nil => cases he
  | cons first rest ih =>
    obtain ⟨hfirst, hrest⟩ := List.nodup_cons.mp hnodup
    rcases List.mem_cons.mp he with rfl | hmem
    · simp [lookup, sameKey, hkey]
    · have hother : first.1.sameKey e.1 = false := by
        have hne : first.1.key? ≠ e.1.key? := fun heq => hfirst (List.mem_map.mpr ⟨e, hmem, heq.symm⟩)
        simp [sameKey, hne]
      rw [← ih hrest hmem, lookup, lookup, List.find?_cons, hother]

end Value

end Clausewise
