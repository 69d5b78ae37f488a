import Clausewise.Proofs.Spec.Interpretation
import Clausewise.Proofs.Value.Equivalence
import Clausewise.Proofs.Value.Parts
import Mathlib.Logic.Basic
import Mathlib.Tactic.ByContra

/-! Plain data as specs and as values at once: matching between them is reflexive, and transitive up to values of
any kind. -/
namespace Clausewise

namespace Value

/-- Plain data is built from literals that are not NaN with lists, tuples and plain mappings. The keys of a mapping
all differ and have canonical forms, so that NaN is no part of them either. -/
inductive PlainData : Value → Prop
  | literal {v : Value} : v.isLiteral = true → v.isNaN = false → PlainData v
  | sequence {shape : SequenceShape} {items : List Value} : shape.isSpec = true →
      (∀ v ∈ items, PlainData v) → PlainData (.sequence shape items)
  | mapping {entries : List (Value × Value)} : (∀ e ∈ entries, e.1.key?.isSome = true) →
      (entries.map fun e => e.1.key?).Nodup → (∀ e ∈ entries, PlainData e.2) →
      PlainData (.mapping .plain entries)

/-- That a value meets a spec, without a failure on the way. -/
def Accepts (limit : Value) (call : Caller) (spec v : Value) : Prop := (meets limit call spec v).result = .ok true

variable {limit : Value} {call : Caller}

/-- That each spec accepts the item at its place. -/
def AcceptsItems (limit : Value) (call : Caller) (specs items : List Value) : Prop :=
  ∀ (i : Nat) (spec : Value), specs[i]? = some spec → ∃ item, items[i]? = some item ∧ Accepts limit call spec item

theorem AcceptsItems.length_le {specs items : List Value} (h : AcceptsItems limit call specs items) :
    specs.length ≤ items.length := by
  by_contra hlt
  have hspec : specs[items.length]? = some specs[items.length] := List.getElem?_eq_getElem (by omega)
  obtain ⟨item, hitem, -⟩ := h _ _ hspec
  simp at hitem

theorem meetsItems_eq_true_iff {specs items : List Value} :
    (meetsItems limit call specs items).result = .ok true ↔ AcceptsItems limit call specs items := by
  induction specs generalizing items with
  | nil => simp [meetsItems, AcceptsItems]
  | cons spec specs ih =>
    cases items with
    | nil =>
      simp only [meetsItems, Outcome.result_ok, Except.ok.injEq, Bool.false_eq_true, false_iff]
      intro h
      exact absurd h.length_le (by simp)
    | cons item items =>
      simp only [meetsItems, Outcome.bind_eq_andThen, Outcome.pure_eq_ok]
      rw [Outcome.result_andThen_ite_eq_true_iff, ih]
      constructor
      · rintro ⟨hspec, hspecs⟩ i spec' hi
        cases i with
        | zero =>
          obtain rfl := Option.some.inj hi
          exact ⟨item, rfl, hspec⟩
        | succ i => exact hspecs i spec' hi
      · intro h
        obtain ⟨_, ⟨⟩, hspec⟩ := h 0 spec rfl
        exact ⟨hspec, fun i => h (i + 1)⟩

theorem meetsEntries_eq_true_iff {fields : List (Value × Value)} {v : Value} :
    (meetsEntries limit call fields v).result = .ok true ↔
      ∀ f ∈ fields, ∃ entry, v.entry? f.1 = some entry ∧ Accepts limit call f.2 entry := by
  induction fields with
  | nil => simp [meetsEntries]
  | cons f fields ih =>
    rw [meetsEntries, List.forall_mem_cons, ← ih]
    cases v.entry? f.1 with
    | none => simp
    | some entry =>
      simp only [Outcome.bind_eq_andThen, Outcome.pure_eq_ok, Option.some.injEq, exists_eq_left']
      exact Outcome.result_andThen_ite_eq_true_iff

/-- What a sequence spec accepts, among values that withhold nothing: a sequence that tells its length, with an item for
each spec. -/
theorem accepts_sequence_iff {shape : SequenceShape} {specs : List Value} {v : Value} (hgives : v.withheld? = none) :
    Accepts limit call (.sequence shape specs) v ↔
      ∃ items, v.items? = some items ∧ v.refusesLength = false ∧ AcceptsItems limit call specs items := by
  rw [Accepts, meets, hgives]
  cases v.items? with
  | none => simp
  | some items =>
    simp only [Option.some.injEq, exists_eq_left']
    split
    · simp [*]
    · split
      · simp only [Outcome.result_ok, Except.ok.injEq, Bool.false_eq_true, false_iff, not_and]
        intro _ h
        exact absurd h.length_le (by omega)
      · simp [*, meetsItems_eq_true_iff]

/-- What a mapping spec accepts: an object with as many entries, one under each key of the spec. -/
theorem accepts_mapping_iff {shape : MappingShape} {fields : List (Value × Value)} {v : Value}
    (hgives : v.withheld? = none) :
    Accepts limit call (.mapping shape fields) v ↔
      (v.isObject = true ∧ fields.length ≤ v.entryCount) ∧
        ∀ f ∈ fields, ∃ entry, v.entry? f.1 = some entry ∧ Accepts limit call f.2 entry := by
  rw [← meetsEntries_eq_true_iff]
  simp only [Accepts, meets, hgives, Bool.and_eq_true, decide_eq_true_eq]
  split <;> simp [*]

theorem accepts_literal_iff {spec v : Value} (h : spec.isLiteral = true) :
    Accepts limit call spec v ↔ spec.strictEqual v = .ok true := by
  rw [Accepts, meets_literal h]
  cases spec.strictEqual v <;> simp [Outcome.ofComparison]

/-- Plain data accepts itself. -/
theorem accepts_self {p : Value} (hp : PlainData p) : Accepts limit call p p := by
  induction hp with
  | literal hliteral hnan => exact (accepts_literal_iff hliteral).mpr (strictEqual_self hliteral hnan)
  | @sequence shape items _ _ ih =>
    refine (accepts_sequence_iff rfl).mpr ⟨items, rfl, rfl, fun i spec hi => ?_⟩
    exact ⟨spec, hi, ih spec (List.mem_of_getElem? hi)⟩
  | @mapping entries hkeys hnodup _ ih =>
    refine (accepts_mapping_iff rfl).mpr ⟨⟨rfl, Nat.le_refl _⟩, fun e he => ?_⟩
    exact ⟨e.2, lookup_of_mem hnodup he (hkeys e he), ih e he⟩

theorem PlainData.withheld? {p : Value} (hp : PlainData p) : p.withheld? = none := by
  cases hp with
  | literal hliteral =>
    cases p with
    | null | undefined | bool | number | text | derivedText | kind | bytes => rfl
    | _ => cases hliteral
  | sequence | mapping => rfl

/-- What plain data accepts is passed on along plain data that it accepts, to values that let themselves be looked
into. -/
theorem Accepts.trans {p q v : Value} (hp : PlainData p) (hq : PlainData q) (hv : v.Throughout Forthcoming)
    (hpq : Accepts limit call p q) (hqv : Accepts limit call q v) : Accepts limit call p v := by
  induction hp generalizing q v with
  | literal hliteral _ =>
    rw [accepts_literal_iff hliteral] at hpq ⊢
    have hq := (isLiteral_of_strictEqual hpq).2
    exact strictEqual_trans hpq ((accepts_literal_iff hq).mp hqv)
  | @sequence shape specs _ _ ih =>
    obtain ⟨qitems, hqitems, -, hspecs⟩ := (accepts_sequence_iff hq.withheld?).mp hpq
    have hobject := isObject_of_items? hqitems
    cases hq with
    | literal hliteral => simp [isLiteral_of_isObject hobject] at hliteral
    | mapping => cases hqitems
    | @sequence qshape qspecs _ hplain =>
      obtain rfl := Option.some.inj hqitems
      obtain ⟨items, hitems, hlength, hqspecs⟩ := (accepts_sequence_iff hv.self.gives).mp hqv
      refine (accepts_sequence_iff hv.self.gives).mpr ⟨items, hitems, hlength, fun i spec hi => ?_⟩
      obtain ⟨qspec, hqspec, haccepts⟩ := hspecs i spec hi
      obtain ⟨item, hitem, hqaccepts⟩ := hqspecs i qspec hqspec
      have hinner : item.Throughout Forthcoming := hv.inner (mem_inner_of_items? hitems (List.mem_of_getElem? hitem))
      refine ⟨item, hitem, ?_⟩
      exact ih spec (List.mem_of_getElem? hi) (hplain qspec (List.mem_of_getElem? hqspec)) hinner haccepts hqaccepts
  | @mapping fields _ _ _ ih =>
    obtain ⟨⟨hobject, hcount⟩, hfields⟩ := (accepts_mapping_iff hq.withheld?).mp hpq
    cases hq with
    | literal hliteral => simp [isLiteral_of_isObject hobject] at hliteral
    | @sequence qshape qspecs _ hplain =>
      obtain ⟨items, hitems, -, hqspecs⟩ := (accepts_sequence_iff hv.self.gives).mp hqv
      -- The keys of `p` stand for indices of `q`, and stand for the same indices of `v`.
      have hsequence : (sequence qshape qspecs).items? = some qspecs := rfl
      rw [entryCount_of_items? hsequence] at hcount
      refine (accepts_mapping_iff hv.self.gives).mpr ⟨⟨isObject_of_items? hitems, ?_⟩, fun f hf => ?_⟩
      · rw [entryCount_of_items? hitems]
        exact Nat.le_trans hcount hqspecs.length_le
      · obtain ⟨qspec, hentry, haccepts⟩ := hfields f hf
        rw [entry?_of_items? hsequence] at hentry
        obtain ⟨i, hi, hqspec⟩ := Option.bind_eq_some_iff.mp hentry
        obtain ⟨item, hitem, hqaccepts⟩ := hqspecs i qspec hqspec
        have hinner : item.Throughout Forthcoming := hv.inner (mem_inner_of_items? hitems (List.mem_of_getElem? hitem))
        refine ⟨item, by rw [entry?_of_items? hitems, hi, Option.bind_some, hitem], ?_⟩
        exact ih f hf (hplain qspec (List.mem_of_getElem? hqspec)) hinner haccepts hqaccepts
    | @mapping qfields _ _ hplain =>
      obtain ⟨⟨hvobject, hvcount⟩, hqfields⟩ := (accepts_mapping_iff hv.self.gives).mp hqv
      refine (accepts_mapping_iff hv.self.gives).mpr ⟨⟨hvobject, Nat.le_trans hcount hvcount⟩, fun f hf => ?_⟩
      obtain ⟨qspec, hentry, haccepts⟩ := hfields f hf
      -- `q` may spell the key of `p` otherwise, such as `1.0` for `1`; `v` does not tell the two apart.
      obtain ⟨qf, hqf, hkey, rfl⟩ := exists_mem_of_lookup hentry
      obtain ⟨entry, hventry, hqaccepts⟩ := hqfields qf hqf
      refine ⟨entry, by rw [← entry?_congr hkey, hventry], ?_⟩
      exact ih f hf (hplain qf hqf) (hv.inner (mem_inner_of_entry hventry)) haccepts hqaccepts

end Value

namespace Registry

/-- Matching between plain data is a preorder, whatever the depth that the registry allows. A spec of plain data that
compiles matches itself; and if one matches a second and that one matches a value of any kind that lets itself be looked
into, the first matches the value too. That a match is found includes that no test on the way fails. -/
theorem matching_plainData_preorder (limit : Value) (maxDepth : Int) (call : Caller) :
    (∀ p m, p.PlainData → ((builtIn limit maxDepth).compile p).result = .ok m →
      (m.test call p).result = .ok true) ∧
    ∀ p q mp mq, p.PlainData → q.PlainData → ((builtIn limit maxDepth).compile p).result = .ok mp →
      ((builtIn limit maxDepth).compile q).result = .ok mq → ∀ v, v.Throughout Value.Forthcoming →
        (mp.test call q).result = .ok true → (mq.test call v).result = .ok true →
          (mp.test call v).result = .ok true := by
  refine ⟨fun p m hp hm => ?_, fun p q mp mq hp hq hmp hmq v hv hpq hqv => ?_⟩
  · rw [eq_ofSpec_of_compile hm, Value.test_ofSpec]
    exact Value.accepts_self hp
  · rw [eq_ofSpec_of_compile hmp, Value.test_ofSpec] at hpq ⊢
    rw [eq_ofSpec_of_compile hmq, Value.test_ofSpec] at hqv
    exact Value.Accepts.trans hp hq hv hpq hqv

end Registry

end Clausewise
