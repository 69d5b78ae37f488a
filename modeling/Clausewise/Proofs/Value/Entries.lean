import Clausewise.Proofs.Value.Equivalence
import Mathlib.Data.List.Induction
import Mathlib.Data.List.Perm.Subperm

/-! The entries of a value as a finite map. Where keys all differ, what is under a key does not depend on the order, and
the values with an entry under each of some keys have as many entries. -/
namespace Clausewise.Value

/-- That no key of the entries is the same as another. -/
def KeysDiffer (entries : List (Value × Value)) : Prop := entries.Pairwise fun e f => e.1.sameKey f.1 = false

instance (entries : List (Value × Value)) : Decidable (KeysDiffer entries) :=
  inferInstanceAs (Decidable (List.Pairwise _ entries))

section Lookup
variable {entries entries' fields : List (Value × Value)} {e : Value × Value} {k q x : Value}

theorem sameKey_comm (a b : Value) : a.sameKey b = b.sameKey a := by
  apply Bool.eq_iff_iff.mpr
  rw [sameKey_iff, sameKey_iff]
  exact exists_congr fun key => and_comm

theorem key?_eq_of_sameKey (h : k.sameKey q = true) : k.key? = q.key? := by
  obtain ⟨key, hk, hq⟩ := sameKey_iff.mp h
  exact hk.trans hq.symm

theorem lookup_cons (e : Value × Value) (entries : List (Value × Value)) (k : Value) :
    lookup (e :: entries) k = if e.1.sameKey k = true then some e.2 else lookup entries k := by
  rw [lookup, List.find?_cons]
  cases e.1.sameKey k <;> rfl

theorem isSome_lookup (entries : List (Value × Value)) (k : Value) :
    (lookup entries k).isSome = entries.any fun e => e.1.sameKey k := by
  rw [lookup, Option.isSome_map, Bool.eq_iff_iff, List.find?_isSome, List.any_eq_true]

theorem KeysDiffer.perm (hdiffer : KeysDiffer entries) (hperm : entries.Perm entries') : KeysDiffer entries' := by
  apply List.Pairwise.perm hdiffer hperm
  intro e f h
  rwa [sameKey_comm]

/-- Where keys all differ, what is under a key is what any entry under the same key holds. -/
theorem KeysDiffer.lookup_eq_some_iff (hdiffer : KeysDiffer entries) :
    lookup entries k = some x ↔ ∃ e ∈ entries, e.1.sameKey k = true ∧ e.2 = x := by
  induction entries with
  | nil => simp [lookup]
  | cons first rest ih =>
    obtain ⟨hfirst, hrest⟩ := List.pairwise_cons.mp hdiffer
    rw [lookup_cons]
    by_cases hsame : first.1.sameKey k = true
    · -- No other entry is under the key, for its key would be the same as the first one.
      have hother : ∀ e ∈ rest, ¬ (e.1.sameKey k = true) := by
        intro e he hk
        have hne := hfirst e he
        rw [sameKey_congr (key?_eq_of_sameKey hk), hsame] at hne
        cases hne
      rw [if_pos hsame]
      constructor
      · intro hx
        exact ⟨first, List.mem_cons_self, hsame, Option.some.inj hx⟩
      · rintro ⟨e, he, hk, rfl⟩
        rcases List.mem_cons.mp he with rfl | he
        · rfl
        · exact absurd hk (hother e he)
    · rw [if_neg hsame, ih hrest]
      simp [hsame]

/-- Where each of some keys that all differ has an entry, there are as many entries. -/
theorem KeysDiffer.length_le_of_lookup (hdiffer : KeysDiffer fields)
    (h : ∀ f ∈ fields, ∃ x, lookup entries f.1 = some x) : fields.length ≤ entries.length := by
  have hforms : ∀ f ∈ fields, f.1.key?.isSome = true ∧ f.1.key? ∈ entries.map fun e => e.1.key? := by
    intro f hf
    obtain ⟨x, hx⟩ := h f hf
    have hany : (lookup entries f.1).isSome = true := Option.isSome_iff_exists.mpr ⟨x, hx⟩
    rw [isSome_lookup, List.any_eq_true] at hany
    obtain ⟨e, he, hsame⟩ := hany
    obtain ⟨key, hkey, hf⟩ := sameKey_iff.mp hsame
    exact ⟨by rw [hf, Option.isSome_some], List.mem_map.mpr ⟨e, he, hkey.trans hf.symm⟩⟩
  have hnodup : (fields.map fun f => f.1.key?).Nodup := by
    rw [List.Nodup, List.pairwise_map]
    apply hdiffer.imp_of_mem
    intro e f he hf hother hsame
    rw [sameKey, (hforms e he).1, hsame, beq_self_eq_true] at hother
    cases hother
  have hsub : (fields.map fun f => f.1.key?) ⊆ entries.map fun e => e.1.key? := by
    intro form hform
    obtain ⟨f, hf, rfl⟩ := List.mem_map.mp hform
    exact (hforms f hf).2
  simpa using (hnodup.subperm hsub).length_le

end Lookup

section Keys
variable {keys : List Value} {k : Value}

end Keys

section Indices
variable {α : Type} {k : Value} {i : Nat}

/-- Things under their indices, counted from a first one. -/
def indexed (i : Nat) (as : List α) : List (Value × α) := (as.zipIdx i).map fun a => (int a.2, a.1)

theorem indexed_cons (i : Nat) (a : α) (as : List α) : indexed i (a :: as) = (int i, a) :: indexed (i + 1) as := by
  rw [indexed, List.zipIdx_cons, List.map_cons, indexed]

theorem length_indexed (i : Nat) (as : List α) : (indexed i as).length = as.length := by
  rw [indexed, List.length_map, List.length_zipIdx]

theorem map_snd_indexed (i : Nat) (as : List α) : (indexed i as).map (·.2) = as := by
  rw [indexed, List.map_map]
  exact List.zipIdx_map_fst i as

theorem key?_int (i : Nat) : (int i).key? = some [.number (.finite i) (.finite 0)] := rfl

theorem key?_of_index? (h : k.index? = some i) : k.key? = some [.number (.finite i) (.finite 0)] := by
  rw [index?] at h
  split at h
  next re im hkey =>
    split at h
    · obtain ⟨rfl, hden, hnum⟩ := ‹_ ∧ _›
      obtain rfl := Option.some.inj h
      have hre : re = (re.num.toNat : Rat) := by
        apply Rat.ext
        · simp only [Rat.num_natCast]
          omega
        · simp [hden]
      rw [hkey, ← hre]
    · cases h
  · cases h

/-- The keys that an index is the same as are those that stand for it. -/
theorem sameKey_int_iff : (int i).sameKey k = true ↔ k.index? = some i := by
  constructor
  · intro h
    have hkey := key?_eq_of_sameKey h
    rw [key?_int] at hkey
    rw [index?, ← hkey]
    simp
  · intro h
    rw [sameKey_iff]
    exact ⟨_, key?_int i, key?_of_index? h⟩

/-- What is under a key among items under their indices is the item at the index that the key stands for. -/
theorem lookup_indexed (items : List Value) (k : Value) :
    lookup (indexed 0 items) k = k.index?.bind fun i => items[i]? := by
  suffices h : ∀ first, lookup (indexed first items) k =
      k.index?.bind fun i => if first ≤ i then items[i - first]? else none by
    simpa using h 0
  intro first
  induction items generalizing first with
  | nil => simp [indexed, lookup]
  | cons item items ih =>
    rw [indexed_cons, lookup_cons, ih]
    cases hk : k.index? with
    | none =>
      have hother : ¬ ((int first).sameKey k = true) := by simp [sameKey_int_iff, hk]
      rw [if_neg hother]
      rfl
    | some i =>
      simp only [sameKey_int_iff, hk, Option.some.injEq, Option.bind_some]
      rcases Nat.lt_trichotomy i first with hlt | rfl | hgt
      · rw [if_neg (by omega), if_neg (by omega), if_neg (by omega)]
      · simp
      · rw [if_neg (by omega), if_pos (by omega), if_pos (by omega), show i - first = i - (first + 1) + 1 by omega,
          List.getElem?_cons_succ]

end Indices

/-- All entries of a value: those of a mapping, the items of a sequence under their indices, and the attributes of
anything else under their names. -/
def allEntries (v : Value) : List (Value × Value) :=
  match v.entries?, v.items? with
  | some entries, _ => entries
  | none, some items => indexed 0 items
  | none, none => named v.attributes

theorem entry?_eq_lookup (v k : Value) : v.entry? k = lookup v.allEntries k := by
  rw [allEntries]
  cases hitems : v.items? with
  | some items => rw [entry?_of_items? hitems, entries?_of_items? hitems, lookup_indexed]
  | none =>
    rw [Value.entry?, length?_eq_map_items?, hitems]
    cases v.entries? <;> rfl

theorem entryCount_eq_length (v : Value) : v.entryCount = v.allEntries.length := by
  rw [allEntries]
  cases hitems : v.items? with
  | some items => rw [entryCount_of_items? hitems, entries?_of_items? hitems, length_indexed]
  | none =>
    rw [entryCount, length?_eq_map_items?, hitems]
    cases v.entries? with
    | some entries => rfl
    | none => simp [named]

/-- A value with an entry under each of some keys that all differ has as many entries. -/
theorem KeysDiffer.length_le_entryCount {fields : List (Value × Value)} {v : Value} (hdiffer : KeysDiffer fields)
    (h : ∀ f ∈ fields, ∃ entry, v.entry? f.1 = some entry) : fields.length ≤ v.entryCount := by
  simp only [entry?_eq_lookup] at h
  rw [entryCount_eq_length]
  exact hdiffer.length_le_of_lookup h

end Clausewise.Value
