import Clausewise.Proofs.Kind.Inquiry
import Clausewise.Stock.Kinds

/-! The order in which a registry tries its kinds: by priority, then by registration. The kind that decides on a spec is
told by the registered kinds themselves, and only the order among kinds of one priority matters. -/
namespace Clausewise

/-- The kinds of a priority, in the order in which they stand. -/
def ofPriority (p : Int) (kinds : List Kind) : List Kind := kinds.filter fun k => k.priority = p

theorem mem_ofPriority {p : Int} {kinds : List Kind} {k : Kind} :
    k ∈ ofPriority p kinds ↔ k ∈ kinds ∧ k.priority = p := by
  simp [ofPriority]

/-- Two orders with the same kinds of each priority have them in the same order around a kind of the priority. -/
theorem exists_split_of_ofPriority_eq {kinds others before after : List Kind} {k : Kind}
    (h : ofPriority k.priority others = ofPriority k.priority kinds) (hsplit : kinds = before ++ k :: after) :
    ∃ before' after', others = before' ++ k :: after' ∧
      ofPriority k.priority before' = ofPriority k.priority before := by
  rw [hsplit, ofPriority, ofPriority, List.filter_append, List.filter_cons_of_pos (by simp)] at h
  obtain ⟨first, rest, rfl, hfirst, hrest⟩ := List.filter_eq_append_iff.mp h
  obtain ⟨between, after', rfl, hbetween, -, -⟩ := List.filter_eq_cons_iff.mp hrest
  refine ⟨first ++ between, after', by rw [List.append_assoc], ?_⟩
  rw [ofPriority, List.filter_append, hfirst, List.filter_eq_nil_iff.mpr hbetween, List.append_nil, ofPriority]

private theorem mem_iff_of_ofPriority_eq {kinds others : List Kind}
    (h : ∀ p, ofPriority p kinds = ofPriority p others) {k : Kind} : k ∈ kinds ↔ k ∈ others := by
  have hk : k ∈ ofPriority k.priority kinds ↔ k ∈ ofPriority k.priority others := by rw [h]
  simpa [mem_ofPriority] using hk

/-- Kinds by descending priority are determined by the kinds of each priority. -/
theorem eq_of_ofPriority_eq {kinds others : List Kind}
    (hkinds : kinds.Pairwise fun a b => b.priority ≤ a.priority)
    (hothers : others.Pairwise fun a b => b.priority ≤ a.priority)
    (h : ∀ p, ofPriority p kinds = ofPriority p others) : kinds = others := by
  induction kinds generalizing others with
  | nil =>
    cases others with
    | nil => rfl
    | cons l others => cases (mem_iff_of_ofPriority_eq h).mpr List.mem_cons_self
  | cons k kinds ih =>
    cases others with
    | nil => cases (mem_iff_of_ofPriority_eq h).mp List.mem_cons_self
    | cons l others =>
      obtain ⟨hk, hkinds'⟩ := List.pairwise_cons.mp hkinds
      obtain ⟨hl, hothers'⟩ := List.pairwise_cons.mp hothers
      -- Neither first kind has a lower priority than the other, so both are the first of one priority.
      have hle : k.priority ≤ l.priority := by
        rcases List.mem_cons.mp ((mem_iff_of_ofPriority_eq h).mp List.mem_cons_self) with rfl | hin
        · exact Int.le_refl _
        · exact hl k hin
      have hge : l.priority ≤ k.priority := by
        rcases List.mem_cons.mp ((mem_iff_of_ofPriority_eq h).mpr List.mem_cons_self) with rfl | hin
        · exact Int.le_refl _
        · exact hk l hin
      have hfirst := h k.priority
      rw [ofPriority, ofPriority, List.filter_cons_of_pos (by simp),
        List.filter_cons_of_pos (by simpa using Int.le_antisymm hge hle)] at hfirst
      obtain ⟨rfl, -⟩ := List.cons.inj hfirst
      have hrest : ∀ p, ofPriority p kinds = ofPriority p others := by
        intro p
        have hp := h p
        simp only [ofPriority, List.filter_cons] at hp
        split at hp
        · exact (List.cons.inj hp).2
        · exact hp
      rw [ih hkinds' hothers' hrest]

namespace Registry
variable {r r' : Registry} {spec : Value} {k : Kind}

/-- The registry that registering kinds one after the other leads to. -/
def registered (maxDepth : Int) (calls : List Kind) : Registry := calls.foldl register ⟨[], maxDepth⟩

@[simp] theorem registered_eq (maxDepth : Int) (calls : List Kind) : registered maxDepth calls = ⟨calls, maxDepth⟩ := by
  have hfoldl : ∀ (r : Registry), calls.foldl register r = { r with kinds := r.kinds ++ calls } := by
    induction calls with
    | nil => simp
    | cons k calls ih => simp [ih, register]
  rw [registered, hfoldl, List.nil_append]

theorem trialOrder_perm (r : Registry) : r.trialOrder.Perm r.kinds := List.mergeSort_perm ..

private theorem priority_le_trans (a b c : Kind) (hab : decide (b.priority ≤ a.priority) = true)
    (hbc : decide (c.priority ≤ b.priority) = true) : decide (c.priority ≤ a.priority) = true := by
  simp only [decide_eq_true_eq] at hab hbc ⊢
  exact Int.le_trans hbc hab

private theorem priority_le_total (a b : Kind) :
    (decide (b.priority ≤ a.priority) || decide (a.priority ≤ b.priority)) = true := by
  simp only [Bool.or_eq_true, decide_eq_true_eq]
  exact Int.le_total b.priority a.priority

theorem pairwise_trialOrder (r : Registry) : r.trialOrder.Pairwise fun a b => b.priority ≤ a.priority := by
  have hsorted := List.pairwise_mergeSort priority_le_trans priority_le_total r.kinds
  exact hsorted.imp of_decide_eq_true

/-- Kinds of one priority are tried in the order of registration. -/
theorem ofPriority_trialOrder (r : Registry) (p : Int) : ofPriority p r.trialOrder = ofPriority p r.kinds := by
  have hsorted : (ofPriority p r.kinds).Pairwise fun a b => decide (b.priority ≤ a.priority) = true := by
    refine List.pairwise_of_forall_mem_list fun a ha b hb => decide_eq_true (Int.le_of_eq ?_)
    rw [(mem_ofPriority.mp ha).2, (mem_ofPriority.mp hb).2]
  have hsub : (ofPriority p r.kinds).Sublist r.trialOrder :=
    List.sublist_mergeSort priority_le_trans priority_le_total hsorted List.filter_sublist
  have hfilter := hsub.filter fun k => decide (k.priority = p)
  simp only [ofPriority, List.filter_filter, Bool.and_self] at hfilter
  exact (hfilter.eq_of_length (r.trialOrder_perm.filter _).length_eq.symm).symm

/-- Registries with the same kinds of each priority, in the same order, try all of them in the same order. -/
theorem trialOrder_congr (h : ∀ p, ofPriority p r.kinds = ofPriority p r'.kinds) : r.trialOrder = r'.trialOrder :=
  eq_of_ofPriority_eq r.pairwise_trialOrder r'.pairwise_trialOrder fun p => by
    rw [ofPriority_trialOrder, ofPriority_trialOrder, h]

/-- A search passes over kinds that reject the spec. -/
theorem firstAccepting_append {before : List Kind} (h : ∀ j ∈ before, j.accepts spec = .ok false) (rest : List Kind) :
    firstAccepting (before ++ rest) spec = firstAccepting rest spec := by
  induction before with
  | nil => rfl
  | cons j before ih =>
    obtain ⟨hj, hbefore⟩ := List.forall_mem_cons.mp h
    rw [List.cons_append, firstAccepting, hj]
    exact ih hbefore

/-- A search ends at the first kind that does not reject the spec, which accepts it or fails to decide, or finds
none. -/
theorem firstAccepting_cases (kinds : List Kind) (spec : Value) :
    ((∀ j ∈ kinds, j.accepts spec = .ok false) ∧ firstAccepting kinds spec = .error (.about .unclassifiable spec)) ∨
      ∃ before k after, kinds = before ++ k :: after ∧ (∀ j ∈ before, j.accepts spec = .ok false) ∧
        ((k.accepts spec = .ok true ∧ firstAccepting kinds spec = .ok k) ∨
          ∃ e, k.accepts spec = .error e ∧ firstAccepting kinds spec = .error e) := by
  induction kinds with
  | nil => exact Or.inl ⟨nofun, rfl⟩
  | cons k kinds ih =>
    cases hk : k.accepts spec with
    | error e => exact Or.inr ⟨[], k, kinds, rfl, nofun, Or.inr ⟨e, hk, by rw [firstAccepting, hk]⟩⟩
    | ok accepted =>
      cases accepted with
      | true => exact Or.inr ⟨[], k, kinds, rfl, nofun, Or.inl ⟨hk, by rw [firstAccepting, hk]⟩⟩
      | false =>
        have hstep : firstAccepting (k :: kinds) spec = firstAccepting kinds spec := by rw [firstAccepting, hk]
        rw [hstep]
        rcases ih with ⟨hall, hnone⟩ | ⟨before, first, after, rfl, hbefore, hfirst⟩
        · exact Or.inl ⟨List.forall_mem_cons.mpr ⟨hk, hall⟩, hnone⟩
        · exact Or.inr ⟨k :: before, first, after, rfl, List.forall_mem_cons.mpr ⟨hk, hbefore⟩, hfirst⟩

theorem result_resolve (r : Registry) (spec : Value) :
    (r.resolve spec).result = firstAccepting r.trialOrder spec := by
  unfold resolve
  split <;> simp [*]

/-- That the search reaches a registered kind: every kind of higher priority rejects the spec, and so does every kind of
equal priority that was registered earlier. -/
def Reaches (r : Registry) (spec : Value) (k : Kind) : Prop :=
  ∃ before after, r.kinds = before ++ k :: after ∧
    (∀ j ∈ r.kinds, k.priority < j.priority → j.accepts spec = .ok false) ∧
    ∀ j ∈ before, j.priority = k.priority → j.accepts spec = .ok false

theorem reaches_iff_exists_split : r.Reaches spec k ↔
    ∃ before after, r.trialOrder = before ++ k :: after ∧ ∀ j ∈ before, j.accepts spec = .ok false := by
  constructor
  · rintro ⟨before, after, hkinds, hhigher, hearlier⟩
    obtain ⟨before', after', htrial, hbefore⟩ :=
      exists_split_of_ofPriority_eq (r.ofPriority_trialOrder k.priority) hkinds
    refine ⟨before', after', htrial, fun j hj => ?_⟩
    have hsorted := r.pairwise_trialOrder
    rw [htrial, List.pairwise_append] at hsorted
    have hle : k.priority ≤ j.priority := hsorted.2.2 j hj k List.mem_cons_self
    by_cases heq : j.priority = k.priority
    · have hmem : j ∈ ofPriority k.priority before := hbefore ▸ mem_ofPriority.mpr ⟨hj, heq⟩
      exact hearlier j (mem_ofPriority.mp hmem).1 heq
    · have hmem : j ∈ r.trialOrder := htrial ▸ List.mem_append_left _ hj
      exact hhigher j (r.trialOrder_perm.mem_iff.mp hmem) (by omega)
  · rintro ⟨before, after, htrial, hrejects⟩
    obtain ⟨before', after', hkinds, hbefore⟩ :=
      exists_split_of_ofPriority_eq (r.ofPriority_trialOrder k.priority).symm htrial
    refine ⟨before', after', hkinds, fun j hj hlt => ?_, fun j hj heq => ?_⟩
    · have hsorted := r.pairwise_trialOrder
      have hmem := r.trialOrder_perm.mem_iff.mpr hj
      rw [htrial, List.pairwise_append, List.pairwise_cons] at hsorted
      rw [htrial, List.mem_append, List.mem_cons] at hmem
      rcases hmem with hin | rfl | hin
      · exact hrejects j hin
      · omega
      · have := hsorted.2.1.1 j hin
        omega
    · have hmem : j ∈ ofPriority k.priority before := hbefore ▸ mem_ofPriority.mpr ⟨hj, heq⟩
      exact hrejects j (mem_ofPriority.mp hmem).1

/-- A spec resolves to the kind that accepts it and is reached. -/
theorem result_resolve_eq_ok_iff :
    (r.resolve spec).result = .ok k ↔ r.Reaches spec k ∧ k.accepts spec = .ok true := by
  rw [result_resolve, reaches_iff_exists_split]
  constructor
  · intro h
    rcases firstAccepting_cases r.trialOrder spec with ⟨-, hnone⟩ | ⟨before, first, after, htrial, hbefore, hfirst⟩
    · simp [hnone] at h
    · rcases hfirst with ⟨haccepts, hfirst⟩ | ⟨e, -, hfirst⟩
      · obtain rfl : first = k := by simpa [hfirst] using h
        exact ⟨⟨before, after, htrial, hbefore⟩, haccepts⟩
      · simp [hfirst] at h
  · rintro ⟨⟨before, after, htrial, hbefore⟩, haccepts⟩
    rw [htrial, firstAccepting_append hbefore, firstAccepting, haccepts]

/-- A spec does not resolve if every kind rejects it, or if a kind that is reached fails to decide. -/
theorem result_resolve_eq_error_iff {e : Failure} :
    (r.resolve spec).result = .error e ↔
      (e = .about .unclassifiable spec ∧ ∀ j ∈ r.kinds, j.accepts spec = .ok false) ∨
        ∃ k, r.Reaches spec k ∧ k.accepts spec = .error e := by
  simp only [result_resolve, reaches_iff_exists_split]
  constructor
  · intro h
    rcases firstAccepting_cases r.trialOrder spec with ⟨hall, hnone⟩ | ⟨before, first, after, htrial, hbefore, hfirst⟩
    · obtain rfl : Failure.about .unclassifiable spec = e := by simpa [hnone] using h
      exact Or.inl ⟨rfl, fun j hj => hall j (r.trialOrder_perm.mem_iff.mpr hj)⟩
    · rcases hfirst with ⟨-, hfirst⟩ | ⟨e', hfails, hfirst⟩
      · simp [hfirst] at h
      · obtain rfl : e' = e := by simpa [hfirst] using h
        exact Or.inr ⟨first, ⟨before, after, htrial, hbefore⟩, hfails⟩
  · rintro (⟨rfl, hall⟩ | ⟨k, ⟨before, after, htrial, hbefore⟩, hfails⟩)
    · have htrial : ∀ j ∈ r.trialOrder, j.accepts spec = .ok false :=
        fun j hj => hall j (r.trialOrder_perm.mem_iff.mp hj)
      rw [← List.append_nil r.trialOrder, firstAccepting_append htrial, firstAccepting]
    · rw [htrial, firstAccepting_append hbefore, firstAccepting, hfails]

/-- Registries that resolve every spec to the same plan, with the same reports, compile every spec alike at every
depth. -/
theorem compileWithin_congr_of_plan
    (h : ∀ depth spec, ((r.resolve spec).andThen fun k => .ok (k.plan depth spec)) =
      (r'.resolve spec).andThen fun k => .ok (k.plan depth spec))
    (levels : Nat) (depth : Int) (spec : Value) :
    r.compileWithin levels depth spec = r'.compileWithin levels depth spec := by
  induction levels generalizing depth spec with
  | zero => rfl
  | succ levels ih =>
    have hinner : r.compileWithin levels (depth + 1) = r'.compileWithin levels (depth + 1) :=
      funext fun spec => ih (depth + 1) spec
    have hplan :=
      congrArg (fun o => o.andThen fun plan => plan.run (r'.compileWithin levels (depth + 1))) (h depth spec)
    simp only [Outcome.andThen_assoc, Outcome.ok_andThen] at hplan
    rw [compileWithin, compileWithin, hinner, hplan]

theorem compileWithin_congr (h : ∀ spec, r.resolve spec = r'.resolve spec) (levels : Nat) (depth : Int)
    (spec : Value) : r.compileWithin levels depth spec = r'.compileWithin levels depth spec :=
  compileWithin_congr_of_plan (fun _ spec => by rw [h spec]) levels depth spec

/-- Registering kinds one after the other. They are tried by descending priority, those of one priority in the order of
registration. A spec resolves to the kind that accepts it and is reached: no kind of higher priority accepts it, nor an
earlier one of equal priority. It is unclassifiable exactly if every kind says no, and the failure of a kind to decide
is passed on exactly if that kind is reached. Two orders of registration that agree on the kinds of each priority lead
to registries that resolve and compile every spec alike, at every depth and with the same reports and failures, also if
the kinds compile by inquiries, that is if they make any use of their registry. -/
theorem resolution_by_priority (maxDepth : Int) (calls : List Kind) :
    let r := registered maxDepth calls
    (r.trialOrder.Perm calls ∧ r.trialOrder.Pairwise (fun a b => b.priority ≤ a.priority) ∧
      ∀ p, ofPriority p r.trialOrder = ofPriority p calls) ∧
    (∀ spec k, (r.resolve spec).result = .ok k ↔ r.Reaches spec k ∧ k.accepts spec = .ok true) ∧
    (∀ spec e, (r.resolve spec).result = .error e ↔
      (e = .about .unclassifiable spec ∧ ∀ j ∈ calls, j.accepts spec = .ok false) ∨
        ∃ k, r.Reaches spec k ∧ k.accepts spec = .error e) ∧
    ∀ others, (∀ p, ofPriority p calls = ofPriority p others) → ∀ spec,
      r.resolve spec = (registered maxDepth others).resolve spec ∧
        (∀ depth, r.compileAt depth spec = (registered maxDepth others).compileAt depth spec) ∧
        ∀ inquiry calls depth, r.compileAsking inquiry calls depth spec =
          (registered maxDepth others).compileAsking inquiry calls depth spec := by
  intro r
  have hkinds : r.kinds = calls := by simp [r]
  refine ⟨⟨hkinds ▸ r.trialOrder_perm, r.pairwise_trialOrder, fun p => hkinds ▸ r.ofPriority_trialOrder p⟩,
    fun spec k => result_resolve_eq_ok_iff, fun spec e => hkinds ▸ result_resolve_eq_error_iff, ?_⟩
  intro others hothers spec
  have htrial : r.trialOrder = (registered maxDepth others).trialOrder :=
    trialOrder_congr (by simpa [r] using hothers)
  have hdepth : r.maxDepth = (registered maxDepth others).maxDepth := by simp [r]
  have hresolve (spec : Value) : r.resolve spec = (registered maxDepth others).resolve spec := by
    rw [resolve, resolve, htrial]
  refine ⟨hresolve spec, fun depth => ?_, fun inquiry calls depth => ?_⟩
  · rw [compileAt, compileAt, hdepth]
    exact compileWithin_congr hresolve _ depth spec
  · exact compileAsking_congr htrial hdepth inquiry calls depth spec

/-- A kind that never decides does no harm below the kinds that accept everything, wherever it is registered, and of
those two the earlier one compiles the spec. -/
theorem resolution_by_priority_undecided :
    let undecided : Kind := ⟨.custom "undecided", -1, Stock.failsToDecide, Stock.failsToCompile⟩
    let early : Kind := ⟨.custom "early", 3, Stock.acceptsAll, Stock.planLiteral⟩
    let late : Kind := ⟨.custom "late", 3, Stock.acceptsAll, Stock.planDepth⟩
    ((registered 2 [undecided, early, late]).resolve .null).result = .ok early ∧
      (registered 2 [undecided, early, late]).compileAt 1 .null =
        (registered 2 [early, late, undecided]).compileAt 1 .null := by
  intro undecided early late
  have hties : ∀ p, ofPriority p [undecided, early, late] = ofPriority p [early, late, undecided] := by
    intro p
    by_cases hp : (-1 : Int) = p
    · simp [ofPriority, undecided, early, late, ← hp]
    · simp [ofPriority, List.filter_cons, undecided, early, late, hp]
  obtain ⟨-, hresolves, -, hsame⟩ := resolution_by_priority 2 [undecided, early, late]
  refine ⟨(hresolves .null early).mpr ⟨⟨[undecided], [late], by simp, ?_, ?_⟩, rfl⟩, (hsame _ hties .null).2.1 1⟩
  · simp [undecided, early, late]
  · simp [undecided, early]

end Registry

end Clausewise
