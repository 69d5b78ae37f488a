import Clausewise.Proofs.Kind.Precedence
import Clausewise.Proofs.Kind.Resolution

/-! The built-in kinds keep apart: no two of them accept one spec, but for classes, which can also be called. So the
order in which they are tried matters for classes only. -/
namespace Clausewise

namespace KindName
variable {spec : Value} {k k' : KindName}

theorem accepts_cls_iff (k : KindName) (c : Class) :
    k.accepts (.cls c) = true ↔ k = .constructor ∨ k = .predicate := by
  cases k <;> simp [accepts, Value.isLiteral, Value.isAbsent, Value.isNumeric, Value.number?, Value.isText, Value.text?,
    Value.isBytes, Value.bytes?, Value.expose, Value.isCallable]

/-- Unless a spec is a class, a kind that accepts it is the first that does. -/
theorem kind?_eq_some_of_accepts (hspec : ∀ c, spec ≠ .cls c) (h : k.accepts spec = true) : spec.kind? = some k := by
  cases spec with
  | cls c => exact absurd rfl (hspec c)
  | object id c own =>
    cases k with
    | predicate =>
      have hcallable : (Value.object id c own).isCallable = true := h
      simp [Value.kind?, all, accepts, Value.isLiteral, Value.isAbsent, Value.isNumeric, Value.number?, Value.isText,
        Value.text?, Value.isBytes, Value.bytes?, Value.expose, hcallable]
    | _ => cases h
  | sequence shape items => cases shape <;> cases k <;> first | rfl | cases h
  | mapping shape entries => cases shape <;> cases k <;> first | rfl | cases h
  | cyclic body =>
    cases body with
    | sequence shape items => cases shape <;> cases k <;> first | rfl | cases h
    | mapping shape entries => cases shape <;> cases k <;> first | rfl | cases h
    | back level => cases level <;> cases k <;> cases h
    | _ => cases k <;> cases h
  | _ => cases k <;> first | rfl | cases h

/-- Two kinds accept one spec only if it is a class. -/
theorem eq_or_cls_of_accepts (h : k.accepts spec = true) (h' : k'.accepts spec = true) :
    k = k' ∨ ∃ c, spec = .cls c := by
  by_cases hspec : ∃ c, spec = .cls c
  · exact Or.inr hspec
  · rw [not_exists] at hspec
    have hkind := kind?_eq_some_of_accepts hspec h
    rw [kind?_eq_some_of_accepts hspec h'] at hkind
    exact Or.inl (Option.some.inj hkind).symm

end KindName

namespace Registry
variable {limit : Value} {priority : KindName → Int} {r : Registry} {kinds : List Kind}

/-- A built-in kind under its own name, with a priority of choice. -/
def prioritized (limit : Value) (priority : KindName → Int) (k : KindName) : Kind :=
  .builtIn limit k (.builtIn k) (priority k)

/-- That kinds are the seven built-in ones, each once, in some order that has the kind of classes before that of
predicates. -/
structure ClassesFirst (limit : Value) (priority : KindName → Int) (kinds : List Kind) : Prop where
  perm : kinds.Perm (KindName.all.map (prioritized limit priority))
  constructor_mem {before after : List Kind} : kinds = before ++ prioritized limit priority .predicate :: after →
    prioritized limit priority .constructor ∈ before

theorem ClassesFirst.mem_iff (h : ClassesFirst limit priority kinds) {k : Kind} :
    k ∈ kinds ↔ ∃ name, prioritized limit priority name = k := by
  rw [h.perm.mem_iff, List.mem_map]
  constructor
  · rintro ⟨name, -, rfl⟩
    exact ⟨name, rfl⟩
  · rintro ⟨name, rfl⟩
    exact ⟨name, by cases name <;> decide, rfl⟩

/-- The kind of classes is tried before that of predicates if it has the higher priority. -/
theorem classesFirst_trialOrder (hkinds : r.kinds.Perm (KindName.all.map (prioritized limit priority)))
    (hpriority : priority .predicate < priority .constructor) : ClassesFirst limit priority r.trialOrder where
  perm := r.trialOrder_perm.trans hkinds
  constructor_mem {before after} hsplit := by
    have hmem : prioritized limit priority .constructor ∈ r.trialOrder :=
      (r.trialOrder_perm.trans hkinds).mem_iff.mpr (List.mem_map.mpr ⟨_, by decide, rfl⟩)
    have hsorted := r.pairwise_trialOrder
    rw [hsplit, List.pairwise_append, List.pairwise_cons] at hsorted
    rw [hsplit, List.mem_append, List.mem_cons] at hmem
    rcases hmem with hin | heq | hin
    · exact hin
    · cases congrArg Kind.label heq
    · exact absurd (hsorted.2.1.1 _ hin) (Int.not_le.mpr hpriority)

theorem ClassesFirst.firstAccepting_eq (h : ClassesFirst limit priority kinds) (spec : Value) :
    firstAccepting kinds spec =
      match spec.kind? with
      | some k => .ok (prioritized limit priority k)
      | none => .error (.about .unclassifiable spec) := by
  rcases firstAccepting_cases kinds spec with ⟨hall, hnone⟩ | ⟨before, first, after, hsplit, hbefore, hdecides⟩
  · rw [hnone]
    cases hk : spec.kind? with
    | none => rfl
    | some k =>
      have haccepts : k.accepts spec = true := by simpa using List.find?_some hk
      have hrejects := Except.ok.inj (hall _ (h.mem_iff.mpr ⟨k, rfl⟩))
      rw [haccepts] at hrejects
      cases hrejects
  · obtain ⟨name, rfl⟩ := h.mem_iff.mp (hsplit ▸ List.mem_append_right before List.mem_cons_self)
    rcases hdecides with ⟨haccepts, hfirst⟩ | ⟨e, hfails, -⟩
    · have haccepts : name.accepts spec = true := Except.ok.inj haccepts
      suffices hkind : spec.kind? = some name by rw [hfirst, hkind]
      by_cases hspec : ∃ c, spec = .cls c
      · obtain ⟨c, rfl⟩ := hspec
        rcases (KindName.accepts_cls_iff name c).mp haccepts with rfl | rfl
        · rfl
        · -- The kind of predicates is not the first to accept a class, since that of classes is tried before it.
          cases hbefore _ (h.constructor_mem hsplit)
      · exact KindName.kind?_eq_some_of_accepts (not_exists.mp hspec) haccepts
    · cases hfails

theorem resolve_of_classesFirst (h : ClassesFirst limit priority r.trialOrder) (spec : Value) :
    r.resolve spec =
      match spec.kind? with
      | some k => ⟨[.resolved (.builtIn k) spec], .ok (prioritized limit priority k)⟩
      | none => .fail (.about .unclassifiable spec) := by
  rw [resolve, h.firstAccepting_eq]
  cases spec.kind? <;> rfl

/-- The order of the built-in kinds matters only for classes. No two kinds accept one spec unless it is a class, and a
class is accepted by the kind of classes and by that of predicates, and by no other. So any registry of the seven kinds,
registered once each in any order and with any priorities, that tries the kind of classes before that of predicates
classifies and compiles every spec as the usual registry with the same limits does, at every depth and with the same
reports and failures. -/
theorem order_matters_only_for_classes :
    (∀ spec (k k' : KindName), k.accepts spec = true → k'.accepts spec = true → k = k' ∨ ∃ c, spec = .cls c) ∧
    (∀ c (k : KindName), k.accepts (.cls c) = true ↔ k = .constructor ∨ k = .predicate) ∧
    ∀ limit priority (r : Registry), ClassesFirst limit priority r.trialOrder → ∀ spec,
      r.classify spec = (builtIn limit r.maxDepth).classify spec ∧
        ∀ depth, r.compileAt depth spec = (builtIn limit r.maxDepth).compileAt depth spec := by
  refine ⟨fun spec k k' => KindName.eq_or_cls_of_accepts, fun c k => KindName.accepts_cls_iff k c, ?_⟩
  intro limit priority r hfirst spec
  constructor
  · rw [classify, classify, resolve_of_classesFirst hfirst, resolve_builtIn]
    cases spec.kind? <;> rfl
  · intro depth
    refine compileWithin_congr_of_plan (fun depth spec => ?_) _ depth spec
    rw [resolve_of_classesFirst hfirst, resolve_builtIn]
    cases spec.kind? <;> rfl

end Registry

end Clausewise
