import Clausewise.Failure

/-! What a computation that may fail yields if it does not: a property of its results goes through sequences, lists and
folds. -/
namespace Clausewise

/-- That a computation has only results with a property. -/
def Ensures {α : Type} (P : α → Prop) (o : Except Failure α) : Prop := ∀ a, o = .ok a → P a

section
variable {α β : Type} {P : α → Prop} {Q : β → Prop}

theorem ensures_ok {a : α} (h : P a) : Ensures P (.ok a) := by
  rintro _ ⟨⟩
  exact h

theorem ensures_error (e : Failure) : Ensures P (.error e) := nofun

theorem Ensures.bind {o : Except Failure α} {next : α → Except Failure β} (ho : Ensures P o)
    (hnext : ∀ a, P a → Ensures Q (next a)) : Ensures Q (o >>= next) := by
  cases o with
  | error e => exact nofun
  | ok a => exact hnext a (ho a rfl)

theorem ensures_bind {o : Except Failure α} {next : α → Except Failure β} (hnext : ∀ a, Ensures Q (next a)) :
    Ensures Q (o >>= next) :=
  Ensures.bind (P := fun _ => True) (fun _ _ => trivial) fun a _ => hnext a

theorem ensures_mapM {f : β → Except Failure α} {xs : List β} (h : ∀ x ∈ xs, Ensures P (f x)) :
    Ensures (fun as => ∀ a ∈ as, P a) (xs.mapM f) := by
  induction xs with
  | nil => exact ensures_ok nofun
  | cons x xs ih =>
    obtain ⟨hx, hxs⟩ := List.forall_mem_cons.mp h
    rw [List.mapM_cons]
    exact hx.bind fun a ha => (ih hxs).bind fun as has => ensures_ok (List.forall_mem_cons.mpr ⟨ha, has⟩)

theorem ensures_foldlM {f : α → β → Except Failure α} {xs : List β} (h : ∀ a, P a → ∀ x ∈ xs, Ensures P (f a x))
    {a : α} (ha : P a) : Ensures P (xs.foldlM f a) := by
  induction xs generalizing a with
  | nil => exact ensures_ok ha
  | cons x xs ih =>
    rw [List.foldlM_cons]
    exact (h a ha x List.mem_cons_self).bind fun b hb => ih (fun c hc y hy => h c hc y (List.mem_cons_of_mem x hy)) hb

end

end Clausewise
