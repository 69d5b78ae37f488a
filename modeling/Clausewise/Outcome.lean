import Clausewise.Value.Unwritable
/-!
Outcomes: what an operation reports on its way, and its result or the failure that ended it.
-/

namespace Clausewise

/-- The events of an operation in order, with its result or failure. -/
@[ext]
structure Outcome (α : Type) where
  events : List Event
  result : Except Failure α

namespace Outcome

/-- A result without events. -/
def ok {α : Type} (a : α) : Outcome α := ⟨[], .ok a⟩

/-- A failure without events. -/
def fail {α : Type} (e : Failure) : Outcome α := ⟨[], .error e⟩

/-- An event without a result. -/
def report (e : Event) : Outcome Unit := ⟨[e], .ok ()⟩

/-- Goes on with the result; a failure ends the operation. -/
def andThen {α β : Type} (o : Outcome α) (next : α → Outcome β) : Outcome β :=
  match o.result with
  | .ok a => ⟨o.events ++ (next a).events, (next a).result⟩
  | .error e => ⟨o.events, .error e⟩

instance : Monad Outcome where
  pure := ok
  bind := andThen

instance {α : Type} : Inhabited (Outcome α) := ⟨fail .callsTooDeep⟩

variable {α β γ : Type}

@[simp] theorem bind_eq_andThen (o : Outcome α) (next : α → Outcome β) : o >>= next = o.andThen next := rfl

@[simp] theorem pure_eq_ok (a : α) : (pure a : Outcome α) = ok a := rfl

@[simp] theorem result_ok (a : α) : (ok a).result = .ok a := rfl

@[simp] theorem result_fail (e : Failure) : (fail e : Outcome α).result = .error e := rfl

@[simp] theorem ok_andThen (a : α) (next : α → Outcome β) : (ok a).andThen next = next a := rfl

@[simp] theorem fail_andThen (e : Failure) (next : α → Outcome β) : (fail e).andThen next = fail e := rfl

@[simp] theorem andThen_ok (o : Outcome α) : o.andThen ok = o := by
  obtain ⟨events, _ | a⟩ := o
  · rfl
  · simp [andThen, ok]

theorem andThen_assoc (o : Outcome α) (f : α → Outcome β) (g : β → Outcome γ) :
    (o.andThen f).andThen g = o.andThen fun a => (f a).andThen g := by
  obtain ⟨events, _ | a⟩ := o
  · rfl
  · cases h : (f a).result <;> simp [andThen, h]

/-- What follows an operation that goes on in one of two ways follows each of the two. -/
theorem andThen_ite_andThen (first : Outcome Bool) (yes no : Outcome α) (next : α → Outcome β) :
    (first.andThen fun verdict => if verdict = true then yes else no).andThen next =
      first.andThen fun verdict => if verdict = true then yes.andThen next else no.andThen next := by
  rw [andThen_assoc]
  apply congrArg
  funext verdict
  cases verdict <;> rfl

/-- A test followed by its own verdict is the test. -/
theorem andThen_ite_ok (o : Outcome Bool) :
    (o.andThen fun verdict => if verdict = true then ok true else ok false) = o := by
  have hnext : (fun verdict : Bool => if verdict = true then ok true else ok false) = ok := by
    funext verdict
    cases verdict <;> rfl
  rw [hnext, andThen_ok]

instance : LawfulMonad Outcome :=
  .mk' Outcome (fun o => andThen_ok o) (fun a next => ok_andThen a next) fun o f g => andThen_assoc o f g

/-- How an operation followed by another ends does not depend on what the two report. -/
theorem result_andThen (o : Outcome α) (next : α → Outcome β) :
    (o.andThen next).result = o.result.bind fun a => (next a).result := by
  obtain ⟨events, _ | a⟩ := o <;> rfl

/-- An operation followed by another has a result exactly if both have one, in turn. -/
theorem result_andThen_eq_ok_iff {o : Outcome α} {next : α → Outcome β} {b : β} :
    (o.andThen next).result = .ok b ↔ ∃ a, o.result = .ok a ∧ (next a).result = .ok b := by
  obtain ⟨events, _ | a⟩ := o <;> simp [andThen]

/-- A test that goes on with another where it says yes, and says no otherwise, says yes exactly if both do. -/
theorem result_andThen_ite_eq_true_iff {first rest : Outcome Bool} :
    (first.andThen fun verdict => if verdict = true then rest else ok false).result = .ok true ↔
      first.result = .ok true ∧ rest.result = .ok true := by
  rw [result_andThen_eq_ok_iff]
  constructor
  · rintro ⟨verdict, hfirst, hrest⟩
    cases verdict with
    | true => exact ⟨hfirst, hrest⟩
    | false => cases hrest
  · rintro ⟨hfirst, hrest⟩
    exact ⟨true, hfirst, hrest⟩

section Sequence
variable {f : α → Outcome β} {g : α → β} {xs : List α} {ys : List β}

theorem result_mapM (h : ∀ x ∈ xs, (f x).result = .ok (g x)) : (xs.mapM f).result = .ok (xs.map g) := by
  induction xs with
  | nil => rfl
  | cons x xs ih =>
    obtain ⟨hx, hxs⟩ := List.forall_mem_cons.mp h
    rw [List.mapM_cons, bind_eq_andThen, result_andThen, hx]
    simp only [Except.bind, bind_eq_andThen, result_andThen, ih hxs, pure_eq_ok, result_ok, List.map_cons]

/-- Operations made one after the other have results only if each has, and then those that each can have. -/
theorem results_of_mapM (hf : ∀ x ∈ xs, ∀ y, (f x).result = .ok y → y = g x) (h : (xs.mapM f).result = .ok ys) :
    (∀ x ∈ xs, (f x).result = .ok (g x)) ∧ ys = xs.map g := by
  induction xs generalizing ys with
  | nil => exact ⟨List.forall_mem_nil _, (Except.ok.inj h).symm⟩
  | cons x xs ih =>
    obtain ⟨hx, hxs⟩ := List.forall_mem_cons.mp hf
    rw [List.mapM_cons, bind_eq_andThen, result_andThen_eq_ok_iff] at h
    obtain ⟨y, hy, h⟩ := h
    obtain ⟨rest, hrest, hdone⟩ := result_andThen_eq_ok_iff.mp h
    obtain rfl := Except.ok.inj hdone
    obtain rfl := hx y hy
    obtain ⟨hall, rfl⟩ := ih hxs hrest
    exact ⟨List.forall_mem_cons.mpr ⟨hy, hall⟩, rfl⟩

theorem length_of_mapM (h : (xs.mapM f).result = .ok ys) : ys.length = xs.length := by
  induction xs generalizing ys with
  | nil =>
    obtain rfl := Except.ok.inj h
    rfl
  | cons x xs ih =>
    rw [List.mapM_cons, bind_eq_andThen, result_andThen_eq_ok_iff] at h
    obtain ⟨y, -, h⟩ := h
    obtain ⟨rest, hrest, hdone⟩ := result_andThen_eq_ok_iff.mp h
    obtain rfl := Except.ok.inj hdone
    rw [List.length_cons, List.length_cons, ih hrest]

end Sequence

/-- An operation as a step of an iteration: it fails as the iteration then does. -/
def iterated (o : Outcome α) : Outcome α := ⟨o.events, o.result.mapError Failure.outOfIteration⟩

@[simp] theorem events_iterated (o : Outcome α) : o.iterated.events = o.events := rfl

theorem result_iterated (o : Outcome α) : o.iterated.result = o.result.mapError Failure.outOfIteration := rfl

@[simp] theorem iterated_ok (a : α) : (ok a).iterated = ok a := rfl

@[simp] theorem iterated_fail (e : Failure) : (fail e : Outcome α).iterated = fail e.outOfIteration := rfl

@[simp] theorem result_iterated_eq_ok_iff {o : Outcome α} {a : α} :
    o.iterated.result = .ok a ↔ o.result = .ok a := by
  obtain ⟨events, e | b⟩ := o
  · exact ⟨nofun, nofun⟩
  · exact Iff.rfl

@[simp] theorem iterated_iterated (o : Outcome α) : o.iterated.iterated = o.iterated := by
  obtain ⟨events, e | a⟩ := o
  · exact congrArg (fun e => (⟨events, .error e⟩ : Outcome α)) e.outOfIteration_outOfIteration
  · rfl

theorem iterated_andThen (o : Outcome α) (next : α → Outcome β) :
    (o.andThen next).iterated = o.iterated.andThen fun a => (next a).iterated := by
  obtain ⟨events, _ | a⟩ := o <;> rfl

/-- What goes on alike once it is a step of an iteration fails alike as a whole. -/
theorem iterated_andThen_congr {o o' : Outcome α} {next next' : α → Outcome β} (h : o.iterated = o'.iterated)
    (hnext : ∀ a, (next a).iterated = (next' a).iterated) :
    (o.andThen next).iterated = (o'.andThen next').iterated := by
  rw [iterated_andThen, iterated_andThen, h]
  exact congrArg _ (funext hnext)

/-- Nothing is different about an iteration whose steps do not fail by exhausting one of their own. -/
theorem result_iterated_of_forall {o : Outcome α} (h : ∀ e, o.result = .error e → e.outOfIteration = e) :
    o.iterated.result = o.result := by
  rw [result_iterated]
  cases hresult : o.result with
  | error e => exact congrArg Except.error (h e hresult)
  | ok a => rfl

/-- An operation whose events are written as they come: the first that cannot be written ends it, with the failure to
write it. -/
def logged (o : Outcome α) : Outcome α :=
  ⟨o.events.takeWhile fun event => event.writingFault?.isNone,
    match o.events.findSome? Event.writingFault? with
    | none => o.result
    | some fault => .error fault.toFailure⟩

/-- A result or failure without events. -/
def ofExcept {α : Type} (r : Except Failure α) : Outcome α := ⟨[], r⟩

def ofComparison {α : Type} : Except ComparisonFault α → Outcome α
  | .ok a => ok a
  | .error e => fail e.toFailure

end Outcome

end Clausewise
