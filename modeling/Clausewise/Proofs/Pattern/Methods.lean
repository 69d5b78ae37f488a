import Clausewise.Session

/-! The methods of a builder as equations, and what they leave behind in a session when they run or fail. -/
namespace Clausewise

namespace Builder
variable {registry : Nat → Registry} {b : Builder} {spec result fallback : Value} {operation : String}

private theorem requireOpen_of_open (h : b.closed = false) : requireOpen operation b = (b, .ok ()) := by
  simp [requireOpen, h]

private theorem requireOpen_of_closed (h : b.closed = true) :
    requireOpen operation b = (b, .fail (.sealed (.text operation))) := by
  simp [requireOpen, h]

private theorem append_apply (m : Matcher) (result : Value) (b : Builder) :
    append m result b =
      ({ b with clauses := b.clauses ++ [(m, result)] }, .report (.registered b.clauses.length m)) := by
  simp [append]

/-- A closed builder takes no clause, whatever compiles its specs. -/
theorem whenBy_of_closed (compile : Nat → Value → Outcome Matcher) (h : b.closed = true) :
    whenBy compile spec result b = (b, .fail (.sealed (.text "when"))) :=
  Method.bind_apply_of_error (requireOpen_of_closed h) rfl _

/-- An open builder compiles the spec, and adds the clause if that ends well. -/
theorem whenBy_of_open (compile : Nat → Value → Outcome Matcher) (h : b.closed = false) :
    whenBy compile spec result b =
      match (compile b.registry spec).result with
      | .ok m =>
        ({ b with clauses := b.clauses ++ [(m, result)] },
          ⟨(compile b.registry spec).events ++ [.registered b.clauses.length m], .ok ()⟩)
      | .error e => (b, ⟨(compile b.registry spec).events, .error e⟩) := by
  rw [whenBy, Method.bind_apply_of_ok (requireOpen_of_open h) rfl, Method.current_bind_apply]
  cases hcompile : (compile b.registry spec).result with
  | ok m =>
    rw [Method.bind_apply_of_ok (Method.lift_apply _ b) hcompile, append_apply]
    rfl
  | error e =>
    rw [Method.bind_apply_of_error (Method.lift_apply _ b) hcompile]
    rfl

theorem when_of_closed (h : b.closed = true) :
    Builder.when registry spec result b = (b, .fail (.sealed (.text "when"))) :=
  whenBy_of_closed _ h

theorem when_of_open (h : b.closed = false) :
    Builder.when registry spec result b =
      match ((registry b.registry).compile spec).result with
      | .ok m =>
        ({ b with clauses := b.clauses ++ [(m, result)] },
          ⟨((registry b.registry).compile spec).events ++ [.registered b.clauses.length m], .ok ()⟩)
      | .error e => (b, ⟨((registry b.registry).compile spec).events, .error e⟩) :=
  whenBy_of_open _ h

theorem when_eq_of_compile {m : Matcher} (hopen : b.closed = false)
    (h : ((registry b.registry).compile spec).result = .ok m) :
    (Builder.when registry spec result b).1 = { b with clauses := b.clauses ++ [(m, result)] } := by
  rw [when_of_open hopen, h]

/-- Clauses registered one after the other, each given by its spec and its result. -/
def whenRows (registry : Nat → Registry) (rows : List (Value × Value)) (b : Builder) : Builder :=
  rows.foldl (fun b row => (Builder.when registry row.1 row.2 b).1) b

theorem whenRows_eq_of_compile {rows : List (Value × Value)} {f : Value → Matcher} (hopen : b.closed = false)
    (h : ∀ row ∈ rows, ((registry b.registry).compile row.1).result = .ok (f row.1)) :
    whenRows registry rows b = { b with clauses := b.clauses ++ rows.map fun row => (f row.1, row.2) } := by
  induction rows generalizing b with
  | nil => simp [whenRows]
  | cons row rows ih =>
    obtain ⟨hrow, hrows⟩ := List.forall_mem_cons.mp h
    have hrest := ih (b := { b with clauses := b.clauses ++ [(f row.1, row.2)] }) hopen hrows
    rw [whenRows, List.foldl_cons, when_eq_of_compile hopen hrow]
    refine hrest.trans ?_
    simp

theorem default_of_closed (h : b.closed = true) :
    Builder.default fallback b = (b, .fail (.sealed (.text "default"))) :=
  Method.bind_apply_of_error (requireOpen_of_closed h) rfl _

/-- An open builder takes a default and is closed then. -/
theorem default_of_open (h : b.closed = false) :
    Builder.default fallback b =
      ({ b with fallback := some fallback, closed := true }, .ok (b.clauses, some fallback)) := by
  rw [Builder.default, Method.bind_apply_of_ok (requireOpen_of_open h) rfl]
  rfl

/-- Closing never fails, and yields what the builder keeps. -/
theorem close_apply (b : Builder) :
    Builder.close b = ({ b with closed := true }, .ok (b.clauses, b.fallback)) := rfl

end Builder

namespace Session
variable {α : Type} {s : Session} {name view : String} {id : Nat} {b left : Builder}

theorem handle?_bind_self (s : Session) (name : String) (v : Value) : (s.bind name v).handle? name = some v := by
  simp [handle?, bind]

theorem handle?_bind_of_ne (s : Session) (v : Value) (h : view ≠ name) :
    (s.bind view v).handle? name = s.handle? name := by
  have hne : (name == view) = false := by simpa using h.symm
  simp only [handle?, bind, List.lookup_cons, hne]
  induction s.handles with
  | nil => rfl
  | cons entry rest ih =>
    by_cases hentry : entry.1 = view
    · rw [List.filter_cons_of_neg (by simpa using hentry), ih, List.lookup_cons, hentry, hne]
    · rw [List.filter_cons_of_pos (by simpa using hentry), List.lookup_cons, List.lookup_cons, ih]

/-- That the handle stands for the builder with the number, and the builder is as given. -/
structure Tracks (s : Session) (name : String) (id : Nat) (b : Builder) : Prop where
  handle : s.handle? name = some (.builder id)
  builder : s.builders[id]? = some b

namespace Tracks

theorem start (s : Session) (name : String) (n : Nat) :
    (s.start name n).Tracks name s.builders.length { registry := n } :=
  ⟨handle?_bind_self .., by simp [Session.start, Session.bind]⟩

theorem update (h : s.Tracks name id b) (left : Builder) : (s.update id left).Tracks name id left := by
  obtain ⟨hid, -⟩ := List.getElem?_eq_some_iff.mp h.builder
  exact ⟨h.handle, by simp [Session.update, hid]⟩

theorem update_self (h : s.Tracks name id b) : s.update id b = s := by
  obtain ⟨hid, hb⟩ := List.getElem?_eq_some_iff.mp h.builder
  rw [Session.update, ← hb, List.set_getElem_self]

theorem keepView (h : s.Tracks name id b) (content : List Clause × Option Value) (hview : view ≠ name) :
    (s.keepView id content view).1.Tracks name id b :=
  ⟨(handle?_bind_of_ne _ _ hview).trans h.handle, h.builder⟩

/-- A method that ends well leaves its builder behind, and then the command is finished. -/
theorem onBuilder_of_ok (h : s.Tracks name id b) {method : Builder.Method α} {o : Outcome α} {a : α}
    (hmethod : method b = (left, o)) (hresult : o.result = .ok a)
    (finish : Session → Nat → α → Session × Value) :
    s.onBuilder name method finish =
      ((finish (s.update id left) id a).1, ⟨o.events, .ok (finish (s.update id left) id a).2⟩) := by
  simp only [onBuilder, h.handle, h.builder, hmethod, hresult]

theorem onBuilder_of_error (h : s.Tracks name id b) {method : Builder.Method α} {o : Outcome α} {e : Failure}
    (hmethod : method b = (left, o)) (hresult : o.result = .error e)
    (finish : Session → Nat → α → Session × Value) :
    s.onBuilder name method finish = (s.update id left, ⟨o.events, .error e⟩) := by
  simp only [onBuilder, h.handle, h.builder, hmethod, hresult]

theorem close_eq (h : s.Tracks name id b) (view : String) :
    s.close name view = s.onBuilder name Builder.close fun s id content => s.keepView id content view := by
  simp only [Session.close, h.handle]

theorem dispatch_eq (h : s.Tracks name id b) (lib : Library) (value : Value) (extra : List Value) :
    s.dispatch lib name value extra = (s.environment lib).call (.builder id) (value :: extra) := by
  simp only [Session.dispatch, h.handle]

end Tracks

end Session

end Clausewise
