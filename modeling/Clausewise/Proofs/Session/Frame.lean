import Clausewise.Proofs.Pattern.Methods

/-! What a session keeps through further commands: closed builders stay as they are, and handles that no command binds
go on to stand for what they stood for. -/
namespace Clausewise

/-- The handle that a command may put a pattern under, or give up. -/
def Command.binds? : Command → Option String
  | .start handle _ => some handle
  | .setDefault _ _ view => some view
  | .close _ view => some view
  | .drop handle => some handle
  | _ => none

/-- The commands that open a pattern, add a clause for each row of a spec and a result, and close it with a default. The
closed pattern is kept under the handle `view`. -/
def Command.making (name : String) (n : Nat) (rows : List (Value × Value)) (fallback : Value) (view : String) :
    List Command :=
  .start name n :: (rows.map fun row => .addClause name row.1 row.2) ++ [.setDefault name fallback view]

namespace Session
variable {s : Session} {lib : Library} {name : String} {id : Nat} {b : Builder} {α : Type}

/-- The session after commands, one after the other. -/
def run (lib : Library) (s : Session) (commands : List Command) : Session := commands.foldl (after lib) s

/-- A method either finds no builder, or leaves a builder behind, and the command is finished from there or not. -/
theorem onBuilder_cases (s : Session) (handle : String) (method : Builder.Method α)
    (finish : Session → Nat → α → Session × Value) :
    (s.onBuilder handle method finish).1 = s ∨
      ∃ id b, s.builders[id]? = some b ∧
        ((s.onBuilder handle method finish).1 = s.update id (method b).1 ∨
          ∃ a, (s.onBuilder handle method finish).1 = (finish (s.update id (method b).1) id a).1) := by
  unfold onBuilder
  split
  · exact Or.inl rfl
  · rename_i id _
    split
    · rename_i b hb
      refine Or.inr ⟨id, b, hb, ?_⟩
      cases hresult : (method b).2.result with
      | ok a => exact Or.inr ⟨a, by simp only [hresult]⟩
      | error e => exact Or.inl (by simp only [hresult])
    · exact Or.inl rfl
  · exact Or.inl rfl

private theorem builder_update_of_closed {other : Nat} {c left : Builder} (hb : s.builders[id]? = some b)
    (hc : s.builders[other]? = some c) (hleft : c.closed = true → left = c) (hclosed : b.closed = true) :
    (s.update other left).builders[id]? = some b := by
  by_cases hother : other = id
  · subst hother
    obtain rfl : b = c := Option.some.inj (hb.symm.trans hc)
    obtain ⟨hlt, -⟩ := List.getElem?_eq_some_iff.mp hb
    simp [update, hlt, hleft hclosed]
  · simpa [update, List.getElem?_set_ne hother] using hb

private theorem builder_onBuilder {method : Builder.Method α} {finish : Session → Nat → α → Session × Value}
    (hmethod : ∀ c : Builder, c.closed = true → (method c).1 = c)
    (hfinish : ∀ s id a, (finish s id a).1.builders = s.builders) (hb : s.builders[id]? = some b)
    (hclosed : b.closed = true) (handle : String) : (s.onBuilder handle method finish).1.builders[id]? = some b := by
  rcases s.onBuilder_cases handle method finish with hsame | ⟨other, c, hc, hleft | ⟨a, hfinished⟩⟩
  · rw [hsame, hb]
  · rw [hleft, builder_update_of_closed hb hc (hmethod c) hclosed]
  · rw [hfinished, hfinish, builder_update_of_closed hb hc (hmethod c) hclosed]

/-- No command changes a closed builder. -/
theorem builder_after_of_closed (hb : s.builders[id]? = some b) (hclosed : b.closed = true) (lib : Library)
    (c : Command) : (s.after lib c).builders[id]? = some b := by
  cases c with
  | start handle registry =>
    obtain ⟨hlt, -⟩ := List.getElem?_eq_some_iff.mp hb
    simpa [after, step, start, bind, List.getElem?_append_left hlt] using hb
  | addClause handle spec result =>
    exact builder_onBuilder (fun _ h => by rw [Builder.when_of_closed h]) (fun _ _ _ => rfl) hb hclosed handle
  | setDefault handle fallback view =>
    exact builder_onBuilder (fun _ h => by rw [Builder.default_of_closed h]) (fun _ _ _ => rfl) hb hclosed handle
  | close handle view =>
    rw [after, step, close]
    split
    · exact hb
    · exact builder_onBuilder (fun _ h => by rw [Builder.close_apply, ← h]) (fun _ _ _ => rfl) hb hclosed handle
  | _ => exact hb

theorem builder_run_of_closed (hb : s.builders[id]? = some b) (hclosed : b.closed = true) (lib : Library)
    (commands : List Command) : (s.run lib commands).builders[id]? = some b := by
  induction commands generalizing s with
  | nil => exact hb
  | cons c rest ih => exact ih (builder_after_of_closed hb hclosed lib c)

private theorem handle?_onBuilder {method : Builder.Method α} {finish : Session → Nat → α → Session × Value}
    (hfinish : ∀ s id a, (finish s id a).1.handle? name = s.handle? name) (s : Session) (handle : String) :
    (s.onBuilder handle method finish).1.handle? name = s.handle? name := by
  rcases s.onBuilder_cases handle method finish with hsame | ⟨id, b, -, hleft | ⟨a, hfinished⟩⟩
  · rw [hsame]
  · rw [hleft]
    rfl
  · rw [hfinished, hfinish]
    rfl

/-- A command that does not bind a handle leaves it. -/
theorem handle?_after_of_ne {c : Command} (hc : c.binds? ≠ some name) (lib : Library) (s : Session) :
    (s.after lib c).handle? name = s.handle? name := by
  have hview {view : String} (h : some view ≠ some name) : view ≠ name := fun heq => h (congrArg some heq)
  cases c with
  | start handle registry => exact handle?_bind_of_ne _ _ (hview hc)
  | addClause handle spec result => exact handle?_onBuilder (fun _ _ _ => rfl) s handle
  | setDefault handle fallback view =>
    exact handle?_onBuilder (fun _ _ _ => handle?_bind_of_ne _ _ (hview hc)) s handle
  | close handle view =>
    rw [after, step, close]
    split
    · exact handle?_bind_of_ne _ _ (hview hc)
    · exact handle?_onBuilder (fun _ _ _ => handle?_bind_of_ne _ _ (hview hc)) s handle
  | drop handle =>
    have hbind := handle?_bind_of_ne s .null (hview hc)
    have hne : (name == handle) = false := by simpa using (hview hc).symm
    rw [← hbind]
    simp [after, step, handle?, bind, List.lookup_cons, hne]
  | _ => rfl

theorem handle?_run_of_ne {commands : List Command} (hcommands : ∀ c ∈ commands, c.binds? ≠ some name) (lib : Library)
    (s : Session) : (s.run lib commands).handle? name = s.handle? name := by
  induction commands generalizing s with
  | nil => rfl
  | cons c rest ih =>
    obtain ⟨hc, hrest⟩ := List.forall_mem_cons.mp hcommands
    exact (ih hrest (s.after lib c)).trans (handle?_after_of_ne hc lib s)

/-- A clause whose spec compiles is added to an open builder. -/
theorem Tracks.after_addClause (h : s.Tracks name id b) (hopen : b.closed = false) {spec : Value} {m : Matcher}
    (hcompile : ((s.registry b.registry).compile spec).result = .ok m) (lib : Library) (result : Value) :
    s.after lib (.addClause name spec result) = s.update id { b with clauses := b.clauses ++ [(m, result)] } := by
  have hwhen := @Builder.when_of_open s.registry b spec result hopen
  rw [hcompile] at hwhen
  exact congrArg Prod.fst (h.onBuilder_of_ok hwhen rfl _)

/-- Clauses whose specs all compile are added one after the other. -/
theorem Tracks.run_addClauses {rows : List (Value × Value)} {f : Value → Matcher} (h : s.Tracks name id b)
    (hopen : b.closed = false)
    (hcompile : ∀ row ∈ rows, ((s.registry b.registry).compile row.1).result = .ok (f row.1)) (lib : Library) :
    s.run lib (rows.map fun row => .addClause name row.1 row.2) =
      s.update id { b with clauses := b.clauses ++ rows.map fun row => (f row.1, row.2) } := by
  induction rows generalizing s b with
  | nil =>
    rw [List.map_nil, List.map_nil, List.append_nil]
    exact h.update_self.symm
  | cons row rows ih =>
    obtain ⟨hrow, hrows⟩ := List.forall_mem_cons.mp hcompile
    have hrest := ih (h.update { b with clauses := b.clauses ++ [(f row.1, row.2)] }) hopen hrows
    rw [List.map_cons, run, List.foldl_cons, h.after_addClause hopen hrow lib row.2]
    refine hrest.trans ?_
    simp [Session.update]

/-- The default of an open builder closes it, and what it then holds is kept under the handle for the closed pattern. -/
theorem Tracks.after_setDefault (h : s.Tracks name id b) (hopen : b.closed = false) (lib : Library) (fallback : Value)
    (view : String) :
    s.after lib (.setDefault name fallback view) =
      ((s.update id { b with fallback := some fallback, closed := true }).keepView id (b.clauses, some fallback)
        view).1 :=
  congrArg Prod.fst (h.onBuilder_of_ok (Builder.default_of_open hopen) rfl _)

/-- What making a pattern comes to, also after further commands that leave its handle alone: the handle stands for the
closed pattern with a clause for each row, and the builder that it came from holds the same. -/
theorem run_making {n : Nat} {rows : List (Value × Value)} {f : Value → Matcher}
    (hcompile : ∀ row ∈ rows, ((s.registry n).compile row.1).result = .ok (f row.1)) (lib : Library) (name : String)
    (fallback : Value) {view : String} {more : List Command} (hmore : ∀ c ∈ more, c.binds? ≠ some view) :
    let clauses := rows.map fun row => (f row.1, row.2)
    let later := s.run lib (Command.making name n rows fallback view ++ more)
    later.handle? view = some (.closed s.origins.length clauses (some fallback)) ∧
      later.builders[s.builders.length]? = some ⟨n, clauses, some fallback, true⟩ := by
  intro clauses later
  have hopened := Tracks.start s name n
  have hfilled := hopened.run_addClauses rfl hcompile lib
  have hfull := hopened.update ⟨n, clauses, none, false⟩
  have hmade := hfull.after_setDefault rfl lib fallback view
  have hlater : later = ((s.start name n).update s.builders.length ⟨n, clauses, none, false⟩ |>.after lib
      (.setDefault name fallback view)).run lib more := by
    simp only [later, Command.making, run, List.cons_append, List.append_assoc, List.foldl_cons, List.foldl_append,
      List.foldl_nil]
    exact congrArg (fun t => more.foldl (after lib) (t.after lib (.setDefault name fallback view))) hfilled
  rw [hlater, hmade]
  refine ⟨(handle?_run_of_ne hmore lib _).trans (handle?_bind_self ..), ?_⟩
  refine builder_run_of_closed ?_ rfl lib more
  exact (hfull.update _).builder

end Session

end Clausewise
