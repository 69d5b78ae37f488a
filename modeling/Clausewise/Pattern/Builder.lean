import Clausewise.Kind.Registry
/-!
Patterns under construction. A builder collects clauses until it is closed; the first call that closes it may
set a default. A method changes the builder step by step, and where it fails, what it has changed by then stays
changed.
-/

namespace Clausewise

/-- A pattern under construction. -/
structure Builder where
  /-- The number of the registry that compiles its specs. -/
  registry : Nat
  clauses : List Clause := []
  fallback : Option Value := none
  closed : Bool := false
deriving Inhabited

namespace Builder

/-- What the builder shows of itself. -/
def summary (b : Builder) : BuilderSummary := ⟨b.closed, b.clauses.length⟩

/-- A method of builders: from a builder as it is, the builder that the method leaves behind, and how it ends. -/
def Method (α : Type) : Type := Builder → Builder × Outcome α

namespace Method
variable {α β : Type}

/-- Goes on with the result; a failure ends the method there. -/
def andThen (act : Method α) (next : α → Method β) : Method β := fun b =>
  let (b, o) := act b
  match o.result with
  | .ok a =>
    let (b, rest) := next a b
    (b, ⟨o.events ++ rest.events, rest.result⟩)
  | .error e => (b, ⟨o.events, .error e⟩)

instance : Monad Method where
  pure a := fun b => (b, .ok a)
  bind := andThen

def current : Method Builder := fun b => (b, .ok b)

def change (f : Builder → Builder) : Method Unit := fun b => (f b, .ok ())

/-- Does what has nothing to do with the builder. -/
def lift (o : Outcome α) : Method α := fun b => (b, o)

@[simp] theorem pure_apply (a : α) (b : Builder) : (pure a : Method α) b = (b, .ok a) := rfl

@[simp] theorem lift_apply (o : Outcome α) (b : Builder) : lift o b = (b, o) := rfl

@[simp] theorem current_bind_apply (next : Builder → Method β) (b : Builder) :
    (current >>= next) b = next b b := rfl

@[simp] theorem change_bind_apply (f : Builder → Builder) (next : Unit → Method β) (b : Builder) :
    (change f >>= next) b = next () (f b) := rfl

theorem bind_apply_of_ok {act : Method α} {b left : Builder} {o : Outcome α} {a : α} (h : act b = (left, o))
    (hresult : o.result = .ok a) (next : α → Method β) :
    (act >>= next) b = ((next a left).1, ⟨o.events ++ (next a left).2.events, (next a left).2.result⟩) := by
  simp only [bind, andThen, h, hresult]

theorem bind_apply_of_error {act : Method α} {b left : Builder} {o : Outcome α} {e : Failure}
    (h : act b = (left, o)) (hresult : o.result = .error e) (next : α → Method β) :
    (act >>= next) b = (left, ⟨o.events, .error e⟩) := by
  simp only [bind, andThen, h, hresult]

end Method

/-- Ends an operation on a closed builder. -/
def requireOpen (operation : String) : Method Unit := do
  if (← Method.current).closed then Method.lift (.fail (.sealed (.text operation)))

/-- Adds a compiled clause at the end, and reports it. -/
def append (m : Matcher) (result : Value) : Method Unit := do
  Method.change fun b => { b with clauses := b.clauses ++ [(m, result)] }
  let b ← Method.current
  Method.lift (.report (.registered (b.clauses.length - 1) m))

/-- Compiles a spec by the registry of the builder and adds the clause; `compile` compiles by the registry with a
number. -/
def whenBy (compile : Nat → Value → Outcome Matcher) (spec result : Value) : Method Unit := do
  requireOpen "when"
  let b ← Method.current
  let m ← Method.lift (compile b.registry spec)
  append m result

/-- Compiles a spec in the registry of the builder and adds the clause. -/
def «when» (registry : Nat → Registry) (spec result : Value) : Method Unit :=
  whenBy (fun n => (registry n).compile) spec result

/-- Closes the builder; the result is what a closed pattern keeps, the clauses and the default. -/
def close : Method (List Clause × Option Value) := do
  Method.change fun b => { b with closed := true }
  let b ← Method.current
  return (b.clauses, b.fallback)

/-- Sets the default and closes the builder. -/
def default (fallback : Value) : Method (List Clause × Option Value) := do
  requireOpen "default"
  Method.change fun b => { b with fallback := some fallback }
  close

end Builder

end Clausewise
