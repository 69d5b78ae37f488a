import Clausewise.Match.Call
import Clausewise.Kind.BuiltIn
/-!
Sessions: registries, patterns under construction, and closed patterns under names. A closed pattern is a
value that holds its clauses and its default, so what happens later to the builder that it came from, or to
a registry, does not reach it. A command leads to a next state whether it ends well or not.
-/

namespace Clausewise

/-- What a session keeps. Registries and builders go by their place. -/
structure Session where
  registries : List Registry
  builders : List Builder := []
  handles : List (String × Value) := []
  /-- For each closed pattern made so far the builder that it came from. -/
  origins : List Nat := []
deriving Inhabited

/-- What can be asked of a session. Patterns are named by their handles. -/
inductive Command where
  /-- Opens a new pattern under a handle, with a registry for its specs. -/
  | start (handle : String) (registry : Nat)
  | addClause (handle : String) (spec result : Value)
  /-- Sets the default of a pattern and keeps the closed pattern under the handle `view`. -/
  | setDefault (handle : String) (fallback : Value) (view : String)
  /-- Closes a pattern and keeps the closed pattern under the handle `view`. -/
  | close (handle : String) (view : String)
  | dispatch (handle : String) (value : Value) (extra : List Value)
  | register (registry : Nat) (kind : Kind)
  | limitDepth (registry : Nat) (depth : Int)
  /-- Gives a handle up. -/
  | drop (handle : String)

namespace Session

def handle? (s : Session) (name : String) : Option Value := s.handles.lookup name

/-- What calls in the session depend on. -/
def environment (lib : Library) (s : Session) : Environment :=
  ⟨lib, s.handle?, fun id => s.builders[id]?⟩

/-- What the builders of the session show of themselves. -/
def summaries (s : Session) (id : Nat) : BuilderSummary :=
  ((s.builders[id]?).map Builder.summary).getD ⟨false, 0⟩

/-- Puts a value under a handle. -/
def bind (s : Session) (name : String) (v : Value) : Session :=
  { s with handles := (name, v) :: s.handles.filter fun h => h.1 != name }

/-- Opens a new builder under a handle. -/
def start (s : Session) (name : String) (registry : Nat) : Session :=
  let opened : Session := { s with builders := s.builders ++ [{ registry := registry }] }
  opened.bind name (.builder s.builders.length)

/-- The registry with a number; where there is none, the usual one. -/
def registry (s : Session) (n : Nat) : Registry := (s.registries[n]?).getD .standard

/-- Puts a builder in the place of an older state of it. -/
def update (s : Session) (id : Nat) (b : Builder) : Session := { s with builders := s.builders.set id b }

/-- Keeps the closed pattern of a builder under a handle. -/
def keepView (s : Session) (id : Nat) (content : List Clause × Option Value) (view : String) : Session × Value :=
  let closed := Value.closed s.origins.length content.1 content.2
  let recorded : Session := { s with origins := s.origins ++ [id] }
  (recorded.bind view closed, closed)

/-- A command on something that is not there. -/
def missing (name : String) : Outcome Value := .fail (.absentKey (.text name))

/-- Runs a method of the builder under a handle, and keeps what it leaves behind; if it ends well, `finish` goes on
from there. A closed pattern has no such operation. -/
def onBuilder {α : Type} (s : Session) (name : String) (method : Builder.Method α)
    (finish : Session → Nat → α → Session × Value) : Session × Outcome Value :=
  match s.handle? name with
  | none => (s, missing name)
  | some (.builder id) =>
    match s.builders[id]? with
    | some b =>
      let (b, o) := method b
      let left := s.update id b
      match o.result with
      | .ok a =>
        let (next, answer) := finish left id a
        (next, ⟨o.events, .ok answer⟩)
      | .error e => (left, ⟨o.events, .error e⟩)
    | none => (s, missing name)
  | some _ => (s, .fail .noSuchOperation)

/-- Adds a clause to a builder; the answer is the builder. -/
def addClause (s : Session) (name : String) (spec result : Value) : Session × Outcome Value :=
  s.onBuilder name (Builder.when s.registry spec result) fun s id _ => (s, .builder id)

/-- Sets the default of a builder; the answer is the closed pattern. -/
def setDefault (s : Session) (name : String) (fallback : Value) (view : String) : Session × Outcome Value :=
  s.onBuilder name (Builder.default fallback) fun s id content => s.keepView id content view

/-- Closes a pattern; a pattern that is closed already is its own answer. -/
def close (s : Session) (name view : String) : Session × Outcome Value :=
  match s.handle? name with
  | some (.closed id clauses fallback) =>
    (s.bind view (.closed id clauses fallback), .ok (.closed id clauses fallback))
  | _ => s.onBuilder name Builder.close fun s id content => s.keepView id content view

/-- Matches a value against the pattern under a handle. -/
def dispatch (lib : Library) (s : Session) (name : String) (value : Value) (extra : List Value) : Outcome Value :=
  match s.handle? name with
  | none => missing name
  | some pattern => (s.environment lib).call pattern (value :: extra)

/-- Changes the registry with a number. -/
def changeRegistry (s : Session) (n : Nat) (change : Registry → Registry) : Session :=
  { s with registries := s.registries.set n (change (s.registry n)) }

/-- Carries a command out: the next state of the session, and how the command ends. -/
def step (lib : Library) (s : Session) : Command → Session × Outcome Value
  | .start name registry => (s.start name registry, .ok (.builder s.builders.length))
  | .addClause name spec result => s.addClause name spec result
  | .setDefault name fallback view => s.setDefault name fallback view
  | .close name view => s.close name view
  | .dispatch name value extra => (s, s.dispatch lib name value extra)
  | .register n kind => (s.changeRegistry n fun r => r.register kind, .ok .null)
  | .limitDepth n depth => (s.changeRegistry n fun r => { r with maxDepth := depth }, .ok .null)
  | .drop name => ({ s with handles := s.handles.filter fun h => h.1 != name }, .ok .null)

/-- Adds a clause to a builder while events are written: a spec whose events cannot be written makes no clause. -/
def addClauseLogged (s : Session) (name : String) (spec result : Value) : Session × Outcome Value :=
  s.onBuilder name (Builder.whenBy (fun n spec => ((s.registry n).compile spec).logged) spec result)
    fun s id _ => (s, .builder id)

/-- Carries a command out while events are written as they come. -/
def stepLogged (lib : Library) (s : Session) : Command → Session × Outcome Value
  | .addClause name spec result => s.addClauseLogged name spec result
  | c =>
    let (next, o) := s.step lib c
    (next, o.logged)

/-- The next state with the answer, of a command that ends well. -/
def perform (lib : Library) (s : Session) (c : Command) : Outcome (Session × Value) :=
  let (next, o) := s.step lib c
  o.andThen fun answer => .ok (next, answer)

/-- The next state with the answer, of a command that ends well while events are written. -/
def performLogged (lib : Library) (s : Session) (c : Command) : Outcome (Session × Value) :=
  let (next, o) := s.stepLogged lib c
  o.andThen fun answer => .ok (next, answer)

def after (lib : Library) (s : Session) (c : Command) : Session := (s.step lib c).1

/-- The clauses of a pattern, with the number of the builder that they come from. -/
def clausesOf? (s : Session) : Value → Option (Nat × List Clause)
  | .builder id => (s.builders[id]?).map fun b => (id, b.clauses)
  | .closed id clauses _ => (s.origins[id]?).map fun origin => (origin, clauses)
  | _ => none

/-- The default of a pattern. -/
def fallbackOf? (s : Session) : Value → Option Value
  | .builder id => (s.builders[id]?).bind fun b => b.fallback
  | .closed _ _ fallback => fallback
  | _ => none

def samePattern : Value → Value → Bool
  | .builder a, .builder b => a == b
  | .closed a _ _, .closed b _ _ => a == b
  | _, _ => false

/-- Whether clauses of different builders are equal one by one. Matchers are equal only to themselves, and
only the one that accepts everything is shared between builders. -/
def clausesMatch : List Clause → List Clause → Except ComparisonFault Bool
  | [], [] => .ok true
  | (.always, r) :: cs, (.always, t) :: ds =>
    match r.equal t with
    | .ok true => clausesMatch cs ds
    | verdict => verdict
  | _, _ => .ok false

/-- Whether two patterns have equal clauses. Clauses of one builder are equal if there are as many. -/
def clausesEqual (s : Session) (a b : Value) : Except ComparisonFault Bool :=
  match s.clausesOf? a, s.clausesOf? b with
  | some (m, cs), some (n, ds) =>
    if m = n then .ok (cs.length == ds.length) else clausesMatch cs ds
  | _, _ => .ok false

/-- The operations that every pattern has. -/
def sharedOperations : List String := ["close", "match", "clauses"]

/-- The further operations of a pattern under construction. -/
def builderOperations : List String := ["when", "default", "closed", "registry"]

def offers (pattern : Value) (operation : String) : Bool :=
  sharedOperations.contains operation ||
    match pattern with
    | .builder _ => builderOperations.contains operation
    | _ => operation == "has_default"

end Session

end Clausewise
