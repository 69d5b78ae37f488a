import Clausewise.Proofs.Pattern.Methods
import Clausewise.Proofs.Spec.Survey
import Mathlib.Data.List.Induction
import Mathlib.Data.List.TakeWhile

/-! Runs of calls on one pattern under construction, in any order and with any specs: what the builder holds after a
run, what failing calls leave behind, and how the closed patterns that a run returns compare with the builder. -/
namespace Clausewise

namespace Builder

/-- A call on the pattern under construction that a handle stands for. Calls that close it keep the closed pattern
under another handle, so that the handle goes on to stand for the builder. -/
inductive Call (name : String) where
  | when (spec result : Value)
  | default (fallback : Value) (view : { view : String // view ≠ name })
  | close (view : { view : String // view ≠ name })
  | dispatch (value : Value) (extra : List Value)

namespace Call
variable {name : String}

/-- The command that a call is. -/
def command : Call name → Command
  | .when spec result => .addClause name spec result
  | .default fallback view => .setDefault name fallback view
  | .close view => .close name view
  | .dispatch value extra => .dispatch name value extra

/-- Whether the call is one that closes. -/
def isClosing : Call name → Bool
  | .default .. | .close _ => true
  | _ => false

/-- The clause that the call adds to an open builder, if its spec compiles. -/
def clause? (r : Registry) : Call name → Option Clause
  | .when spec result => (r.compile spec).result.toOption.map fun m => (m, result)
  | _ => none

/-- The default that the call sets. -/
def fallback? : Call name → Option Value
  | .default fallback _ => some fallback
  | _ => none

/-- The builder that a call leaves behind. -/
def leaves (registry : Nat → Registry) (b : Builder) : Call name → Builder
  | .when spec result => (Builder.when registry spec result b).1
  | .default fallback _ => (Builder.default fallback b).1
  | .close _ => (Builder.close b).1
  | .dispatch .. => b

end Call

variable {name : String}

/-- What calls on a new builder come to: the clauses of all calls before the first that closes, and the default that
this one sets, if it sets one. -/
def recorded (r : Registry) (n : Nat) (calls : List (Call name)) : Builder where
  registry := n
  clauses := (calls.takeWhile fun c => !c.isClosing).filterMap (Call.clause? r)
  fallback := (calls.find? Call.isClosing).bind Call.fallback?
  closed := calls.any Call.isClosing

variable {registry : Nat → Registry} {b : Builder} {calls : List (Call name)} {e : Failure}

theorem when_eq_self_of_error {spec result : Value}
    (h : (Builder.when registry spec result b).2.result = .error e) :
    (Builder.when registry spec result b).1 = b := by
  cases hclosed : b.closed with
  | true => rw [when_of_closed hclosed]
  | false =>
    rw [when_of_open hclosed] at h ⊢
    cases hcompile : ((registry b.registry).compile spec).result with
    | ok m =>
      rw [hcompile] at h
      cases h
    | error e => rfl

theorem default_eq_self_of_error {fallback : Value} (h : (Builder.default fallback b).2.result = .error e) :
    (Builder.default fallback b).1 = b := by
  cases hclosed : b.closed with
  | true => rw [default_of_closed hclosed]
  | false =>
    rw [default_of_open hclosed] at h
    cases h

/-- No call changes a closed builder. -/
theorem Call.leaves_of_closed (h : b.closed = true) (c : Call name) : c.leaves registry b = b := by
  cases c with
  | when spec result => rw [leaves, when_of_closed h]
  | default fallback view => rw [leaves, default_of_closed h]
  | close view => rw [leaves, close_apply, ← h]
  | dispatch value extra => rfl

/-- After a call that closes, further calls come to nothing. -/
theorem recorded_append_of_closed (r : Registry) (n : Nat) (h : calls.any Call.isClosing = true)
    (more : List (Call name)) : recorded r n (calls ++ more) = recorded r n calls := by
  obtain ⟨c, hc, hclosing⟩ := List.any_eq_true.mp h
  have hclauses : (calls ++ more).takeWhile (fun c => !c.isClosing) = calls.takeWhile fun c => !c.isClosing := by
    rw [List.takeWhile_append, if_neg]
    intro hlength
    have hall := List.takeWhile_eq_self_iff.mp ((List.takeWhile_prefix _).eq_of_length hlength) c hc
    simp [hclosing] at hall
  have hfirst : (calls ++ more).find? Call.isClosing = calls.find? Call.isClosing := by
    obtain ⟨first, hfirst⟩ := Option.isSome_iff_exists.mp (List.find?_isSome.mpr ⟨c, hc, hclosing⟩)
    rw [List.find?_append, hfirst, Option.some_or]
  simp only [recorded, hclauses, hfirst, List.any_append, h, Bool.true_or]

theorem recorded_append_of_open (r : Registry) (n : Nat) (h : calls.any Call.isClosing = false)
    (more : List (Call name)) :
    recorded r n (calls ++ more) =
      { recorded r n more with clauses := calls.filterMap (Call.clause? r) ++ (recorded r n more).clauses } := by
  have hopen : ∀ c ∈ calls, (!c.isClosing) = true := by simpa using h
  have hfirst : calls.find? Call.isClosing = none := by simpa using h
  simp only [recorded, List.takeWhile_append_of_pos hopen, List.filterMap_append, List.find?_append, hfirst,
    Option.none_or, List.any_append, h, Bool.false_or]

/-- What calls come to is what the last of them leaves behind of what the others come to. -/
theorem recorded_concat (n : Nat) (calls : List (Call name)) (c : Call name) :
    recorded (registry n) n (calls ++ [c]) = c.leaves registry (recorded (registry n) n calls) := by
  cases h : calls.any Call.isClosing with
  | true => rw [recorded_append_of_closed _ n h, Call.leaves_of_closed h]
  | false =>
    have hopen := recorded_append_of_open (registry n) n h []
    rw [List.append_nil] at hopen
    rw [recorded_append_of_open _ n h, hopen]
    cases c with
    | when spec result =>
      rw [Call.leaves, when_of_open rfl]
      cases hcompile : ((registry n).compile spec).result <;>
        simp [recorded, Call.isClosing, Call.clause?, hcompile, Except.toOption]
    | default fallback view =>
      rw [Call.leaves, default_of_open rfl]
      rfl
    | close view =>
      rw [Call.leaves, close_apply]
      rfl
    | dispatch value extra => rfl

end Builder

namespace Session
variable {s : Session} {name : String} {id n : Nat} {b : Builder} {calls : List (Builder.Call name)} {e : Failure}

/-- The session after calls on the pattern under a handle. -/
def afterCalls (lib : Library) (s : Session) (calls : List (Builder.Call name)) : Session :=
  calls.foldl (fun s c => s.after lib c.command) s

/-- How the calls end, one after the other. -/
def outcomes (lib : Library) (s : Session) : List (Builder.Call name) → List (Outcome Value)
  | [] => []
  | c :: rest => (s.step lib c.command).2 :: outcomes lib (s.after lib c.command) rest

/-- The calls that do not fail. -/
def successes (lib : Library) (s : Session) : List (Builder.Call name) → List (Builder.Call name)
  | [] => []
  | c :: rest =>
    let others := successes lib (s.after lib c.command) rest
    if (s.step lib c.command).2.result.isOk then c :: others else others

theorem afterCalls_append (lib : Library) (s : Session) (calls more : List (Builder.Call name)) :
    s.afterCalls lib (calls ++ more) = (s.afterCalls lib calls).afterCalls lib more :=
  List.foldl_append

private theorem Tracks.onBuilder_keeps {α : Type} (h : s.Tracks name id b) {method : Builder.Method α}
    (hkeeps : (method b).2.result = .error e → (method b).1 = b)
    {finish : Session → Nat → α → Session × Value}
    (he : (s.onBuilder name method finish).2.result = .error e) : (s.onBuilder name method finish).1 = s := by
  cases hresult : (method b).2.result with
  | ok a =>
    rw [h.onBuilder_of_ok rfl hresult] at he
    cases he
  | error e' =>
    rw [h.onBuilder_of_error rfl hresult] at he ⊢
    obtain rfl := Except.error.inj he
    rw [hkeeps hresult, h.update_self]

/-- A call that fails leaves the whole session as it was. -/
theorem Tracks.after_eq_self_of_error (h : s.Tracks name id b) (lib : Library) (c : Builder.Call name)
    (he : (s.step lib c.command).2.result = .error e) : s.after lib c.command = s := by
  cases c with
  | when spec result => exact h.onBuilder_keeps Builder.when_eq_self_of_error he
  | default fallback view => exact h.onBuilder_keeps Builder.default_eq_self_of_error he
  | close view =>
    rw [Builder.Call.command, step, h.close_eq, h.onBuilder_of_ok (Builder.close_apply b) rfl] at he
    cases he
  | dispatch value extra => rfl

private theorem Tracks.onBuilder {α : Type} (h : s.Tracks name id b) {method : Builder.Method α}
    {finish : Session → Nat → α → Session × Value}
    (hfinish : ∀ s left a, s.Tracks name id left →
      (finish s id a).1.Tracks name id left ∧ (finish s id a).1.registries = s.registries) :
    (s.onBuilder name method finish).1.Tracks name id (method b).1 ∧
      (s.onBuilder name method finish).1.registries = s.registries := by
  cases hresult : (method b).2.result with
  | ok a =>
    rw [h.onBuilder_of_ok rfl hresult]
    exact hfinish _ _ a (h.update _)
  | error e =>
    rw [h.onBuilder_of_error rfl hresult]
    exact ⟨h.update _, rfl⟩

/-- One call on a tracked builder: what the call leaves behind is tracked, and the registries stay. -/
theorem Tracks.after (h : s.Tracks name id b) (lib : Library) (c : Builder.Call name) :
    (s.after lib c.command).Tracks name id (c.leaves s.registry b) ∧
      (s.after lib c.command).registries = s.registries := by
  cases c with
  | when spec result => exact h.onBuilder fun s left _ hs => ⟨hs, rfl⟩
  | default fallback view => exact h.onBuilder fun s left content hs => ⟨hs.keepView content view.2, rfl⟩
  | close view =>
    rw [Session.after, Builder.Call.command, step, h.close_eq]
    exact h.onBuilder fun s left content hs => ⟨hs.keepView content view.2, rfl⟩
  | dispatch value extra => exact ⟨h, rfl⟩

private theorem registry_congr {s t : Session} (h : s.registries = t.registries) : s.registry = t.registry :=
  funext fun n => by rw [registry, registry, h]

/-- A run of calls on a new builder leaves what the calls come to. -/
theorem tracks_afterCalls (lib : Library) (s : Session) (n : Nat) (calls : List (Builder.Call name)) :
    ((s.start name n).afterCalls lib calls).Tracks name s.builders.length
        (Builder.recorded (s.registry n) n calls) ∧
      ((s.start name n).afterCalls lib calls).registries = s.registries := by
  induction calls using List.reverseRecOn with
  | nil => exact ⟨.start s name n, rfl⟩
  | append_singleton calls c ih =>
    obtain ⟨htracks, hregistries⟩ := ih
    obtain ⟨hafter, hstay⟩ := htracks.after lib c
    rw [registry_congr hregistries, ← Builder.recorded_concat] at hafter
    rw [afterCalls_append]
    exact ⟨hafter, hstay.trans hregistries⟩

/-- Deleting the calls that fail from a run changes neither where it leads nor how the other calls end. -/
theorem Tracks.delete_failing (h : s.Tracks name id b) (lib : Library) (calls : List (Builder.Call name)) :
    s.afterCalls lib (s.successes lib calls) = s.afterCalls lib calls ∧
      s.outcomes lib (s.successes lib calls) =
        (s.outcomes lib calls).filter fun o => o.result.isOk := by
  induction calls generalizing s b with
  | nil => exact ⟨rfl, rfl⟩
  | cons c rest ih =>
    obtain ⟨hstate, houtcomes⟩ := ih (h.after lib c).1
    cases hresult : (s.step lib c.command).2.result with
    | ok answer =>
      have hok : (s.step lib c.command).2.result.isOk = true := by rw [hresult]; rfl
      simp only [successes, outcomes, List.filter_cons, hok, if_true]
      exact ⟨hstate, congrArg _ houtcomes⟩
    | error e =>
      have hfails : (s.step lib c.command).2.result.isOk = false := by rw [hresult]; rfl
      have hself := h.after_eq_self_of_error lib c hresult
      rw [hself] at hstate houtcomes
      simp only [successes, outcomes, List.filter_cons, hfails, Bool.false_eq_true, if_false, hself]
      exact ⟨hstate.trans (congrArg (afterCalls lib · rest) hself.symm), houtcomes⟩

/-- A closed pattern that keeps what a builder holds answers every call as the builder does. -/
theorem call_closed_eq_call_builder {env : Environment} (hb : env.builder? id = some b) (k : Nat)
    (arguments : List Value) :
    env.call (.closed k b.clauses b.fallback) arguments = env.call (.builder id) arguments := by
  obtain ⟨depth, hdepth⟩ : ∃ depth, Environment.deepestCall = depth + 1 := ⟨_, rfl⟩
  simp only [Environment.call, hdepth, Environment.callWithin_succ, Environment.answer, hb]

/-- The closed pattern that a closing call returns keeps what the call leaves of the builder. -/
theorem Tracks.answer_of_closing (h : s.Tracks name id b) (lib : Library) {c : Builder.Call name}
    (hclosing : c.isClosing = true) {answer : Value}
    (hanswer : (s.step lib c.command).2.result = .ok answer) :
    ∃ k, answer = .closed k (c.leaves s.registry b).clauses (c.leaves s.registry b).fallback := by
  cases c with
  | when | dispatch => cases hclosing
  | default fallback view =>
    rw [Builder.Call.leaves]
    rw [Builder.Call.command, step, setDefault] at hanswer
    cases hclosed : b.closed with
    | true =>
      rw [h.onBuilder_of_error (Builder.default_of_closed hclosed) rfl] at hanswer
      cases hanswer
    | false =>
      rw [h.onBuilder_of_ok (Builder.default_of_open hclosed) rfl] at hanswer
      rw [Builder.default_of_open hclosed]
      exact ⟨s.origins.length, (Except.ok.inj hanswer).symm⟩
  | close view =>
    rw [Builder.Call.leaves]
    rw [Builder.Call.command, step, h.close_eq, h.onBuilder_of_ok (Builder.close_apply b) rfl] at hanswer
    exact ⟨s.origins.length, (Except.ok.inj hanswer).symm⟩

/-- Runs of calls on a new pattern, of any length and in any order. The builder holds the clauses of the calls before
the first closing one whose specs compile, in order; the default of this closing call, if it set one; and is closed if
there was one. Once closed it stays as it is, and refuses further clauses and defaults by name. A call that fails leaves
the session as it was, so the run leads to the same without the failing calls, and the others end as they did. And every
closed pattern that a call of the run returned answers in the end whatever the builder answers. -/
theorem run_of_calls (lib : Library) (s : Session) (name : String) (n : Nat) (calls : List (Builder.Call name)) :
    let run (calls : List (Builder.Call name)) := (s.start name n).afterCalls lib calls
    let held := Builder.recorded (s.registry n) n calls
    (run calls).builders[s.builders.length]? = some held ∧
    (held.closed = true →
      (∀ more, (run (calls ++ more)).builders[s.builders.length]? = some held) ∧
      (∀ spec result, ((run calls).step lib (.addClause name spec result)).2 = .fail (.sealed (.text "when"))) ∧
      ∀ fallback view,
        ((run calls).step lib (.setDefault name fallback view)).2 = .fail (.sealed (.text "default"))) ∧
    (∀ (c : Builder.Call name) (e : Failure), ((run calls).step lib c.command).2.result = .error e →
      (run calls).after lib c.command = run calls) ∧
    (run ((s.start name n).successes lib calls) = run calls ∧
      (s.start name n).outcomes lib ((s.start name n).successes lib calls) =
        ((s.start name n).outcomes lib calls).filter fun o => o.result.isOk) ∧
    ∀ before c later answer, calls = before ++ c :: later → c.isClosing = true →
      ((run before).step lib c.command).2.result = .ok answer →
      ∃ k, answer = .closed k held.clauses held.fallback ∧ ∀ value extra,
        ((run calls).environment lib).call answer (value :: extra) = (run calls).dispatch lib name value extra := by
  intro run held
  have htracks : (run calls).Tracks name s.builders.length held := (tracks_afterCalls lib s n calls).1
  refine ⟨htracks.builder, fun hclosed => ⟨fun more => ?_, fun spec result => ?_, fun fallback view => ?_⟩,
    fun c e he => htracks.after_eq_self_of_error lib c he,
    (Tracks.start s name n).delete_failing lib calls, ?_⟩
  · rw [(tracks_afterCalls lib s n (calls ++ more)).1.builder, Builder.recorded_append_of_closed _ n hclosed]
  · rw [step, addClause, htracks.onBuilder_of_error (Builder.when_of_closed hclosed) rfl]
    rfl
  · rw [step, setDefault, htracks.onBuilder_of_error (Builder.default_of_closed hclosed) rfl]
    rfl
  · rintro before c later answer rfl hclosing hanswer
    obtain ⟨hthen, hregistries⟩ := tracks_afterCalls lib s n before
    obtain ⟨k, rfl⟩ := hthen.answer_of_closing lib hclosing hanswer
    -- The call closed the builder, so the calls after it came to nothing and the builder holds what it held then.
    have hheld : held = c.leaves (run before).registry (Builder.recorded (s.registry n) n before) := by
      have hclosed : (before ++ [c]).any Builder.Call.isClosing = true := by simp [hclosing]
      have hsplit : before ++ c :: later = (before ++ [c]) ++ later := by simp
      rw [registry_congr hregistries, ← Builder.recorded_concat,
        ← Builder.recorded_append_of_closed _ n hclosed later, ← hsplit]
    rw [← hheld]
    refine ⟨k, rfl, fun value extra => ?_⟩
    rw [htracks.dispatch_eq]
    exact call_closed_eq_call_builder htracks.builder k _

/-- A run with a spec that does not compile, a default, a clause too late and a second closing. -/
theorem run_of_calls_mixed :
    let lib := Library.empty
    let s : Session := { registries := [.builtIn Registry.usualLimit 2] }
    let calls : List (Builder.Call "p") :=
      [.when (.int 0) (.text "zero"), .when (.set false []) .null, .default .undefined ⟨"view", by decide⟩,
        .when (.int 1) .null, .close ⟨"again", by decide⟩]
    ((s.start "p" 0).afterCalls lib calls).builders[0]? =
      some ⟨0, [(.literal (.int 0), .text "zero")], some .undefined, true⟩ := by
  intro lib s calls
  have hzero : ((Registry.builtIn Registry.usualLimit 2).compile (.int 0)).result = .ok (.literal (.int 0)) :=
    Registry.result_compile_of_passes rfl (by decide)
  have hset : ((Registry.builtIn Registry.usualLimit 2).compile (.set false [])).result =
      .error (.unclassifiable (.set false [])) := by
    rw [Registry.compile, Registry.compileAt_builtIn]
    rfl
  refine (run_of_calls lib s "p" 0 calls).1.trans (congrArg some ?_)
  have hclauses : ([.when (.int 0) (.text "zero"), .when (.set false []) .null] : List (Builder.Call "p")).filterMap
      (Builder.Call.clause? (.builtIn Registry.usualLimit 2)) = [(.literal (.int 0), .text "zero")] := by
    simp [Builder.Call.clause?, hzero, hset, Except.toOption]
  rw [← hclauses]
  rfl

end Session

end Clausewise
