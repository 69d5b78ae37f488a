import Clausewise.Proofs.Match.Correspondence
import Clausewise.Proofs.Match.Decision
import Clausewise.Proofs.Session.Frame
import Clausewise.Proofs.Spec.Survey
import Clausewise.Proofs.Stock.Containment

/-! Closed patterns are isolated from what happens later in a session: unless a call reaches a pattern that is still
open, or a handle that stands for something else by then, it comes to the same at every later point. -/
namespace Clausewise

/-- Equality as a correspondence. -/
def Outcome.sameness : Outcome.Correspondence where
  holds o o' := o' = o
  refl _ := rfl
  andThen := by
    rintro _ _ ⟨events, result⟩ _ next next' rfl hnext
    cases result with
    | error e => rfl
    | ok a =>
      have hsame := hnext a rfl
      simp only [Outcome.andThen, hsame]
  iterated := congrArg Outcome.iterated

/-- In environments that agree within references, calls within these come to the same, however deep they may nest. -/
theorem Environment.AgreeWithin.callWithin_eq {R D : Reference → Prop} {env env' : Environment}
    (h : AgreeWithin R D env env') {callee : Value} {arguments : List Value} (hcallee : callee.Within R)
    (harguments : ∀ v ∈ arguments, v.Within D) (depth : Nat) :
    env'.callWithin depth callee arguments = env.callWithin depth callee arguments := by
  have hagree : Outcome.sameness.AgreeWithin R D (env.callWithin depth) (env'.callWithin depth) := by
    induction depth with
    | zero => exact h.caller fun _ _ _ _ => .fail _
    | succ depth ih => exact h.caller fun _ _ => h.answer ih
  exact (hagree.answer callee arguments hcallee harguments).corresponds

namespace Session
variable {s : Session} {lib : Library} {v w : Value} {ref : Reference}

/-- What a reference leads to: the value under a handle, or the clauses and the default of a builder. -/
def target? (s : Session) : Reference → Option Value
  | .builder id => (s.builders[id]?).map fun b => .closed id b.clauses b.fallback
  | .handle name => s.handle? name
  | .store => none

/-- What a value refers to in a session, directly or through what its references lead to. -/
inductive Reaches (s : Session) (v : Value) : Reference → Prop
  | direct {ref : Reference} : ref ∈ v.references → Reaches s v ref
  | through {via ref : Reference} {w : Value} :
      Reaches s v via → s.target? via = some w → ref ∈ w.references → Reaches s v ref

/-- References that lead to no others hold all that a value reaches, if they hold what it refers to. -/
theorem Reaches.of_within {R : Reference → Prop} (hv : v.Within R)
    (htarget : ∀ via w, R via → s.target? via = some w → w.Within R) (h : s.Reaches v ref) : R ref := by
  induction h with
  | direct href => exact hv _ href
  | through _ hw href ih => exact htarget _ _ ih hw _ href

/-- That a value reaches only builders that are closed, handles that stand for the same in a later session, and no
mapping that look-ups add entries to. -/
structure Settled (s later : Session) (v : Value) : Prop where
  closed : ∀ id, s.Reaches v (.builder id) → ∃ b, s.builders[id]? = some b ∧ b.closed = true
  kept : ∀ name, s.Reaches v (.handle name) → later.handle? name = s.handle? name
  fixed : ¬ s.Reaches v .store

/-- That a value is settled and holds no builder. Even a closed builder, as a value, lets mapping patterns look into its
registry, to which kinds can still be added. -/
structure Plain (s later : Session) (v : Value) : Prop extends s.Settled later v where
  holdsNoBuilder : ∀ id, .builder id ∉ v.references

/-- A value without references is plain whatever happens. -/
theorem Plain.of_references_eq_nil {later : Session} (h : v.references = []) : s.Plain later v := by
  have hnone (ref : Reference) (hreaches : s.Reaches v ref) : False :=
    hreaches.of_within (Value.within_of_references_eq_nil h) fun _ _ => False.elim
  exact ⟨⟨fun id hid => (hnone _ hid).elim, fun name hname => (hnone _ hname).elim, hnone _⟩, by simp [h]⟩

/-- Two states of a session agree on whatever a settled pattern and settled arguments reach. -/
theorem agreeWithin_of_settled (hlib : ∀ R D, (∀ ref, D ref → R ref) → lib.ContainedIn R D)
    {commands : List Command} {callee : Value} {arguments : List Value}
    (hsettled : ∀ v ∈ callee :: arguments, s.Settled (s.run lib commands) v) :
    Environment.AgreeWithin (fun ref => ∃ v ∈ callee :: arguments, s.Reaches v ref)
      (fun ref => ∃ v ∈ arguments, ref ∈ v.references) (s.environment lib) ((s.run lib commands).environment lib) where
  includes := by
    rintro ref ⟨v, hv, href⟩
    exact ⟨v, List.mem_cons_of_mem _ hv, .direct href⟩
  library := rfl
  contained := by
    refine hlib _ _ ?_
    rintro ref ⟨v, hv, href⟩
    exact ⟨v, List.mem_cons_of_mem _ hv, .direct href⟩
  handle? name := by
    rintro ⟨v, hv, hreaches⟩
    exact (hsettled v hv).kept name hreaches
  builder? id := by
    rintro ⟨v, hv, hreaches⟩
    obtain ⟨b, hb, hclosed⟩ := (hsettled v hv).closed id hreaches
    exact (builder_run_of_closed hb hclosed lib commands).trans hb.symm
  within_handle name w := by
    rintro ⟨v, hv, hreaches⟩ hw ref href
    exact ⟨v, hv, hreaches.through hw href⟩
  within_builder id b := by
    rintro ⟨v, hv, hreaches⟩ hb
    have htarget : s.target? (.builder id) = some (.closed id b.clauses b.fallback) := congrArg (Option.map _) hb
    exact Value.within_closed.mp fun ref href => ⟨v, hv, hreaches.through htarget href⟩

/-- Whatever commands follow, a closed pattern comes to the same on every value and extra arguments as before, as long
as the pattern and the arguments reach no builder that is still open, no handle that stands for something else by then
and no mapping that look-ups add to, and the arguments hold no builder; also if it is dispatched through a handle,
before and after. So clauses added to other patterns and kinds registered later make no difference. Functions, as
everywhere, look patterns up and call them, but pass on nothing that refers to more than their own arguments do. -/
theorem call_closed_run (hlib : ∀ R D, (∀ ref, D ref → R ref) → lib.ContainedIn R D) (s : Session)
    (commands : List Command) {id : Nat} {clauses : List Clause} {fallback : Option Value} {value : Value}
    {extra : List Value} (hpattern : s.Settled (s.run lib commands) (.closed id clauses fallback))
    (harguments : ∀ v ∈ value :: extra, s.Plain (s.run lib commands) v) :
    (∀ depth, ((s.run lib commands).environment lib).callWithin depth (.closed id clauses fallback) (value :: extra) =
      (s.environment lib).callWithin depth (.closed id clauses fallback) (value :: extra)) ∧
    ∀ name view, s.handle? name = some (.closed id clauses fallback) →
      (s.run lib commands).handle? view = some (.closed id clauses fallback) →
      (s.run lib commands).dispatch lib view value extra = s.dispatch lib name value extra := by
  -- All that the pattern and the arguments reach is one set of references, closed under what lies behind them.
  have hsettled := List.forall_mem_cons.mpr ⟨hpattern, fun v hv => (harguments v hv).toSettled⟩
  have hcalls := (agreeWithin_of_settled hlib hsettled).callWithin_eq
    (fun ref href => ⟨_, List.mem_cons_self, .direct href⟩) fun v hv ref href => ⟨v, hv, href⟩
  refine ⟨hcalls, fun name view hname hview => ?_⟩
  simp only [dispatch, hname, hview]
  exact hcalls Environment.deepestCall

/-- A pattern with a closed builder as a spec and a function for a handle as a result, before and after another pattern
is opened and gets a clause, a kind is registered and specs may no longer nest. -/
theorem call_closed_run_delegate :
    let lib := Stock.library
    let found : List Clause := [(.always, .text "found")]
    let s : Session := {
      registries := [.standard], builders := [⟨0, found, none, true⟩], handles := [("inner", .closed 0 found none)],
      origins := [0] }
    let pattern : Value :=
      .closed 1 [(.predicate (.builder 0), .function (Stock.functionFor "delegate" "inner" 0))] none
    let commands : List Command :=
      [.start "p" 0, .addClause "p" (.int 1) .null,
        .register 0 (.builtIn Registry.usualLimit .literal (.custom "mine") 100), .limitDepth 0 0]
    ((s.run lib commands).environment lib).call pattern [.int 1] = (s.environment lib).call pattern [.int 1] := by
  intro lib found s pattern commands
  have hreached : ∀ ref, s.Reaches pattern ref → ref = .builder 0 ∨ ref = .handle "inner" := by
    have hfound : (Value.closed 0 found none).references = [] := rfl
    have hpattern : pattern.references = [.builder 0, .handle "inner"] := rfl
    intro ref hreaches
    refine hreaches.of_within (R := fun ref => ref = .builder 0 ∨ ref = .handle "inner") ?_ ?_
    · simp [Value.Within, hpattern]
    · rintro via w (rfl | rfl) hw
      · obtain rfl := Option.some.inj hw
        exact Value.within_of_references_eq_nil hfound
      · obtain rfl := Option.some.inj hw
        exact Value.within_of_references_eq_nil hfound
  have hpattern : s.Settled (s.run lib commands) pattern := by
    refine ⟨fun id hid => ?_, fun name hname => handle?_run_of_ne ?_ lib s,
      fun hstore => by simpa using hreached _ hstore⟩
    · obtain rfl : id = 0 := by simpa using hreached _ hid
      exact ⟨_, rfl, rfl⟩
    · obtain rfl : name = "inner" := by simpa using hreached _ hname
      simp [commands, Command.binds?]
  have hvalue : s.Plain (s.run lib commands) (.int 1) := .of_references_eq_nil rfl
  exact (call_closed_run (fun _ _ => Stock.library_containedIn) s commands hpattern
    (List.forall_mem_singleton.mpr hvalue)).1 Environment.deepestCall

/-- The pattern alone being settled is not enough: one that shows any value as a text shows an open builder with the
number of its clauses, before and after another clause is added to that builder. -/
theorem call_closed_run_open_argument :
    let lib := Stock.library
    let fresh : Session := { registries := [.standard] }
    let pattern : Value := .closed 0 [(.always, .cls .str)] none
    let s := fresh.run lib
      [.start "p" 0, .addClause "p" (.matcher .always) (.cls .str), .close "p" "view", .start "q" 0]
    let later := s.run lib [.addClause "q" (.int 1) .null]
    s.handle? "view" = some pattern ∧ s.handle? "q" = some (.builder 1) ∧ s.Settled later pattern ∧
      (s.dispatch lib "view" (.builder 1) []).result = .ok (.text "<Pattern open clauses=0>") ∧
      (later.dispatch lib "view" (.builder 1) []).result = .ok (.text "<Pattern open clauses=1>") := by
  intro lib fresh pattern s later
  have hwildcard : (Registry.standard.compile (.matcher .always)).result = .ok .always :=
    Registry.result_compile_of_passes rfl (by decide)
  have hone : (Registry.standard.compile (.int 1)).result = .ok (.literal (.int 1)) :=
    Registry.result_compile_of_passes rfl (by decide)
  have hp := (Tracks.start fresh "p" 0).after_addClause rfl hwildcard lib (.cls .str)
  have hs : s = ((fresh.start "p" 0).after lib (.addClause "p" (.matcher .always) (.cls .str))).run lib
    [.close "p" "view", .start "q" 0] := rfl
  rw [hp] at hs
  have hq : s.Tracks "q" 1 { registry := 0 } := by
    rw [hs]
    exact ⟨rfl, rfl⟩
  have hregistries : s.registries = [.standard] := by
    rw [hs]
    rfl
  have hlater : later.builders[1]? = some ⟨0, [(.literal (.int 1), .null)], none, false⟩ := by
    have hcompile : ((s.registry 0).compile (.int 1)).result = .ok (.literal (.int 1)) := by
      rw [registry, hregistries]
      exact hone
    have hafter : later = _ := hq.after_addClause rfl hcompile lib .null
    rw [hafter]
    exact (hq.update _).builder
  have hshows (t : Session) (b : Builder) (hb : t.builders[1]? = some b) (hview : t.handle? "view" = some pattern) :
      (t.dispatch lib "view" (.builder 1) []).result = .ok (.text (String.ofList b.summary.display)) := by
    have haccepts : (Matcher.always.test ((t.environment lib).callWithin 489) (.builder 1)).result = .ok true := by
      rw [Matcher.test]
      rfl
    have hcall : t.dispatch lib "view" (.builder 1) [] =
        Clausewise.dispatch ((t.environment lib).callWithin 489) [(.always, .cls .str)] none (.builder 1) [] := by
      rw [dispatch, hview]
      rfl
    have hcreate : (produce ((t.environment lib).callWithin 489) (.cls .str) (.builder 1) []).result =
        .ok (.text (String.ofList ((t.environment lib).summaries 1).display)) := rfl
    have hsummary : (t.environment lib).summaries 1 = b.summary := by simp [Environment.summaries, environment, hb]
    rw [hcall, result_dispatch_cons, haccepts, ← hsummary]
    exact hcreate
  have hview : s.handle? "view" = some pattern := by
    rw [hs]
    rfl
  have hstays : later.handle? "view" = s.handle? "view" := handle?_run_of_ne (by simp [Command.binds?]) lib s
  have hbefore := hshows s _ hq.builder hview
  have hafter := hshows later _ hlater (hstays.trans hview)
  exact ⟨hview, hq.handle, (Plain.of_references_eq_nil rfl).toSettled, hbefore, hafter⟩

end Session

end Clausewise
