import Clausewise.Match.Call
import Clausewise.Proofs.Query.References

/-! Two ways of answering calls that correspond where callables and arguments have only references of given sorts: then
tests, dispatches and whole calls by the one and by the other correspond too, and nothing they yield has other
references. What is tested and passed on as an argument may be held to fewer references, `D`, than what is called. -/
namespace Clausewise

/-- A relation between computations that stays when both go on alike with what the first of them yields. -/
structure Outcome.Correspondence where
  holds : ∀ {α : Type}, Outcome α → Outcome α → Prop
  refl : ∀ {α : Type} (o : Outcome α), holds o o
  andThen : ∀ {α β : Type} {o o' : Outcome α} {next next' : α → Outcome β}, holds o o' →
    (∀ a, o.result = .ok a → holds (next a) (next' a)) → holds (o.andThen next) (o'.andThen next')
  iterated : ∀ {α : Type} {o o' : Outcome α}, holds o o' → holds o.iterated o'.iterated

namespace Outcome.Correspondence
variable {K : Correspondence} {α β : Type} {P : α → Prop} {Q : β → Prop} {o o' : Outcome α}
  {next next' : α → Outcome β}

/-- That two computations correspond, and that what they yield has a property. -/
structure Agree (K : Correspondence) (P : α → Prop) (o o' : Outcome α) : Prop where
  corresponds : K.holds o o'
  ensures : Ensures P o.result

theorem Agree.refl (h : Ensures P o.result) : K.Agree P o o := ⟨K.refl o, h⟩

theorem Agree.ok {a : α} (h : P a) : K.Agree P (.ok a) (.ok a) := .refl (ensures_ok h)

theorem Agree.fail (e : Failure) : K.Agree P (.fail e) (.fail e) := .refl (ensures_error e)

theorem Agree.andThen (h : K.Agree P o o') (hnext : ∀ a, P a → K.Agree Q (next a) (next' a)) :
    K.Agree Q (o.andThen next) (o'.andThen next') := by
  refine ⟨K.andThen h.corresponds fun a ha => (hnext a (h.ensures a ha)).corresponds, fun b hb => ?_⟩
  obtain ⟨a, ha, hb⟩ := result_andThen_eq_ok_iff.mp hb
  exact (hnext a (h.ensures a ha)).ensures b hb

theorem Agree.iterated (h : K.Agree P o o') : K.Agree P o.iterated o'.iterated :=
  ⟨K.iterated h.corresponds, fun a ha => h.ensures a (result_iterated_eq_ok_iff.mp ha)⟩

/-- That two ways of answering agree on calls of what has references in `R` with arguments that have references in `D`,
and search and select alike, with nothing selected that refers to more than what it is selected from. -/
structure AgreeWithin (K : Correspondence) (R D : Reference → Prop) (call call' : Caller) : Prop where
  answer : ∀ callee arguments, callee.Within R → (∀ v ∈ arguments, v.Within D) →
    K.Agree (Value.Within R) (call callee arguments) (call' callee arguments)
  search : call'.search = call.search
  select : call'.select = call.select
  selects : ∀ source extended v, v.Within D → Ensures (Value.Within D) (call.select source extended v)

end Outcome.Correspondence

open Outcome (Correspondence)
open Outcome.Correspondence (Agree)

variable {K : Correspondence} {R D : Reference → Prop} {call call' : Caller}

namespace Matcher

mutual

/-- Where calls agree, so do tests. -/
theorem agree_test (hcall : K.AgreeWithin R D call call') : (m : Matcher) → (v : Value) →
    m.Within R → v.Within D → K.Agree (fun _ => True) (m.test call v) (m.test call' v)
  | .predicate callee, v, hm, hv => by
    rw [test, test]
    have hanswer := hcall.answer callee [v] (within_predicate.mp hm) (List.forall_mem_singleton.mpr hv)
    exact hanswer.andThen fun _ _ => .ok trivial
  | .sequence items, v, hm, hv => by
    rw [test, test]
    split
    · exact .refl fun _ _ => trivial
    · split
      · exact .ok trivial
      · split
        · exact .fail _
        · split
          · exact .ok trivial
          · exact (agree_testItems hcall items v 0 (within_sequence.mp hm) hv).iterated
  | .mapping fields, v, hm, hv => by
    rw [test, test]
    split
    · exact .fail _
    · split
      · exact .ok trivial
      · exact agree_testFields hcall fields v (within_mapping.mp hm) hv
  | .anyOf ms, v, hm, hv => by
    rw [test, test]
    exact (agree_testAny hcall ms v (within_anyOf.mp hm) hv).iterated
  | .allOf ms, v, hm, hv => by
    rw [test, test]
    exact (agree_testAll hcall ms v (within_allOf.mp hm) hv).iterated
  | .negation inner, v, hm, hv => by
    rw [test, test]
    exact (agree_test hcall inner v (within_negation.mp hm) hv).andThen fun _ _ => .ok trivial
  | .query source extended inner, v, hm, hv => by
    rw [test, test, hcall.select]
    have hfound : K.Agree (Value.Within D) (.ofExcept (call.select source extended v))
        (.ofExcept (call.select source extended v)) :=
      .refl (hcall.selects source extended v hv)
    exact hfound.andThen fun w hw => agree_test hcall inner w (within_query.mp hm) hw
  | .regex pattern limit, v, _, _ => by
    rw [test, test, hcall.search]
    exact .refl fun _ _ => trivial
  | .always, _, _, _ | .literal _, _, _, _ | .instanceOf _, _, _, _ | .category _, _, _, _
  | .comparison _ _, _, _, _ | .between _ _, _, _, _ | .equality _, _, _, _ | .verdict _, _, _, _
  | .depth _, _, _, _ => by
    rw [test, test]
    exact .refl fun _ _ => trivial

theorem agree_testItems (hcall : K.AgreeWithin R D call call') : (ms : List Matcher) → (v : Value) → (i : Nat) →
    (∀ m ∈ ms, m.Within R) → v.Within D → K.Agree (fun _ => True) (testItems call ms v i) (testItems call' ms v i)
  | [], _, _, _, _ => by
    rw [testItems, testItems]
    exact .ok trivial
  | m :: ms, v, i, hms, hv => by
    obtain ⟨hm, hrest⟩ := List.forall_mem_cons.mp hms
    rw [testItems, testItems]
    split
    · exact .ok trivial
    · rename_i item hitem
      refine (agree_test hcall m item hm (Value.within_item? hv hitem)).andThen fun accepted _ => ?_
      split
      · exact agree_testItems hcall ms v (i + 1) hrest hv
      · exact .ok trivial

theorem agree_testFields (hcall : K.AgreeWithin R D call call') : (fields : List (Value × Matcher)) → (v : Value) →
    (∀ f ∈ fields, f.1.Within R ∧ f.2.Within R) → v.Within D →
    K.Agree (fun _ => True) (testFields call fields v) (testFields call' fields v)
  | [], _, _, _ => by
    rw [testFields, testFields]
    exact .ok trivial
  | (k, m) :: rest, v, hfields, hv => by
    obtain ⟨⟨-, hm⟩, hrest⟩ := List.forall_mem_cons.mp hfields
    rw [testFields, testFields]
    split
    · exact .ok trivial
    · rename_i entry hentry
      refine (agree_test hcall m entry hm (Value.within_entry? hv hentry)).andThen fun accepted _ => ?_
      split
      · exact agree_testFields hcall rest v hrest hv
      · exact .ok trivial

theorem agree_testAny (hcall : K.AgreeWithin R D call call') : (ms : List Matcher) → (v : Value) →
    (∀ m ∈ ms, m.Within R) → v.Within D → K.Agree (fun _ => True) (testAny call ms v) (testAny call' ms v)
  | [], _, _, _ => by
    rw [testAny, testAny]
    exact .ok trivial
  | m :: ms, v, hms, hv => by
    obtain ⟨hm, hrest⟩ := List.forall_mem_cons.mp hms
    rw [testAny, testAny]
    refine (agree_test hcall m v hm hv).andThen fun accepted _ => ?_
    split
    · exact .ok trivial
    · exact agree_testAny hcall ms v hrest hv

theorem agree_testAll (hcall : K.AgreeWithin R D call call') : (ms : List Matcher) → (v : Value) →
    (∀ m ∈ ms, m.Within R) → v.Within D → K.Agree (fun _ => True) (testAll call ms v) (testAll call' ms v)
  | [], _, _, _ => by
    rw [testAll, testAll]
    exact .ok trivial
  | m :: ms, v, hms, hv => by
    obtain ⟨hm, hrest⟩ := List.forall_mem_cons.mp hms
    rw [testAll, testAll]
    refine (agree_test hcall m v hm hv).andThen fun accepted _ => ?_
    split
    · exact agree_testAll hcall ms v hrest hv
    · exact .ok trivial

end

end Matcher

theorem agree_firstMatch (hcall : K.AgreeWithin R D call call') {clauses : List Clause}
    (hclauses : ∀ c ∈ clauses, c.1.Within R ∧ c.2.Within R) {value : Value} (hvalue : value.Within D) :
    K.Agree (fun found => ∀ result, found = some result → result.Within R) (firstMatch call clauses value)
      (firstMatch call' clauses value) := by
  induction clauses with
  | nil => exact .ok nofun
  | cons c rest ih =>
    obtain ⟨⟨hm, hresult⟩, hrest⟩ := List.forall_mem_cons.mp hclauses
    refine (Matcher.agree_test hcall c.1 value hm hvalue).andThen fun accepted _ => ?_
    split
    · refine .ok fun result h => ?_
      obtain rfl := Option.some.inj h
      exact hresult
    · exact ih hrest

section
variable {value : Value} {extra : List Value}

theorem agree_produce (hcall : K.AgreeWithin R D call call') {result : Value} (hresult : result.Within R)
    (hvalue : value.Within D) (hextra : ∀ v ∈ extra, v.Within D) :
    K.Agree (Value.Within R) (produce call result value extra) (produce call' result value extra) := by
  unfold produce
  split
  · exact .ok (Value.within_constant.mp hresult)
  · split
    · exact hcall.answer _ _ hresult (List.forall_mem_cons.mpr ⟨hvalue, hextra⟩)
    · exact .ok hresult

theorem agree_dispatch (hcall : K.AgreeWithin R D call call') {clauses : List Clause} {fallback : Option Value}
    (hclauses : ∀ c ∈ clauses, c.1.Within R ∧ c.2.Within R) (hfallback : ∀ v, fallback = some v → v.Within R)
    (hvalue : value.Within D) (hextra : ∀ v ∈ extra, v.Within D) :
    K.Agree (Value.Within R) (dispatch call clauses fallback value extra)
      (dispatch call' clauses fallback value extra) := by
  refine (agree_firstMatch hcall hclauses hvalue).andThen fun found hfound => ?_
  have hreport (e : Event) : K.Agree (fun _ => True) (Outcome.report e) (Outcome.report e) := .refl fun _ _ => trivial
  cases found with
  | some result => exact agree_produce hcall (hfound result rfl) hvalue hextra
  | none =>
    cases fallback with
    | some result => exact (hreport _).andThen fun _ _ => agree_produce hcall (hfallback result rfl) hvalue hextra
    | none => exact (hreport _).andThen fun _ _ => .fail _

end

/-- That an action asks only for patterns and calls of what has references in `R`, passes on only what has references in
`D`, and answers within `R`. -/
def Action.Within (R D : Reference → Prop) : Action → Prop
  | .done v => v.Within R
  | .fail _ => True
  | .call callee arguments next =>
    callee.Within R ∧ (∀ v ∈ arguments, v.Within D) ∧ ∀ v, v.Within R → (next v).Within R D
  | .lookup handle next => R (.handle handle) ∧ ∀ v, v.Within R → (next v).Within R D

/-- That functions, classes and queries reach and yield nothing beyond given references: functions call within `R`, and
pass on only what they are called with, as far as references go. -/
structure Library.ContainedIn (R D : Reference → Prop) (lib : Library) : Prop where
  meaning : ∀ f arguments, (Value.function f).Within R → (∀ v ∈ arguments, v.Within D) →
    (lib.meaning f arguments).Within R D
  create : ∀ summaries c arguments, (∀ v ∈ arguments, v.Within D) →
    Ensures (Value.Within R) (lib.create summaries c arguments)
  create_congr : ∀ summaries summaries' c arguments, (∀ v ∈ arguments, v.Within D) →
    (∀ id, D (.builder id) → summaries' id = summaries id) →
    lib.create summaries' c arguments = lib.create summaries c arguments
  selects : ∀ source extended v, v.Within D → Ensures (Value.Within D) (lib.select source extended v)

namespace Environment
variable {env env' : Environment}

/-- That two environments have one library, the same patterns behind references in `R`, no references behind these but
others in `R`, and that `R` holds what arguments may refer to. -/
structure AgreeWithin (R D : Reference → Prop) (env env' : Environment) : Prop where
  includes : ∀ ref, D ref → R ref
  library : env'.library = env.library
  contained : env.library.ContainedIn R D
  handle? : ∀ name, R (.handle name) → env'.handle? name = env.handle? name
  builder? : ∀ id, R (.builder id) → env'.builder? id = env.builder? id
  within_handle : ∀ name v, R (.handle name) → env.handle? name = some v → v.Within R
  within_builder : ∀ id b, R (.builder id) → env.builder? id = some b →
    (∀ c ∈ b.clauses, c.1.Within R ∧ c.2.Within R) ∧ ∀ v, b.fallback = some v → v.Within R

theorem AgreeWithin.carryOut (h : AgreeWithin R D env env') (hcall : K.AgreeWithin R D call call') {action : Action}
    (haction : action.Within R D) :
    K.Agree (Value.Within R) (env.carryOut call action) (env'.carryOut call' action) := by
  induction action with
  | done v => exact .ok haction
  | fail e => exact .fail e
  | call callee arguments next ih =>
    obtain ⟨hcallee, harguments, hnext⟩ := haction
    exact (hcall.answer callee arguments hcallee harguments).andThen fun v hv => ih v (hnext v hv)
  | lookup handle next ih =>
    obtain ⟨hhandle, hnext⟩ := haction
    have hsame := h.handle? handle hhandle
    rw [Environment.carryOut, Environment.carryOut, hsame]
    split
    · rename_i v hv
      exact ih v (hnext v (h.within_handle handle v hhandle hv))
    · exact .fail _

theorem AgreeWithin.create (h : AgreeWithin R D env env') (c : Class) {arguments : List Value}
    (harguments : ∀ v ∈ arguments, v.Within D) :
    K.Agree (Value.Within R) (.ofExcept (env.library.create env.summaries c arguments))
      (.ofExcept (env'.library.create env'.summaries c arguments)) := by
  have hsummaries : ∀ id, D (.builder id) → env'.summaries id = env.summaries id := by
    intro id hid
    rw [summaries, summaries, h.builder? id (h.includes _ hid)]
  rw [h.library, h.contained.create_congr env.summaries env'.summaries c arguments harguments hsummaries]
  exact .refl (h.contained.create env.summaries c arguments harguments)

theorem agree_dispatchArguments (hcall : K.AgreeWithin R D call call') {clauses : List Clause} {fallback : Option Value}
    (hclauses : ∀ c ∈ clauses, c.1.Within R ∧ c.2.Within R) (hfallback : ∀ v, fallback = some v → v.Within R)
    {arguments : List Value} (harguments : ∀ v ∈ arguments, v.Within D) :
    K.Agree (Value.Within R) (dispatchArguments call clauses fallback arguments)
      (dispatchArguments call' clauses fallback arguments) := by
  cases arguments with
  | nil => exact .fail _
  | cons value extra =>
    obtain ⟨hvalue, hextra⟩ := List.forall_mem_cons.mp harguments
    exact agree_dispatch hcall hclauses hfallback hvalue hextra

theorem ensures_answerOfObject {id : Nat} {c : Class} {own : List (String × Value)}
    (h : (Value.object id c own).Within R) : Ensures (Value.Within R) (answerOfObject c own).result := by
  unfold answerOfObject
  split
  · exact ensures_error _
  · split
    · rename_i name _ _ v hv
      obtain ⟨before, after, hown, -⟩ := List.lookup_eq_some_iff.mp hv
      exact ensures_ok (Value.within_object.mp h (name, v) (by simp [hown]))
    · exact ensures_error _

/-- Where calls agree, so do the answers that are made by such calls. -/
theorem AgreeWithin.answer (h : AgreeWithin R D env env') (hcall : K.AgreeWithin R D call call') {callee : Value}
    {arguments : List Value} (hcallee : callee.Within R) (harguments : ∀ v ∈ arguments, v.Within D) :
    K.Agree (Value.Within R) (env.answer call callee arguments) (env'.answer call' callee arguments) := by
  cases callee with
  | function f =>
    have hmeaning := h.contained.meaning f arguments hcallee harguments
    rw [Environment.answer, Environment.answer, h.library]
    exact h.carryOut hcall hmeaning
  | cls c => exact h.create c harguments
  | object id c own => exact .refl (ensures_answerOfObject hcallee)
  | builder id =>
    have hid := Value.within_builder.mp hcallee
    have hsame := h.builder? id hid
    simp only [Environment.answer, hsame]
    split
    · rename_i b hb
      obtain ⟨hclauses, hfallback⟩ := h.within_builder id b hid hb
      exact agree_dispatchArguments hcall hclauses hfallback harguments
    · exact .fail _
  | closed id clauses fallback =>
    obtain ⟨hclauses, hfallback⟩ := Value.within_closed.mp hcallee
    exact agree_dispatchArguments hcall hclauses hfallback harguments
  | matcher m =>
    -- A matcher answers one argument by its test, apart from the one that accepts whatever it is called with.
    rcases arguments with _ | ⟨v, _ | ⟨w, rest⟩⟩
    · cases m with
      | always => exact .ok (Value.within_bool true)
      | _ => exact .fail _
    · have htest := Matcher.agree_test hcall m v (Value.within_matcher.mp hcallee) (harguments v List.mem_cons_self)
      cases m with
      | always => exact .ok (Value.within_bool true)
      | _ => exact htest.andThen fun verdict _ => .ok (Value.within_bool verdict)
    · cases m with
      | always => exact .ok (Value.within_bool true)
      | _ => exact .fail _
  | _ => exact .fail _

/-- Environments that agree search and select alike, whatever answers the calls. -/
theorem AgreeWithin.caller (h : AgreeWithin R D env env') {answer answer' : Value → List Value → Outcome Value}
    (hanswer : ∀ callee arguments, callee.Within R → (∀ v ∈ arguments, v.Within D) →
      K.Agree (Value.Within R) (answer callee arguments) (answer' callee arguments)) :
    K.AgreeWithin R D (env.caller answer) (env'.caller answer') where
  answer := hanswer
  search := by rw [Environment.caller, Environment.caller, h.library]
  select := by rw [Environment.caller, Environment.caller, h.library]
  selects := h.contained.selects

end Environment

end Clausewise
