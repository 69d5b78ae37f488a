import Clausewise.Query.Evaluate
import Clausewise.Query.Reader

/-! Dotted paths as queries. Plain names with dots between them are read as the fields of one value after the other, and
evaluating the query looks these fields up. -/
namespace Clausewise

namespace QueryToken
variable {k : String} {ks : List String} {cs rest : List Char} {ts : List QueryToken} {c : Char} {fuel : Nat}

/-- Whether a text is a plain name: a letter or an underscore, and then letters, digits and underscores. -/
def isName (s : String) : Bool :=
  match s.toList with
  | [] => false
  | c :: cs => startsName c && cs.all continuesName

/-- The tokens of names that follow a dot each. -/
def steps (ks : List String) : List QueryToken := ks.flatMap fun k => [dot, name k]

/-- The text of names that follow a dot each. -/
def dotted (ks : List String) : List Char := ks.flatMap fun k => '.' :: k.toList

theorem not_isDigit_of_startsName (h : startsName c = true) : c.isDigit = false := by
  have hupper (h : c.isUpper = true) : 'A'.toNat ≤ c.toNat := UInt32.le_iff_toNat_le.mp (of_decide_eq_true h).1
  have hlower (h : c.isLower = true) : 'a'.toNat ≤ c.toNat :=
    UInt32.le_iff_toNat_le.mp (of_decide_eq_true (Bool.and_eq_true_iff.mp h).1)
  have hcodes : '9'.toNat < 'A'.toNat ∧ '9'.toNat < 'a'.toNat ∧ '9'.toNat < '_'.toNat := by decide
  rw [startsName, Bool.or_eq_true, decide_eq_true_iff] at h
  rw [Bool.eq_false_iff, Ne, Char.isDigit_iff_toNat]
  rcases h with halpha | rfl
  · rcases Bool.or_eq_true_iff.mp halpha with h | h
    · have := hupper h
      omega
    · have := hlower h
      omega
  · omega

theorem continuesName_of_startsName (h : startsName c = true) : continuesName c = true := by
  rw [startsName, Bool.or_eq_true] at h
  rw [continuesName, Bool.or_eq_true]
  exact h.imp_left fun halpha => by rw [Char.isAlphanum, halpha, Bool.true_or]

theorem exists_chars_of_isName (hk : isName k = true) :
    ∃ c cs, k.toList = c :: cs ∧ startsName c = true ∧ ∀ d ∈ cs, continuesName d = true := by
  unfold isName at hk
  split at hk
  · cases hk
  · rename_i c cs hchars
    obtain ⟨hstart, hgoes⟩ := Bool.and_eq_true_iff.mp hk
    exact ⟨c, cs, hchars, hstart, List.all_eq_true.mp hgoes⟩

/-- What starts a name is read as the name that it starts. -/
theorem readOne_of_startsName (h : startsName c = true) (rest : List Char) :
    readOne c rest =
      .ok (name (String.ofList ((c :: rest).takeWhile continuesName)), rest.dropWhile continuesName) := by
  unfold readOne
  -- The characters that other tokens start with start no name.
  split
  case h_21 =>
    have hquote : c ≠ Char.ofNat 96 := by
      rintro rfl
      exact absurd h (by decide)
    rw [if_neg hquote, not_isDigit_of_startsName h, h]
    rfl
  all_goals exact absurd h (by decide)

theorem readAll_name (hk : isName k = true) (hrest : ∀ c ∈ rest.head?, continuesName c = false)
    (h : readAll fuel rest = .ok ts) : readAll (fuel + 1) (k.toList ++ rest) = .ok (name k :: ts) := by
  obtain ⟨c, cs, hchars, hstart, hgoes⟩ := exists_chars_of_isName hk
  have hall : ∀ d ∈ c :: cs, continuesName d = true :=
    List.forall_mem_cons.mpr ⟨continuesName_of_startsName hstart, hgoes⟩
  have hstop : rest.takeWhile continuesName = [] ∧ rest.dropWhile continuesName = rest := by
    cases rest with
    | nil => exact ⟨rfl, rfl⟩
    | cons d rest => simp [hrest d rfl]
  have hone : readOne c (cs ++ rest) = .ok (name k, rest) := by
    rw [readOne_of_startsName hstart, ← List.cons_append, List.takeWhile_append_of_pos hall,
      List.dropWhile_append_of_pos hgoes, hstop.1, hstop.2, List.append_nil, ← hchars, String.ofList_toList]
  have hblank : ¬ (c = ' ' ∨ c = '\t' ∨ c = '\n' ∨ c = '\r') := by
    rintro (rfl | rfl | rfl | rfl) <;> exact absurd hstart (by decide)
  rw [hchars, List.cons_append, readAll, if_neg hblank, hone]
  simp only [bind, Except.bind, h]
  rfl

theorem readAll_dot (h : readAll fuel rest = .ok ts) : readAll (fuel + 1) ('.' :: rest) = .ok (dot :: ts) := by
  rw [readAll, if_neg (by decide), readOne]
  simp only [bind, Except.bind, h]
  rfl

theorem not_continuesName_head_dotted (ks : List String) : ∀ c ∈ (dotted ks).head?, continuesName c = false := by
  cases ks with
  | nil => exact nofun
  | cons k ks => rintro _ ⟨⟩; rfl

theorem readAll_dotted (hks : ∀ k ∈ ks, isName k = true) (hfuel : 2 * ks.length ≤ fuel) :
    readAll fuel (dotted ks) = .ok (steps ks ++ [finish]) := by
  induction ks generalizing fuel with
  | nil => cases fuel <;> rfl
  | cons k ks ih =>
    obtain ⟨hk, hks⟩ := List.forall_mem_cons.mp hks
    rw [List.length_cons] at hfuel
    obtain ⟨fuel, rfl⟩ : ∃ more, fuel = more + 2 := ⟨fuel - 2, by omega⟩
    exact readAll_dot (readAll_name hk (not_continuesName_head_dotted ks) (ih hks (by omega)))

theorem length_steps (ks : List String) : (steps ks).length = 2 * ks.length := by
  induction ks with
  | nil => rfl
  | cons k ks ih =>
    rw [steps, List.flatMap_cons, List.length_append, ← steps, ih, List.length_cons, List.length_cons,
      List.length_cons, List.length_nil]
    omega

theorem length_pos_of_isName (hk : isName k = true) : 0 < k.toList.length := by
  obtain ⟨c, cs, hchars, -⟩ := exists_chars_of_isName hk
  rw [hchars]
  exact Nat.succ_pos _

theorem length_dotted_le (hks : ∀ k ∈ ks, isName k = true) : 2 * ks.length ≤ (dotted ks).length := by
  induction ks with
  | nil => exact Nat.le_refl 0
  | cons k ks ih =>
    obtain ⟨hk, hks⟩ := List.forall_mem_cons.mp hks
    have hlength : (dotted (k :: ks)).length = k.toList.length + 1 + (dotted ks).length := by
      rw [dotted, List.flatMap_cons, List.length_append, List.length_cons, dotted]
    have hpos := length_pos_of_isName hk
    have hrest := ih hks
    rw [List.length_cons]
    omega

theorem toList_intercalate (k : String) (ks : List String) :
    (".".intercalate (k :: ks)).toList = k.toList ++ dotted ks := by
  rw [String.toList_intercalate]
  induction ks generalizing k with
  | nil => simp [dotted]
  | cons l ks ih =>
    rw [List.map_cons, List.map_cons, List.intercalate_cons_cons, ← List.map_cons, ih, dotted, dotted,
      List.flatMap_cons, List.append_assoc]
    rfl

/-- Plain names with dots between them have the tokens of the names and the dots. -/
theorem ofText_intercalate (hk : isName k = true) (hks : ∀ k ∈ ks, isName k = true) :
    ofText (".".intercalate (k :: ks)) = .ok (name k :: (steps ks ++ [finish])) := by
  have hchars := toList_intercalate k ks
  have hlength : 0 < (".".intercalate (k :: ks)).length ∧ 2 * ks.length ≤ (".".intercalate (k :: ks)).length := by
    have hpos := length_pos_of_isName hk
    have hsteps := length_dotted_le hks
    rw [← String.length_toList, hchars, List.length_append]
    omega
  have hne : ¬ (".".intercalate (k :: ks)).isEmpty = true := by
    intro hempty
    rw [String.isEmpty_iff] at hempty
    rw [hempty] at hlength
    exact absurd hlength.1 (by decide)
  rw [ofText, if_neg hne, hchars]
  exact readAll_name hk (not_continuesName_head_dotted ks) (readAll_dotted hks hlength.2)

end QueryToken

namespace Query
open QueryToken
variable {k : String} {ks : List String} {t : QueryToken} {left : Query} {fuel power : Nat}

/-- The query for one field after the other of what a query selects. -/
def follow (q : Query) (ks : List String) : Query := ks.foldl (fun q k => .sub q (.field k)) q

/-- Nothing more is read before a token that does not bind tighter. -/
theorem readRest_of_power_le (h : t.power ≤ power) (left : Query) (fuel : Nat) (ts : List QueryToken) :
    readRest power left (fuel + 1) (t :: ts) = .ok (left, t :: ts) := by
  rw [readRest]
  show (if power < t.power then _ else _ : Read Query) (t :: ts) = _
  rw [if_neg (Nat.not_lt.mpr h)]
  rfl

theorem readExpression_name (power fuel : Nat) (k : String) (t : QueryToken) (ts : List QueryToken) :
    readExpression power (fuel + 2) (name k :: t :: ts) = readRest power (.field k) (fuel + 1) (t :: ts) := rfl

/-- After a dot a name is read up to the next operator. -/
theorem readOperator_dot (ht : t.power ≤ dot.power) (left : Query) (fuel : Nat) (k : String) (ts : List QueryToken) :
    readOperator dot left (fuel + 5) (name k :: t :: ts) = .ok (.sub left (.field k), t :: ts) := by
  have hname : readExpression dot.power (fuel + 3) (name k :: t :: ts) = .ok (.field k, t :: ts) :=
    (readExpression_name ..).trans (readRest_of_power_le ht ..)
  show (readExpression dot.power (fuel + 3) (name k :: t :: ts) >>= fun p => .ok (left.sub p.1, p.2)) = _
  rw [hname]
  rfl

theorem readRest_dot (ht : t.power ≤ dot.power) (left : Query) (fuel : Nat) (k : String) (ts : List QueryToken) :
    readRest 0 left (fuel + 6) (dot :: name k :: t :: ts) = readRest 0 (.sub left (.field k)) (fuel + 5) (t :: ts) := by
  show (readOperator dot left (fuel + 5) (name k :: t :: ts) >>= fun p => readRest 0 p.1 (fuel + 5) p.2) = _
  rw [readOperator_dot ht]
  rfl

theorem exists_head_steps (ks : List String) : ∃ t ts, steps ks ++ [finish] = t :: ts ∧ t.power ≤ dot.power := by
  cases ks with
  | nil => exact ⟨finish, [], rfl, by decide⟩
  | cons k ks => exact ⟨dot, _, rfl, Nat.le_refl _⟩

/-- Names that follow a dot each are read as one field after the other. -/
theorem readRest_steps (ks : List String) (left : Query) (hfuel : ks.length + 5 ≤ fuel) :
    readRest 0 left fuel (steps ks ++ [finish]) = .ok (left.follow ks, [finish]) := by
  induction ks generalizing left fuel with
  | nil =>
    obtain ⟨fuel, rfl⟩ : ∃ more, fuel = more + 1 := ⟨fuel - 1, by omega⟩
    exact readRest_of_power_le (Nat.le_refl 0) left fuel []
  | cons k ks ih =>
    rw [List.length_cons] at hfuel
    obtain ⟨fuel, rfl⟩ : ∃ more, fuel = more + 6 := ⟨fuel - 6, by omega⟩
    obtain ⟨t, ts, hsteps, ht⟩ := exists_head_steps ks
    have hfirst : steps (k :: ks) ++ [finish] = dot :: name k :: t :: ts := by
      rw [← hsteps]
      rfl
    rw [hfirst, readRest_dot ht, ← hsteps, ih _ (by omega)]
    rfl

/-- A dotted path of plain names is the query for one field after the other. -/
theorem ofText_intercalate (hk : isName k = true) (hks : ∀ k ∈ ks, isName k = true) :
    ofText (".".intercalate (k :: ks)) = .ok (follow (.field k) ks) := by
  have hlength : (steps ks ++ [finish]).length = 2 * ks.length + 1 := by
    rw [List.length_append, length_steps]
    rfl
  obtain ⟨fuel, hfuel⟩ : ∃ fuel, 6 * (name k :: (steps ks ++ [finish])).length + 6 = fuel + 2 := ⟨_, rfl⟩
  have hread : readExpression 0 (fuel + 2) (name k :: (steps ks ++ [finish])) =
      .ok (follow (.field k) ks, [finish]) := by
    obtain ⟨t, ts, hsteps, -⟩ := exists_head_steps ks
    rw [List.length_cons, hlength] at hfuel
    rw [hsteps, readExpression_name, ← hsteps]
    exact readRest_steps ks (.field k) (by omega)
  rw [ofText, QueryToken.ofText_intercalate hk hks]
  show (readExpression 0 (6 * _ + 6) _ >>= _) = _
  rw [hfuel, hread]
  rfl

theorem evaluate_follow (extended : Bool) (q : Query) (ks : List String) (v : Value) :
    (q.follow ks).evaluate extended v = (q.evaluate extended v).map fun w => ks.foldl fieldOf w := by
  induction ks generalizing q with
  | nil =>
    rw [follow, List.foldl_nil]
    cases q.evaluate extended v <;> rfl
  | cons k ks ih =>
    rw [follow, List.foldl_cons, ← follow, ih, evaluate]
    cases q.evaluate extended v <;> rfl

end Query

end Clausewise
