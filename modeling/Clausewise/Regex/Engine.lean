import Clausewise.Regex.CharSet
/-!
Searching. An expression is tried by backtracking: each node hands every way in which it can match, in
order of preference, to what follows it. The expressions of a lookbehind run backwards from the position.
-/

namespace Clausewise

/-- The subject of a search, as code points. -/
abbrev Subject := Array Nat

/-- How far a match has come: the position, and the span of each group that has matched, latest first. -/
structure Progress where
  position : Nat
  groups : List (Nat × Nat × Nat)
deriving Inhabited

namespace Progress

/-- The span of a group, if it has matched. -/
def span? (p : Progress) (index : Nat) : Option (Nat × Nat) := p.groups.lookup index

end Progress

namespace Anchor

/-- Whether the character at an index is of a word. -/
def isWordAt (s : Subject) (ascii : Bool) (i : Nat) : Bool :=
  match s[i]? with
  | some c => CharFamily.word.contains c && (!ascii || c < 0x80)
  | none => false

/-- Whether the character before an index is of a word. -/
def isWordBefore (s : Subject) (ascii : Bool) (i : Nat) : Bool := i != 0 && isWordAt s ascii (i - 1)

/-- Whether the condition holds at a position. -/
def holds (s : Subject) (i : Nat) : Anchor → Bool
  | textStart => i = 0
  | textEnd => i = s.size
  | finalLineEnd => i = s.size || (i + 1 = s.size && s[i]? == some 0x0a)
  | lineStart => i = 0 || s[i - 1]? == some 0x0a
  | lineEnd => i = s.size || s[i]? == some 0x0a
  | wordBoundary ascii negated => (isWordBefore s ascii i != isWordAt s ascii i) != negated
  | wordStart ascii => !isWordBefore s ascii i && isWordAt s ascii i
  | wordEnd ascii => isWordBefore s ascii i && !isWordAt s ascii i

end Anchor

namespace Regex

/-- What follows a match. -/
abbrev Continuation := Progress → Option Progress

/-- Moves over one accepted character, forwards or backwards. -/
def step (s : Subject) (backward : Bool) (accepts : Nat → Bool) (p : Progress) (next : Continuation) :
    Option Progress :=
  if backward then
    if p.position = 0 then none
    else
      match s[p.position - 1]? with
      | some c => if accepts c then next { p with position := p.position - 1 } else none
      | none => none
  else
    match s[p.position]? with
    | some c => if accepts c then next { p with position := p.position + 1 } else none
    | none => none

/-- Whether `length` characters from `i` and from `j` are the same. -/
def sameSlice (s : Subject) (rule : CaseRule) (i j : Nat) : Nat → Bool
  | 0 => true
  | length + 1 =>
    match s[i]?, s[j]? with
    | some c, some d => rule.same c d && sameSlice s rule (i + 1) (j + 1) length
    | _, _ => false

/-- Moves over the text that a group has matched. -/
def repeatGroup (s : Subject) (backward : Bool) (rule : CaseRule) (span : Nat × Nat) (p : Progress)
    (next : Continuation) : Option Progress :=
  let length := span.2 - span.1
  if backward then
    if length ≤ p.position && sameSlice s rule span.1 (p.position - length) length then
      next { p with position := p.position - length }
    else none
  else if sameSlice s rule span.1 p.position length then next { p with position := p.position + length }
  else none

/-- Rounds of a repetition: at least `low`, at most `high` more. A round beyond the least number that moves
nowhere is the last one. -/
def rounds (body : Progress → Continuation → Option Progress) (preference : Preference) :
    Nat → Nat → Option Nat → Progress → Continuation → Option Progress
  | 0, _, _, p, next => next p
  | fuel + 1, low + 1, high, p, next =>
    body p fun q => rounds body preference fuel low (high.map (· - 1)) q next
  | fuel + 1, 0, high, p, next =>
    if high = some 0 then next p
    else
      let again : Unit → Option Progress := fun _ => body p fun q =>
        if q.position = p.position then none
        else rounds body preference fuel 0 (high.map (· - 1)) q next
      match preference with
      | .greedy =>
        match again () with
        | some q => some q
        | none => next p
      | .lazy =>
        match next p with
        | some q => some q
        | none => again ()

/-- Tries an expression at a position, and hands each way to match it to what follows. -/
def run (s : Subject) : Regex → Bool → Progress → Continuation → Option Progress
  | empty, _, p, next => next p
  | fail, _, _, _ => none
  | set cs, backward, p, next => step s backward cs.accepts p next
  | cat a b, backward, p, next =>
    if backward then run s b backward p fun q => run s a backward q next
    else run s a backward p fun q => run s b backward q next
  | alt a b, backward, p, next =>
    match run s a backward p next with
    | some q => some q
    | none => run s b backward p next
  | group index body, backward, p, next =>
    run s body backward p fun q =>
      next { q with groups := (index, min p.position q.position, max p.position q.position) :: q.groups }
  | .repeat low high preference body, backward, p, next =>
    rounds (fun q k => run s body backward q k) preference (low + s.size + 2) low (high.map (· - low)) p next
  | atomic body, backward, p, next =>
    match run s body backward p some with
    | some q => next q
    | none => none
  | look behind negated body, _, p, next =>
    match run s body behind p some with
    | some q => if negated then none else next { q with position := p.position }
    | none => if negated then next p else none
  | backreference index rule, backward, p, next =>
    match p.span? index with
    | some span => repeatGroup s backward rule span p next
    | none => none
  | conditional index yes no, backward, p, next =>
    if (p.span? index).isSome then run s yes backward p next else run s no backward p next
  | anchor a, _, p, next => if a.holds s p.position then next p else none

/-- Whether the expression matches somewhere, looking from `start` on at so many positions. -/
def searchFrom (r : Regex) (s : Subject) (start : Nat) : Nat → Bool
  | 0 => false
  | count + 1 =>
    (r.run s false ⟨start, []⟩ some).isSome || searchFrom r s (start + 1) count

/-- Whether the expression matches somewhere in the subject. -/
def search (r : Regex) (s : Subject) : Bool := searchFrom r s 0 (s.size + 1)

end Regex

end Clausewise
