import Clausewise.Kind.BuiltIn
/-!
Ready-made parts for further kinds of pattern: tests that accept specs, and plans that compile them.
-/

namespace Clausewise.Stock

/-- Accepts every spec. -/
def acceptsAll : Value → Except Failure Bool := fun _ => .ok true

def acceptsNone : Value → Except Failure Bool := fun _ => .ok false

def acceptsStart (start : String) : Value → Except Failure Bool := fun spec =>
  .ok (match spec.text? with
    | some s => start.toList.isPrefixOf s.toList
    | none => false)

def acceptsInstances (c : Class) : Value → Except Failure Bool := fun spec => spec.isInstanceOfAny [c]

def failsToDecide : Value → Except Failure Bool := fun _ =>
  .error (.complaint ⟨.badValue, some "detector failed"⟩)

/-- The same answer for every value. -/
def planVerdict (answer : Bool) : Int → Value → Plan := fun _ _ => .done (.verdict answer)

/-- A test for the depth of the spec. -/
def planDepth : Int → Value → Plan := fun depth _ => .done (.depth depth)

/-- A range between the attributes `low` and `high` of the spec. -/
def planInterval : Int → Value → Plan := fun _ spec =>
  match spec.attributes.lookup "low", spec.attributes.lookup "high" with
  | some low, some high => .done (.between low high)
  | _, _ => .fail .noSuchOperation

/-- Everything but the first item of a value that can be cut. -/
def tail? (v : Value) : Option Value :=
  match v.expose with
  | .text s | .derivedText s => some (.text (String.ofList (s.toList.drop 1)))
  | .kind k => some (.text (String.ofList (k.word.toList.drop 1)))
  | .bytes content => some (.bytes (content.drop 1))
  | .buffer .array content => some (.buffer .array (content.drop 1))
  | .buffer .view content => some (.buffer .view (content.drop 1))
  | .sequence .list items => some (.list (items.drop 1))
  | .sequence .wrappedList items => some (.sequence .wrappedList (items.drop 1))
  | .sequence .tuple items | .sequence .point items => some (.tuple (items.drop 1))
  | .range start stop step =>
    some (if Value.rangeLength start stop step = 0 then .range start stop step
      else .range (start + step) stop step)
  | _ => none

/-- The opposite of what the spec without its first item means. -/
def planNotTail : Int → Value → Plan := fun _ spec =>
  match tail? spec with
  | some rest => .child rest fun m => .done (.negation m)
  | none => .fail (.complaint .types)

def planLiteral : Int → Value → Plan := fun _ spec => .done (.literal spec)

def failsToCompile : Int → Value → Plan := fun _ _ =>
  .fail (.complaint ⟨.badValue, some "compiler failed"⟩)

end Clausewise.Stock
