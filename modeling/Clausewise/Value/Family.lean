import Clausewise.Value.ClassOf
/-!
Strict equality, by which literals match, and membership in the categories. Both keep the families of values
apart: a truth value is no number, and a text is never equal to bytes.
-/

namespace Clausewise

namespace Value

/-- Whether two values of one of the literal families are equal. Values of different families, truth values
and numbers among them, never are, and neither are values of no literal family. -/
def strictEqual : Value → Value → Except ComparisonFault Bool
  | null, v => .ok (match v with | null => true | _ => false)
  | undefined, v => .ok (match v with | undefined => true | _ => false)
  | bool a, v => .ok (match v with | bool b => a == b | _ => false)
  | number m, v =>
    match v with
    | number n => liftNumbers (n.equal m)
    | _ => .ok false
  | expected, v =>
    match expected.text?, v.text?, expected.bytes?, v.bytes? with
    | some s, some t, _, _ => .ok (t == s)
    | _, _, some s, some t => .ok (t == s)
    | _, _, _, _ => .ok false

/-- A text is strictly equal to the texts with the same content. -/
theorem strictEqual_of_text? {a : Value} {s : String} (h : a.text? = some s) (v : Value) :
    a.strictEqual v = .ok (v.text? == some s) := by
  cases a with
  | text | derivedText | kind =>
    simp only [strictEqual, h]
    cases v.text? <;> rfl
  | _ => cases h

theorem strictEqual_of_bytes? {a : Value} {content : List UInt8} (h : a.bytes? = some content)
    (v : Value) : a.strictEqual v = .ok (v.bytes? == some content) := by
  cases a with
  | bytes =>
    simp only [strictEqual, h]
    cases v.bytes? <;> rfl
  | _ => cases h

end Value

namespace Category

def contains : Category → Value → Bool
  | sequence, v => v.isSequence
  | boolean, v => v.isBool || v.isMadeFrom .bool
  | error, v => v.isFault
  | number, v => (v.isNumeric || v.isMadeFrom .number) && !(v.isBool || v.isMadeFrom .bool)
  | object, v => v.isObject
  | string, v => v.isText || v.isMadeFrom .str

end Category

end Clausewise
