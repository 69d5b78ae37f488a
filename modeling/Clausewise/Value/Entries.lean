import Clausewise.Classes
import Clausewise.Value.Key
/-!
Entries. Every object value can be addressed by keys: a mapping by its own, a sequence by its indices, any
other value by the names of its attributes. A mapping pattern sees a value only through `entryCount` and
`entry?`.
-/

namespace Clausewise.Value

/-- The entries of a mapping with one shape. -/
def ownEntries (v : Value) : List (Value × Value) :=
  match v.expose with
  | mapping _ entries => entries
  | _ => []

/-- What a mapping with one shape answers for a key. Counters and defaulting mappings answer zero for a key that
they do not have. -/
def ownAnswer? (v k : Value) : Option Value :=
  match v.expose with
  | mapping .counter entries | mapping .defaulting entries => some ((lookup entries k).getD (int 0))
  | mapping _ entries => lookup entries k
  | _ => none

/-- Whether a mapping makes a value up, and keeps it, for a key that it lacks. -/
def isDefaulting (v : Value) : Bool :=
  match v.expose with
  | mapping .defaulting _ => true
  | _ => false

mutual

/-- Whether looking keys up leaves a value as it is. A mapping is only asked for keys that it has, but layers then ask
each of their maps, and a defaulting one keeps what it makes up. What layers do with maps that are no mappings is not
told. -/
def keepsEntries : Value → Bool
  | layers maps => layersKeepEntries maps
  | _ => true

def layersKeepEntries : List Value → Bool
  | [] => true
  | m :: ms =>
    (match m.expose with
    | mapping shape _ => shape != .defaulting
    | layers _ => m.keepsEntries
    | _ => false) && layersKeepEntries ms

end

mutual

/-- What a mapping answers for a key: layers as the first of them that answers. -/
def answer? : Value → Value → Option Value
  | layers maps, k => firstAnswer? maps k
  | v, k => v.ownAnswer? k

/-- What the first of some mappings that answers for a key answers. -/
def firstAnswer? : List Value → Value → Option Value
  | [], _ => none
  | m :: ms, k => (m.answer? k).or (firstAnswer? ms k)

end

mutual

/-- The entries of a mapping of any kind. In layers the keys of later mappings come first, each with what the
layers answer for it. -/
def mappingEntries : Value → List (Value × Value)
  | layers maps =>
    (collectEntries (stackedEntries maps)).map fun e => (e.1, (firstAnswer? maps e.1).getD e.2)
  | v => v.ownEntries

/-- The entries of mappings one after the other, from the last mapping to the first. -/
def stackedEntries : List Value → List (Value × Value)
  | [] => []
  | m :: ms => stackedEntries ms ++ m.mappingEntries

end

/-- The entries of a mapping, in the order in which they are iterated. -/
def entries? (v : Value) : Option (List (Value × Value)) :=
  match v.expose with
  | mapping _ entries => some entries
  | layers maps => some (layers maps).mappingEntries
  | _ => none

def named (attributes : List (String × Value)) : List (Value × Value) :=
  attributes.map fun a => (text a.1, a.2)

/-- The function that decides membership in a category. -/
def membershipTest : Category → FunctionName
  | .sequence => { name := "is_sequence" }
  | .number => { name := "_is_number" }
  | .object => { name := "is_object" }
  | .boolean | .error | .string => { name := "<lambda>" }

/-- The name under which a matcher keeps each of its parts, with the part. -/
def matcherAttributes : Matcher → List (String × Value)
  | .always => []
  | .literal expected => [("_expected", expected)]
  | .sequence items => [("_items", tuple (items.map matcher))]
  | .mapping fields => [("_fields", tuple (fields.map fun f => tuple [f.1, matcher f.2]))]
  | .regex pattern limit =>
    [("_source", regex pattern), ("_compiled", regex { pattern with dialect := .extended }),
      ("_subject_type", cls (if pattern.overBytes then .bytes else .str)), ("_timeout", limit)]
  | .instanceOf classes => [("_classes", tuple (classes.map cls))]
  | .category c => [("_category", category c), ("_test", function (membershipTest c))]
  | .predicate callee => [("_fn", callee)]
  | .anyOf ms | .allOf ms => [("_matchers", tuple (ms.map matcher))]
  | .negation inner => [("_inner", matcher inner)]
  | .query source extended inner =>
    [("_source", text source), ("_expression", object 0 .parsedQuery [("expression", text source)]),
      ("_inner", matcher inner), ("_options", if extended then object 0 .queryOptions [] else null)]
  | .comparison c bound =>
    [("_op", function { name := c.word, builtIn := true }), ("_bound", bound), ("_symbol", text c.symbol)]
  | .between low high => [("_low", low), ("_high", high)]
  | .equality expected => [("_expected", expected)]
  | .verdict answer => [("answer", bool answer)]
  | .depth d => [("depth", int d)]

/-- The attributes of a value that is neither a mapping nor a sequence. -/
def attributes : Value → List (String × Value)
  | object _ _ own => own
  | fault _ _ _ own => own
  | cls c =>
    if c.home = "__main__" then
      ("__module__", text c.home) :: c.traits.constants.map (fun e => (e.1, int e.2)) ++ [("__doc__", null)]
    else []
  | category c =>
    [("_value_", text c.word), ("_name_", text c.memberName), ("__objclass__", cls .category),
      ("_sort_order_", int (Category.all.idxOf c))]
  | matcher m => matcherAttributes m
  | constant v => [("value", v)]
  | _ => []

/-- Whether a value has attributes that only matter to the host or to this library. Those of classes and of patterns are
not told at all. -/
def hidesParts : Value → Bool
  | cls _ | category _ | matcher _ | builder _ | closed .. => true
  | _ => false

/-- How many entries a value has. -/
def entryCount (v : Value) : Nat :=
  match v.entries?, v.length? with
  | some entries, _ => entries.length
  | _, some n => n
  | _, _ => v.attributes.length

/-- The index that a key stands for, if it is the same key as a natural number. -/
def index? (k : Value) : Option Nat :=
  match k.key? with
  | some [.number (.finite re) (.finite im)] =>
    if im = 0 ∧ re.den = 1 ∧ 0 ≤ re.num then some re.num.toNat else none
  | _ => none

/-- The value that a value has under a key. -/
def entry? (v k : Value) : Option Value :=
  match v.entries?, v.length? with
  | some entries, _ => lookup entries k
  | _, some _ => k.index?.bind v.item?
  | _, _ => lookup (named v.attributes) k

end Clausewise.Value
