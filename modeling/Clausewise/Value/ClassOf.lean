import Clausewise.Classes
import Clausewise.Failure
/-!
The class of each value, and with it which values are instances of a class.
-/

namespace Clausewise

def Matcher.classOf (m : Matcher) : Class :=
  .derived "declarative_pattern.matchers" m.className [.patternMatcher]

namespace Value

def numberClass : Number → Class
  | .int _ => .int
  | .float _ => .float
  | .complex .. => .complex
  | .decimal _ => .decimal
  | .fraction _ => .fraction

def sequenceClass : SequenceShape → Class
  | .list => .list
  | .tuple => .tuple
  | .point => .point
  | .deque => .deque
  | .wrappedList => .userList

def mappingClass : MappingShape → Class
  | .plain => .dict
  | .ordered => .orderedDict
  | .counter => .counter
  | .defaulting => .defaultDict
  | .wrapped => .userDict
  | .readOnly => .mappingProxy

/-- The class of a value whose outermost shape shows. -/
def shownClass : Value → Class
  | null => .nullClass
  | undefined => .undefinedClass
  | bool _ => .bool
  | number n => numberClass n
  | text _ => .str
  | derivedText _ => .derivedText
  | kind _ => .kind
  | bytes _ => .bytes
  | buffer shape _ => if shape = .array then .bytearray else .memoryview
  | sequence shape _ => sequenceClass shape
  | range .. => .range
  | set frozen _ => if frozen then .frozenset else .set
  | mapping shape _ => mappingClass shape
  | layers _ => .chainMap
  | moment _ time => if time.isSome then .datetime else .date
  | object _ c _ => c
  | fault _ c _ _ => c
  | cls _ => .type
  | category _ => .category
  | function f => if f.builtIn then .builtinFunction else .function
  | regex p => match p.dialect with | .standard => .standardRegex | .extended => .extendedRegex
  | matcher m => m.classOf
  | constant _ => .constant
  | builder _ => .pattern
  | closed .. => .closedPattern
  | cyclic _ => .object
  | back _ => .object

def classOf (v : Value) : Class := v.expose.shownClass

/-- Whether a value counts as an instance of a class, or why the class does not say. -/
def isInstance (v : Value) (c : Class) : Except Refusal Bool := v.classOf.countsAs c

/-- Whether a value counts as an instance of one of some classes. They are asked one after the other, up to the first
that says yes or refuses to answer. -/
def isInstanceOfAny (v : Value) : List Class → Except Failure Bool
  | [] => .ok false
  | c :: cs =>
    match v.isInstance c with
    | .ok true => .ok true
    | .ok false => v.isInstanceOfAny cs
    | .error refusal => .error (.complaint refusal.complaint)

/-- Whether a value can be called. -/
def isCallable : Value → Bool
  | function _ => true
  | cls _ => true
  | matcher _ => true
  | builder _ => true
  | closed .. => true
  | object _ c _ => c.traits.answersWith.isSome
  | _ => false

end Value

end Clausewise
