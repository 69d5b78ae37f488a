import Clausewise.Value.View
/-!
Keys. Two values are the same key when their canonical forms agree, so sameness of keys is an equivalence
by construction. Numbers have their exact value as form, whatever their family; texts and byte strings
their content; frozen sets the forms of their elements in one order. A value that is equal to nothing, such as an
absent number, has no form.
-/

namespace Clausewise

/-- A piece of the canonical form of a key. -/
inductive KeyAtom where
  | null
  | undefined
  | number (re im : Extended)
  | text (s : String)
  | bytes (content : List UInt8)
  | view (dimensions : List Nat) (content : List UInt8)
  | released (id : Nat)
  | range (length : Nat) (start step : Int)
  | moment (day : CalendarDay) (time : Option ClockTime)
  | cls (c : Class)
  | category (c : Category)
  | function (f : FunctionName)
  | regex (dialect : RegexDialect) (overBytes : Bool) (source : String) (flags : List RegexFlag)
  | object (id : Nat)
  | fault (id : Nat)
  | builder (id : Nat)
  | closed (id : Nat)
  | always
  | constant
  /-- A tuple with so many items, whose forms follow. -/
  | tuple (length : Nat)
  /-- A frozen set with so many elements, whose forms follow. -/
  | set (size : Nat)
deriving DecidableEq, Inhabited

namespace KeyAtom

/-- A text as numbers: its length, and its characters. -/
def textCode (s : String) : List Int := s.length :: s.toList.map fun c => (c.toNat : Int)

/-- Some numbers, after how many they are. -/
def listCode (ns : List Nat) : List Int := ns.length :: ns.map Int.ofNat

def numberCode : Extended → List Int
  | .nan => [0]
  | .negInf => [1]
  | .finite q => [2, q.num, q.den]
  | .posInf => [3]

/-- A piece of a key as numbers. Classes go by their names. -/
def code : KeyAtom → List Int
  | null => [0]
  | undefined => [1]
  | number re im => 2 :: numberCode re ++ numberCode im
  | text s => 3 :: textCode s
  | bytes content => 4 :: listCode (content.map UInt8.toNat)
  | view dimensions content => 5 :: listCode dimensions ++ listCode (content.map UInt8.toNat)
  | released id => [6, id]
  | range length start step => [7, length, start, step]
  | moment day time =>
    8 :: listCode ([day.year, day.month, day.day] ++
      (time.map fun t => [t.hour, t.minute, t.second, t.microsecond]).getD [])
  | cls c => 9 :: textCode c.home ++ textCode c.name
  | category c => 10 :: textCode c.word
  | function f => 11 :: (f.id : Int) :: textCode f.name ++ textCode (f.handle.getD "")
  | regex dialect overBytes source flags =>
    12 :: (if dialect = .standard then 0 else 1) :: (if overBytes then 1 else 0) :: textCode source ++
      listCode (flags.map RegexFlag.ctorIdx)
  | object id => [13, id]
  | fault id => [14, id]
  | builder id => [15, id]
  | closed id => [16, id]
  | always => [17]
  | constant => [18]
  | tuple length => [19, length]
  | set size => [20, size]

end KeyAtom

/-- The canonical form of a key. -/
abbrev Key := List KeyAtom

/-- Lexicographic order. -/
def codeBefore : List Int → List Int → Bool
  | [], _ => true
  | _ :: _, [] => false
  | m :: ms, n :: ns => decide (m < n) || m == n && codeBefore ms ns

namespace Value

/-- The exact value of a number as a piece of a key, unless a part of it is no number. -/
def numberAtom? (n : Number) : Option KeyAtom :=
  if n.isNaN then none else some (.number n.realPart n.imaginaryPart)

/-- A range is told by its items: none, one, or their number, first and distance. -/
def rangeAtom (start stop step : Int) : KeyAtom :=
  match rangeLength start stop step with
  | 0 => .range 0 0 0
  | 1 => .range 1 start 0
  | n => .range n start step

/-- Orders the forms of set elements, so that it does not matter in which order the set has them. -/
def keyBefore (a b : Key) : Bool := codeBefore (a.flatMap KeyAtom.code) (b.flatMap KeyAtom.code)

mutual

/-- The canonical form of a value as a key. -/
def key? : Value → Option Key
  | null => some [.null]
  | undefined => some [.undefined]
  | bool b => some [.number (.finite (if b then 1 else 0)) (.finite 0)]
  | number n => (numberAtom? n).map ([·])
  | text s | derivedText s => some [.text s]
  | kind k => some [.text k.word]
  | bytes content | buffer .view content => some [.bytes content]
  | buffer (.grid dimensions) content => some [.view dimensions content]
  | buffer (.released id) _ => some [.released id]
  | range start stop step => some [rangeAtom start stop step]
  | moment day time => some [.moment day time]
  | cls c => some [.cls c]
  | category c => some [.category c]
  | function f => some [.function f]
  | regex p => some [.regex p.dialect p.overBytes p.source p.flags]
  | object id _ _ => some [.object id]
  | fault id _ _ _ => some [.fault id]
  | builder id => some [.builder id]
  | closed id _ _ => some [.closed id]
  | matcher .always => some [.always]
  | constant v => (key? v).map (.constant :: ·)
  | sequence .tuple items | sequence .point items =>
    (keys? items).map fun ks => .tuple ks.length :: ks.flatten
  | set true elements => (keys? elements).map fun ks => .set ks.length :: (ks.mergeSort keyBefore).flatten
  | _ => none

/-- The canonical forms of all the values, if every one has a form. -/
def keys? : List Value → Option (List Key)
  | [] => some []
  | v :: vs =>
    match key? v, keys? vs with
    | some k, some ks => some (k :: ks)
    | _, _ => none

end

def sameKey (a b : Value) : Bool := a.key?.isSome && a.key? == b.key?

mutual

/-- Whether the value may be a key or an element of a set. -/
def isHashable : Value → Bool
  | number n => !n.isSignalling
  | buffer .array _ | buffer (.released _) _ => false
  | sequence .tuple items | sequence .point items => allHashable items
  | sequence .. | mapping .. | layers _ | cyclic _ | back _ => false
  | set frozen _ => frozen
  | object _ c _ | fault _ c _ _ => c.hashes
  | constant v => isHashable v
  | _ => true

def allHashable : List Value → Bool
  | [] => true
  | v :: vs => isHashable v && allHashable vs

end

def lookup (entries : List (Value × Value)) (k : Value) : Option Value :=
  (entries.find? fun e => e.1.sameKey k).map (·.2)

/-- Adds an entry; an equal key that is already there stays in its place and takes the new value. -/
def insertEntry (k v : Value) : List (Value × Value) → List (Value × Value)
  | [] => [(k, v)]
  | (k', v') :: rest => if k'.sameKey k then (k', v) :: rest else (k', v') :: insertEntry k v rest

/-- Entries in the order of their first keys, the last value under each key winning. -/
def collectEntries (entries : List (Value × Value)) : List (Value × Value) :=
  entries.foldl (fun acc e => insertEntry e.1 e.2 acc) []

/-- Adds an element to a set unless an equal one is there. -/
def insertElement (elements : List Value) (v : Value) : List Value :=
  if elements.any (·.sameKey v) then elements else elements ++ [v]

/-- The elements without repetitions. -/
def collectElements (elements : List Value) : List Value := elements.foldl insertElement []

end Value

end Clausewise
