/-!
Categories, the six coarse families of values, and the names of the seven built-in kinds of pattern.
-/

namespace Clausewise

/-- A coarse family of values. -/
inductive Category where
  | sequence
  | boolean
  | error
  | number
  | object
  | string
deriving DecidableEq, Inhabited

namespace Category

/-- The lower-case name. -/
def word : Category → String
  | sequence => "sequence"
  | boolean => "boolean"
  | error => "error"
  | number => "number"
  | object => "object"
  | string => "string"

def all : List Category := [sequence, boolean, error, number, object, string]

def memberName (c : Category) : String := c.word.toUpper

def ofMemberName? (s : String) : Option Category := all.find? fun c => c.memberName == s

end Category

/-- A built-in kind of pattern, in the order of classification. -/
inductive KindName where
  | literal
  | sequence
  | regex
  | constructor
  | category
  | mapping
  | predicate
deriving DecidableEq, Inhabited

namespace KindName

/-- The lower-case name, which is also the text that the member is equal to. -/
def word : KindName → String
  | literal => "literal"
  | sequence => "sequence"
  | regex => "regex"
  | constructor => "constructor"
  | category => "category"
  | mapping => "mapping"
  | predicate => "predicate"

/-- All built-in kinds, in the order of classification. -/
def all : List KindName := [literal, sequence, regex, constructor, category, mapping, predicate]

def memberName (k : KindName) : String := k.word.toUpper

/-- The kind of a lower-case name. -/
def ofWord? (s : String) : Option KindName := all.find? fun k => k.word == s

end KindName

end Clausewise
