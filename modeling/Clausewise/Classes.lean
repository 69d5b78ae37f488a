import Clausewise.Class
/-!
The classes of the values themselves: numbers, texts, containers, times, exceptions, and the classes that
patterns and matchers belong to.
-/

namespace Clausewise.Class

/-- The class that every class derives from. -/
def object : Class := mk "builtins" "object" [] { display := .opaqueObject }

/-- A class without special traits. -/
def derived (home name : String) (bases : List Class) : Class := mk home name bases {}

/-- A class whose instances may change, and so may not be keys. -/
def changeable (home name : String) (bases : List Class) : Class := mk home name bases { hashing := some false }

/-- The class of the values that may be keys. A class that derives from one of them need not be one of them. -/
def hashable : Class := mk "collections.abc" "Hashable" [object] { instances := .hashing }

/-- The class of all that hands its items out by index, texts and byte strings included. -/
def sequence : Class := derived "collections.abc" "Sequence" [object]

/-- The class of all that has something under keys. -/
def mapping : Class := changeable "collections.abc" "Mapping" [object]

/-- The class of the loosely absent value. -/
def nullClass : Class := derived "builtins" "NoneType" [object]

/-- The class of the strictly absent value. -/
def undefinedClass : Class := derived "declarative_pattern.core" "_Undefined" [object]

def type : Class := derived "builtins" "type" [object]

def number : Class := derived "numbers" "Number" [object]

def int : Class := derived "builtins" "int" [number]

def bool : Class := derived "builtins" "bool" [int]

def float : Class := derived "builtins" "float" [number]

def complex : Class := derived "builtins" "complex" [number]

def decimal : Class := derived "decimal" "Decimal" [number]

def fraction : Class := derived "fractions" "Fraction" [number]

def str : Class := derived "builtins" "str" [sequence]

def derivedText : Class := derived "__main__" "StrSub" [str]

def bytes : Class := derived "builtins" "bytes" [sequence]

def bytearray : Class := changeable "builtins" "bytearray" [sequence]

def memoryview : Class := derived "builtins" "memoryview" [sequence]

def list : Class := changeable "builtins" "list" [sequence]

def tuple : Class := derived "builtins" "tuple" [sequence]

/-- The class `Point` of the tuples with two named coordinates. -/
def point : Class := derived "__main__" "Point" [tuple]

def deque : Class := changeable "collections" "deque" [sequence]

def userList : Class := changeable "collections" "UserList" [sequence]

def range : Class := derived "builtins" "range" [sequence]

def set : Class := changeable "builtins" "set" [object]

def frozenset : Class := derived "builtins" "frozenset" [object]

def dict : Class := changeable "builtins" "dict" [mapping]

def orderedDict : Class := derived "collections" "OrderedDict" [dict]

def counter : Class := derived "collections" "Counter" [dict]

def defaultDict : Class := derived "collections" "defaultdict" [dict]

def userDict : Class := changeable "collections" "UserDict" [mapping]

def mappingProxy : Class := changeable "builtins" "mappingproxy" [mapping]

def chainMap : Class := changeable "collections" "ChainMap" [mapping]

def date : Class := derived "datetime" "date" [object]

def datetime : Class := derived "datetime" "datetime" [date]

def function : Class := derived "builtins" "function" [object]

def builtinFunction : Class := derived "builtins" "builtin_function_or_method" [object]

def standardRegex : Class := derived "re" "Pattern" [object]

/-- The class of queries that have been read. -/
def parsedQuery : Class := mk "jmespath.parser" "ParsedResult" [object] { display := .opaqueObject }

/-- The class of what else queries may use. -/
def queryOptions : Class := mk "jmespath.visitor" "Options" [object] { display := .opaqueObject }

def extendedRegex : Class := derived "_regex" "Pattern" [object]

def enum : Class := derived "enum" "Enum" [object]

def category : Class := derived "declarative_pattern.kinds.category" "Category" [enum]

def kind : Class := derived "declarative_pattern.core" "Kind" [str, enum]

def patternMatcher : Class := derived "declarative_pattern.core" "PatternMatcher" [object]

def constant : Class := derived "declarative_pattern.core" "Constant" [object]

def pattern : Class := derived "declarative_pattern.core" "Pattern" [object]

def closedPattern : Class := derived "declarative_pattern.core" "ClosedPattern" [object]

def baseException : Class := derived "builtins" "BaseException" [object]

def exception : Class := derived "builtins" "Exception" [baseException]

def keyboardInterrupt : Class := derived "builtins" "KeyboardInterrupt" [baseException]

def systemExit : Class := derived "builtins" "SystemExit" [baseException]

def generatorExit : Class := derived "builtins" "GeneratorExit" [baseException]

def arithmeticError : Class := derived "builtins" "ArithmeticError" [exception]

def zeroDivisionError : Class := derived "builtins" "ZeroDivisionError" [arithmeticError]

def overflowError : Class := derived "builtins" "OverflowError" [arithmeticError]

def floatingPointError : Class := derived "builtins" "FloatingPointError" [arithmeticError]

def assertionError : Class := derived "builtins" "AssertionError" [exception]

def attributeError : Class := derived "builtins" "AttributeError" [exception]

def bufferError : Class := derived "builtins" "BufferError" [exception]

def eofError : Class := derived "builtins" "EOFError" [exception]

def importError : Class := derived "builtins" "ImportError" [exception]

def moduleNotFoundError : Class := derived "builtins" "ModuleNotFoundError" [importError]

def lookupError : Class := derived "builtins" "LookupError" [exception]

def indexError : Class := derived "builtins" "IndexError" [lookupError]

def keyError : Class := derived "builtins" "KeyError" [lookupError]

def memoryError : Class := derived "builtins" "MemoryError" [exception]

def nameError : Class := derived "builtins" "NameError" [exception]

def unboundLocalError : Class := derived "builtins" "UnboundLocalError" [nameError]

def osError : Class := derived "builtins" "OSError" [exception]

def fileExistsError : Class := derived "builtins" "FileExistsError" [osError]

def fileNotFoundError : Class := derived "builtins" "FileNotFoundError" [osError]

def permissionError : Class := derived "builtins" "PermissionError" [osError]

def connectionError : Class := derived "builtins" "ConnectionError" [osError]

def timeoutError : Class := derived "builtins" "TimeoutError" [osError]

def referenceError : Class := derived "builtins" "ReferenceError" [exception]

def runtimeError : Class := derived "builtins" "RuntimeError" [exception]

def notImplementedError : Class := derived "builtins" "NotImplementedError" [runtimeError]

def recursionError : Class := derived "builtins" "RecursionError" [runtimeError]

def stopIteration : Class := derived "builtins" "StopIteration" [exception]

def stopAsyncIteration : Class := derived "builtins" "StopAsyncIteration" [exception]

def syntaxError : Class := derived "builtins" "SyntaxError" [exception]

def systemError : Class := derived "builtins" "SystemError" [exception]

def typeError : Class := derived "builtins" "TypeError" [exception]

def valueError : Class := derived "builtins" "ValueError" [exception]

def unicodeError : Class := derived "builtins" "UnicodeError" [valueError]

def warning : Class := derived "builtins" "Warning" [exception]

def userWarning : Class := derived "builtins" "UserWarning" [warning]

def deprecationWarning : Class := derived "builtins" "DeprecationWarning" [warning]

def runtimeWarning : Class := derived "builtins" "RuntimeWarning" [warning]

def patternError : Class := derived "declarative_pattern.errors" "PatternError" [exception]

def noMatchingKindError : Class := derived "declarative_pattern.errors" "NoMatchingKindError" [patternError, typeError]

def matchError : Class := derived "declarative_pattern.errors" "MatchError" [patternError, lookupError]

def closedPatternError : Class := derived "declarative_pattern.errors" "ClosedPatternError" [patternError, runtimeError]

def standard : List Class := [
  object, nullClass, undefinedClass, type, hashable, sequence, mapping, number, int, bool, float, complex, decimal,
  fraction, str, derivedText, bytes, bytearray, memoryview, list, tuple, point, deque, userList, range, set, frozenset,
  dict, orderedDict, counter, defaultDict, userDict, mappingProxy, chainMap, date, datetime, function, builtinFunction,
  standardRegex, extendedRegex, enum, category, kind, patternMatcher, constant, pattern, closedPattern,
  baseException, exception, keyboardInterrupt, systemExit, generatorExit, arithmeticError,
  zeroDivisionError, overflowError, floatingPointError, assertionError, attributeError, bufferError,
  eofError, importError, moduleNotFoundError, lookupError, indexError, keyError, memoryError,
  nameError, unboundLocalError, osError, fileExistsError, fileNotFoundError, permissionError,
  connectionError, timeoutError, referenceError, runtimeError, notImplementedError, recursionError,
  stopIteration, stopAsyncIteration, syntaxError, systemError, typeError, valueError, unicodeError,
  warning, userWarning, deprecationWarning, runtimeWarning, patternError, noMatchingKindError,
  matchError, closedPatternError]

end Clausewise.Class
