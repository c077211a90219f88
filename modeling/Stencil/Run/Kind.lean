import Stencil.Text.Basic

/-! # Kinds of values

Every value belongs to a kind, and the kinds of exceptions form a tree: a handler
for a kind also handles the kinds below it. A kind has a name, under which values of
that kind are reported in errors.
-/

namespace Stencil.Run

/-- The kinds of exceptions. -/
inductive ExceptionKind where
  | baseException | baseExceptionGroup | generatorExit | keyboardInterrupt | systemExit
  | exception | arithmeticError | floatingPointError | overflowError | zeroDivisionError
  | assertionError | attributeError | bufferError | eofError | exceptionGroup | importError
  | moduleNotFoundError | lookupError | indexError | keyError | memoryError | nameError
  | unboundLocalError | osError | blockingIOError | childProcessError | connectionError
  | brokenPipeError | connectionAbortedError | connectionRefusedError | connectionResetError
  | fileExistsError | fileNotFoundError | interruptedError | isADirectoryError
  | notADirectoryError | permissionError | processLookupError | timeoutError | referenceError
  | runtimeError | notImplementedError | recursionError | stopAsyncIteration | stopIteration
  | syntaxError | indentationError | tabError | systemError | typeError | valueError
  | unicodeError | unicodeDecodeError | unicodeEncodeError | unicodeTranslateError | warning
  | bytesWarning | deprecationWarning | encodingWarning | futureWarning | importWarning
  | pendingDeprecationWarning | resourceWarning | runtimeWarning | syntaxWarning | unicodeWarning
  | userWarning
  deriving DecidableEq, Repr

namespace ExceptionKind

/-- The name of a kind of exceptions. -/
def label : ExceptionKind → String
  | .baseException => "BaseException"
  | .baseExceptionGroup => "BaseExceptionGroup"
  | .generatorExit => "GeneratorExit"
  | .keyboardInterrupt => "KeyboardInterrupt"
  | .systemExit => "SystemExit"
  | .exception => "Exception"
  | .arithmeticError => "ArithmeticError"
  | .floatingPointError => "FloatingPointError"
  | .overflowError => "OverflowError"
  | .zeroDivisionError => "ZeroDivisionError"
  | .assertionError => "AssertionError"
  | .attributeError => "AttributeError"
  | .bufferError => "BufferError"
  | .eofError => "EOFError"
  | .exceptionGroup => "ExceptionGroup"
  | .importError => "ImportError"
  | .moduleNotFoundError => "ModuleNotFoundError"
  | .lookupError => "LookupError"
  | .indexError => "IndexError"
  | .keyError => "KeyError"
  | .memoryError => "MemoryError"
  | .nameError => "NameError"
  | .unboundLocalError => "UnboundLocalError"
  | .osError => "OSError"
  | .blockingIOError => "BlockingIOError"
  | .childProcessError => "ChildProcessError"
  | .connectionError => "ConnectionError"
  | .brokenPipeError => "BrokenPipeError"
  | .connectionAbortedError => "ConnectionAbortedError"
  | .connectionRefusedError => "ConnectionRefusedError"
  | .connectionResetError => "ConnectionResetError"
  | .fileExistsError => "FileExistsError"
  | .fileNotFoundError => "FileNotFoundError"
  | .interruptedError => "InterruptedError"
  | .isADirectoryError => "IsADirectoryError"
  | .notADirectoryError => "NotADirectoryError"
  | .permissionError => "PermissionError"
  | .processLookupError => "ProcessLookupError"
  | .timeoutError => "TimeoutError"
  | .referenceError => "ReferenceError"
  | .runtimeError => "RuntimeError"
  | .notImplementedError => "NotImplementedError"
  | .recursionError => "RecursionError"
  | .stopAsyncIteration => "StopAsyncIteration"
  | .stopIteration => "StopIteration"
  | .syntaxError => "SyntaxError"
  | .indentationError => "IndentationError"
  | .tabError => "TabError"
  | .systemError => "SystemError"
  | .typeError => "TypeError"
  | .valueError => "ValueError"
  | .unicodeError => "UnicodeError"
  | .unicodeDecodeError => "UnicodeDecodeError"
  | .unicodeEncodeError => "UnicodeEncodeError"
  | .unicodeTranslateError => "UnicodeTranslateError"
  | .warning => "Warning"
  | .bytesWarning => "BytesWarning"
  | .deprecationWarning => "DeprecationWarning"
  | .encodingWarning => "EncodingWarning"
  | .futureWarning => "FutureWarning"
  | .importWarning => "ImportWarning"
  | .pendingDeprecationWarning => "PendingDeprecationWarning"
  | .resourceWarning => "ResourceWarning"
  | .runtimeWarning => "RuntimeWarning"
  | .syntaxWarning => "SyntaxWarning"
  | .unicodeWarning => "UnicodeWarning"
  | .userWarning => "UserWarning"

/-- The kind that a kind of exceptions belongs to. -/
def parent? : ExceptionKind → Option ExceptionKind
  | .baseException => none
  | .baseExceptionGroup | .generatorExit | .keyboardInterrupt | .systemExit | .exception
    => some .baseException
  | .arithmeticError | .assertionError | .attributeError | .bufferError | .eofError
  | .exceptionGroup | .importError | .lookupError | .memoryError | .nameError | .osError
  | .referenceError | .runtimeError | .stopAsyncIteration | .stopIteration | .syntaxError
  | .systemError | .typeError | .valueError | .warning => some .exception
  | .floatingPointError | .overflowError | .zeroDivisionError => some .arithmeticError
  | .moduleNotFoundError => some .importError
  | .indexError | .keyError => some .lookupError
  | .unboundLocalError => some .nameError
  | .blockingIOError | .childProcessError | .connectionError | .fileExistsError
  | .fileNotFoundError | .interruptedError | .isADirectoryError | .notADirectoryError
  | .permissionError | .processLookupError | .timeoutError => some .osError
  | .brokenPipeError | .connectionAbortedError | .connectionRefusedError
  | .connectionResetError => some .connectionError
  | .notImplementedError | .recursionError => some .runtimeError
  | .indentationError => some .syntaxError
  | .tabError => some .indentationError
  | .unicodeError => some .valueError
  | .unicodeDecodeError | .unicodeEncodeError | .unicodeTranslateError => some .unicodeError
  | .bytesWarning | .deprecationWarning | .encodingWarning | .futureWarning
  | .importWarning | .pendingDeprecationWarning | .resourceWarning | .runtimeWarning
  | .syntaxWarning | .unicodeWarning | .userWarning => some .warning

/-- A kind of exceptions that is another one or lies below it. The tree is five steps high. -/
def isBelow (kind other : ExceptionKind) : Bool := climb 5 kind
where
  /-- One of a kind and the kinds above it is the other one. -/
  climb : Nat → ExceptionKind → Bool
    | 0, kind => kind == other
    | steps + 1, kind => kind == other || kind.parent?.any (climb steps)

/-- Every kind of exceptions, in the order of the tree. -/
def all : List ExceptionKind :=
  [.baseException, .baseExceptionGroup, .generatorExit, .keyboardInterrupt, .systemExit,
    .exception, .arithmeticError, .floatingPointError, .overflowError, .zeroDivisionError,
    .assertionError, .attributeError, .bufferError, .eofError, .exceptionGroup, .importError,
    .moduleNotFoundError, .lookupError, .indexError, .keyError, .memoryError, .nameError,
    .unboundLocalError, .osError, .blockingIOError, .childProcessError, .connectionError,
    .brokenPipeError, .connectionAbortedError, .connectionRefusedError, .connectionResetError,
    .fileExistsError, .fileNotFoundError, .interruptedError, .isADirectoryError,
    .notADirectoryError, .permissionError, .processLookupError, .timeoutError, .referenceError,
    .runtimeError, .notImplementedError, .recursionError, .stopAsyncIteration, .stopIteration,
    .syntaxError, .indentationError, .tabError, .systemError, .typeError, .valueError,
    .unicodeError, .unicodeDecodeError, .unicodeEncodeError, .unicodeTranslateError, .warning,
    .bytesWarning, .deprecationWarning, .encodingWarning, .futureWarning, .importWarning,
    .pendingDeprecationWarning, .resourceWarning, .runtimeWarning, .syntaxWarning,
    .unicodeWarning, .userWarning]

/-- Other names of kinds of exceptions. -/
def otherNames : List (String × ExceptionKind) :=
  [("EnvironmentError", .osError), ("IOError", .osError)]

/-- The kind of exceptions with a name. -/
def ofName? (name : Text) : Option ExceptionKind :=
  (all.find? fun kind => text kind.label == name).or
    ((otherNames.find? fun entry => text entry.1 == name).map Prod.snd)

end ExceptionKind

/-- The kinds of values. -/
inductive Kind where
  | object
  | nothing
  | ellipsis
  /-- The answer of an operation that is not defined. -/
  | notImplemented
  | bool
  | int
  | float
  | complex
  | string
  | bytes
  | byteArray
  | tuple
  | range
  | slice
  | list
  | dict
  | set
  | frozenSet
  | namespace
  | proxy
  | dictKeys
  | dictValues
  | dictItems
  | function
  | builtinFunction
  | methodDescriptor
  | type
  | module
  | generator
  | enumerate
  | zip
  | map
  | filter
  | reversed
  | iterator (name : String)
  /-- A class of which only the name is known. -/
  | other (name : String)
  | exception (kind : ExceptionKind)
  deriving DecidableEq, Repr

namespace Kind

/-- The name of a kind without the module that it comes from. -/
def label : Kind → String
  | .object => "object"
  | .nothing => "NoneType"
  | .ellipsis => "ellipsis"
  | .notImplemented => "NotImplementedType"
  | .bool => "bool"
  | .int => "int"
  | .float => "float"
  | .complex => "complex"
  | .string => "str"
  | .bytes => "bytes"
  | .byteArray => "bytearray"
  | .tuple => "tuple"
  | .range => "range"
  | .slice => "slice"
  | .list => "list"
  | .dict => "dict"
  | .set => "set"
  | .frozenSet => "frozenset"
  | .namespace => "SimpleNamespace"
  | .proxy => "mappingproxy"
  | .dictKeys => "dict_keys"
  | .dictValues => "dict_values"
  | .dictItems => "dict_items"
  | .function => "function"
  | .builtinFunction => "builtin_function_or_method"
  | .methodDescriptor => "method_descriptor"
  | .type => "type"
  | .module => "module"
  | .generator => "generator"
  | .enumerate => "enumerate"
  | .zip => "zip"
  | .map => "map"
  | .filter => "filter"
  | .reversed => "reversed"
  | .iterator name | .other name => name
  | .exception kind => kind.label

/-- The name of a kind as errors give it. -/
def name : Kind → Text
  | .namespace => text "types.SimpleNamespace"
  | kind => text kind.label

/-- The classes that a program can name, apart from the exceptions. -/
def named : List Kind :=
  [.object, .bool, .int, .float, .complex, .string, .bytes, .byteArray, .tuple, .range, .slice,
    .list, .dict, .set, .frozenSet, .type, .enumerate, .zip, .map, .filter, .reversed,
    .other "classmethod", .other "memoryview", .other "property", .other "staticmethod",
    .other "super"]

/-- The class with a name. -/
def ofName? (name : Text) : Option Kind :=
  (named.find? fun kind => text kind.label == name).or
    ((ExceptionKind.ofName? name).map .exception)

/-- A kind whose values belong to another kind as well. -/
def isBelow (kind other : Kind) : Bool :=
  other == .object || kind == other ||
    match kind, other with
    | .bool, .int => true
    | .exception lower, .exception upper =>
        lower.isBelow upper || (lower == .exceptionGroup && upper == .baseExceptionGroup)
    | _, _ => false

end Kind

end Stencil.Run
