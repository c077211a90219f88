import Stencil.Run.Kind

/-! # What goes wrong in a run

A complaint is the cause of an exception that an operation raises by itself: the
kind of the exception and its wording. There is one definition for each cause.
-/

namespace Stencil.Run

/-- The cause of an exception. -/
structure Complaint where
  kind : ExceptionKind
  message : Text
  deriving DecidableEq, Repr

namespace Complaint

/-- A name between apostrophes. -/
def marked (name : Text) : Text := text "'" ++ name ++ text "'"

/-- The ending of a word that stands behind a number. -/
def plural (count : Nat) : Text := if count = 1 then [] else text "s"

/-- A name that lives in the running function has no value. -/
def unboundLocal (name : Text) : Complaint :=
  ⟨.unboundLocalError, text "cannot access local variable " ++ marked name ++
    text " where it is not associated with a value"⟩

/-- A name that lives in an enclosing function has no value. -/
def unboundFree (name : Text) : Complaint :=
  ⟨.nameError, text "cannot access free variable " ++ marked name ++
    text " where it is not associated with a value in enclosing scope"⟩

/-- Nobody knows a name. -/
def undefined (name : Text) : Complaint :=
  ⟨.nameError, text "name " ++ marked name ++ text " is not defined"⟩

/-- A complaint about the kind of an object. -/
def object (kind : Kind) (rest : String) : Complaint :=
  ⟨.typeError, marked kind.name ++ text " object " ++ text rest⟩

/-- A value cannot be iterated over. -/
def notIterable (kind : Kind) : Complaint := object kind "is not iterable"

/-- A value does not iterate. -/
def notIterator (kind : Kind) : Complaint := object kind "is not an iterator"

/-- A value cannot be called. -/
def notCallable (kind : Kind) : Complaint := object kind "is not callable"

/-- A value has no elements to look up. -/
def notSubscriptable (kind : Kind) : Complaint := object kind "is not subscriptable"

/-- A class has no elements to look up. -/
def typeNotSubscriptable (kind : Kind) : Complaint :=
  ⟨.typeError, text "type " ++ marked kind.name ++ text " is not subscriptable"⟩

/-- Elements of a value cannot be assigned to. -/
def noItemAssignment (kind : Kind) : Complaint := object kind "does not support item assignment"

/-- Elements of a value cannot be deleted. -/
def noItemDeletion (kind : Kind) : Complaint := object kind "doesn't support item deletion"

/-- A value is not a mapping. -/
def notMapping (kind : Kind) : Complaint := object kind "is not a mapping"

/-- A value cannot be gone through backwards. -/
def notReversible (kind : Kind) : Complaint := object kind "is not reversible"

/-- A value has no length. -/
def noLength (kind : Kind) : Complaint :=
  ⟨.typeError, text "object of type " ++ marked kind.name ++ text " has no len()"⟩

/-- A value has no members. -/
def notContainer (kind : Kind) : Complaint :=
  ⟨.typeError, text "argument of type " ++ marked kind.name ++ text " is not iterable"⟩

/-- A value cannot be a key. -/
def unhashable (kind : Kind) : Complaint :=
  ⟨.typeError, text "unhashable type: " ++ marked kind.name⟩

/-- A value cannot be entered as a context. -/
def noContext (kind : Kind) : Complaint :=
  object kind "does not support the context manager protocol"

/-- A value cannot stand for a whole number. -/
def notInteger (kind : Kind) : Complaint := object kind "cannot be interpreted as an integer"

/-- A value has no attribute of a name. -/
def noAttribute (kind : Kind) (name : Text) : Complaint :=
  ⟨.attributeError, marked kind.name ++ text " object has no attribute " ++ marked name⟩

/-- A class has no attribute of a name. -/
def typeNoAttribute (kind : Kind) (name : Text) : Complaint :=
  ⟨.attributeError, text "type object " ++ marked kind.name ++ text " has no attribute " ++
    marked name⟩

/-- The module of public names has no attribute of a name. -/
def moduleNoAttribute (name : Text) : Complaint :=
  ⟨.attributeError, text "module 'builtins' has no attribute " ++ marked name⟩

/-- A value that should be unpacked cannot be iterated over. -/
def notUnpackable (kind : Kind) : Complaint :=
  ⟨.typeError, text "cannot unpack non-iterable " ++ kind.name ++ text " object"⟩

/-- There are fewer values than targets. -/
def tooFewValues (expected got : Nat) : Complaint :=
  ⟨.valueError, text "not enough values to unpack (expected " ++ natText 10 expected ++
    text ", got " ++ natText 10 got ++ text ")"⟩

/-- There are fewer values than targets without a star. -/
def tooFewForStar (least got : Nat) : Complaint :=
  ⟨.valueError, text "not enough values to unpack (expected at least " ++ natText 10 least ++
    text ", got " ++ natText 10 got ++ text ")"⟩

/-- There are more values than targets. -/
def tooManyValues (expected : Nat) : Complaint :=
  ⟨.valueError, text "too many values to unpack (expected " ++ natText 10 expected ++
    text ")"⟩

/-- A value behind a star cannot be iterated over. -/
def notStarIterable (kind : Kind) : Complaint :=
  ⟨.typeError, text "Value after * must be an iterable, not " ++ kind.name⟩

/-- An index is of the wrong kind. -/
def indexKind (container : String) (index : Kind) : Complaint :=
  ⟨.typeError, text container ++ text " indices must be integers or slices, not " ++
    index.name⟩

/-- An index into a text is of the wrong kind. -/
def stringIndexKind (index : Kind) : Complaint :=
  ⟨.typeError, text "string indices must be integers, not " ++ marked index.name⟩

/-- An index lies outside. -/
def indexRange (place : String) : Complaint :=
  ⟨.indexError, text place ++ text " index out of range"⟩

/-- Nothing can be taken from an empty list. -/
def popEmptyList : Complaint := ⟨.indexError, text "pop from empty list"⟩

/-- An end of a range of indices is of the wrong kind. -/
def sliceIndex : Complaint :=
  ⟨.typeError, text "slice indices must be integers or None or have an __index__ method"⟩

/-- A range of indices does not move. -/
def sliceStep : Complaint := ⟨.valueError, text "slice step cannot be zero"⟩

/-- A part of a list is replaced by something that cannot be iterated over. -/
def sliceValue : Complaint := ⟨.typeError, text "can only assign an iterable"⟩

/-- A part of a list with gaps is replaced by values of another number. -/
def sliceSize (got expected : Nat) : Complaint :=
  ⟨.valueError, text "attempt to assign sequence of size " ++ natText 10 got ++
    text " to extended slice of size " ++ natText 10 expected⟩

/-- An index is too large. -/
def indexTooLarge (kind : Kind) : Complaint :=
  ⟨.indexError, text "cannot fit " ++ marked kind.name ++ text " into an index-sized integer"⟩

/-- A number of repetitions is too large. -/
def countTooLarge (kind : Kind) : Complaint :=
  ⟨.overflowError, text "cannot fit " ++ marked kind.name ++ text " into an index-sized integer"⟩

/-- A size or a place is too large. -/
def sizeTooLarge : Complaint :=
  ⟨.overflowError, text "Python int too large to convert to C ssize_t"⟩

/-- A dictionary changes while it is iterated over. -/
def dictChanged : Complaint :=
  ⟨.runtimeError, text "dictionary changed size during iteration"⟩

/-- A dictionary gets new keys in place of others while it is iterated over. -/
def dictKeysChanged : Complaint :=
  ⟨.runtimeError, text "dictionary keys changed during iteration"⟩

/-- A set changes while it is iterated over. -/
def setChanged : Complaint := ⟨.runtimeError, text "Set changed size during iteration"⟩

/-- A generator is asked for a value while it runs. -/
def generatorRunning : Complaint := ⟨.valueError, text "generator already executing"⟩

/-- A generator ends by the exception that ends iterations. -/
def generatorStopped : Complaint := ⟨.runtimeError, text "generator raised StopIteration"⟩

/-- An operator is not defined for two values. -/
def operands (operator : String) (left right : Kind) : Complaint :=
  ⟨.typeError, text "unsupported operand type(s) for " ++ text operator ++ text ": " ++
    marked left.name ++ text " and " ++ marked right.name⟩

/-- An operator is not defined for a value. -/
def operand (operator : String) (kind : Kind) : Complaint :=
  ⟨.typeError, text "bad operand type for " ++ text operator ++ text ": " ++
    marked kind.name⟩

/-- Two values have no order. -/
def noOrder (relation : String) (left right : Kind) : Complaint :=
  ⟨.typeError, marked (text relation) ++ text " not supported between instances of " ++
    marked left.name ++ text " and " ++ marked right.name⟩

/-- A sequence is joined with something else. -/
def concatenation (container : String) (other : Kind) : Complaint :=
  ⟨.typeError, text "can only concatenate " ++ text container ++ text " (not \"" ++
    other.name ++ text "\") to " ++ text container⟩

/-- A sequence is repeated by something that is not a whole number. -/
def repetition (other : Kind) : Complaint :=
  ⟨.typeError, text "can't multiply sequence by non-int of type " ++ marked other.name⟩

/-- A membership in a text is asked of something else. -/
def stringMember (member : Kind) : Complaint :=
  ⟨.typeError, text "'in <string>' requires string as left operand, not " ++ member.name⟩

/-- A division by zero, in the words of the operation. -/
def zeroDivision (message : String) : Complaint := ⟨.zeroDivisionError, text message⟩

/-- A result is too large, in the words of the operation. -/
def overflow (message : String) : Complaint := ⟨.overflowError, text message⟩

/-- A value is not allowed, in the words of the operation. -/
def value (message : String) : Complaint := ⟨.valueError, text message⟩

/-- A kind of value is not allowed, in the words of the operation. -/
def type (message : String) : Complaint := ⟨.typeError, text message⟩

/-- Values are nested too deeply. -/
def nesting (activity : String) : Complaint :=
  ⟨.recursionError, text "maximum recursion depth exceeded" ++ text activity⟩

/-- A whole number has too many digits to be written. -/
def tooManyDigits : Complaint :=
  ⟨.valueError, text "Exceeds the limit (4300 digits) for integer string conversion" ++
    text "; use sys.set_int_max_str_digits() to increase the limit"⟩

/-- A text has too many digits to be read as a whole number. -/
def tooManyDigitsRead (count : Nat) : Complaint :=
  ⟨.valueError, text "Exceeds the limit (4300 digits) for integer string conversion: value has " ++
    natText 10 count ++
    text " digits; use sys.set_int_max_str_digits() to increase the limit"⟩

/-- A call of a function is refused. -/
def call (callee : Text) (rest : Text) : Complaint :=
  ⟨.typeError, callee ++ text "() " ++ rest⟩

/-- An argument has no parameter of its name. -/
def unexpectedKeyword (callee name : Text) : Complaint :=
  call callee (text "got an unexpected keyword argument " ++ marked name)

/-- Two arguments are given for one parameter. -/
def repeatedArgument (callee name : Text) : Complaint :=
  call callee (text "got multiple values for argument " ++ marked name)

/-- Two named arguments of something that is called have one name. -/
def repeatedKeyword (callee name : Text) : Complaint :=
  ⟨.typeError, callee ++ text " got multiple values for keyword argument " ++ marked name⟩

/-- The names of named arguments are texts. -/
def keywordNames : Complaint := ⟨.typeError, text "keywords must be strings"⟩

/-- Something behind a star is not iterable. -/
def starArgument (callee : Text) (kind : Kind) : Complaint :=
  ⟨.typeError, callee ++ text " argument after * must be an iterable, not " ++ kind.name⟩

/-- Something behind two stars is not a mapping. -/
def starsArgument (callee : Text) (kind : Kind) : Complaint :=
  ⟨.typeError, callee ++ text " argument after ** must be a mapping, not " ++ kind.name⟩

/-- Parameters by position are given by name. -/
def positionalByName (callee : Text) (names : List Text) : Complaint :=
  call callee (text "got some positional-only arguments passed as keyword arguments: " ++
    marked (Text.join (text ", ") names))

/-- Several names in a sentence. -/
def listing : List Text → Text
  | [] => []
  | [only] => marked only
  | [first, second] => marked first ++ text " and " ++ marked second
  | first :: rest => marked first ++ rest.foldr (fun name (after : Text) =>
      if after.isEmpty then text ", and " ++ marked name
      else text ", " ++ marked name ++ after) []

/-- Parameters without a default get no argument. -/
def missingArguments (callee : Text) (manner : String) (names : List Text) : Complaint :=
  call callee (text "missing " ++ natText 10 names.length ++ text " required " ++ text manner ++
    text " argument" ++ plural names.length ++ text ": " ++ listing names)

/-- There are more arguments by position than parameters. -/
def tooManyArguments (callee : Text) (least most given givenNamed : Nat) : Complaint :=
  let range :=
    if least = most then natText 10 most
    else text "from " ++ natText 10 least ++ text " to " ++ natText 10 most
  let named :=
    if givenNamed = 0 then []
    else text " positional argument" ++ plural given ++ text " (and " ++
      natText 10 givenNamed ++ text " keyword-only argument" ++ plural givenNamed ++ text ")"
  call callee (text "takes " ++ range ++ text " positional argument" ++
    (if least = most then plural most else text "s") ++ text " but " ++ natText 10 given ++
    named ++ (if given = 1 && givenNamed = 0 then text " was given" else text " were given"))

/-- A function of public names takes no named arguments. -/
def noKeywords (callee : Text) : Complaint := call callee (text "takes no keyword arguments")

/-- A function of public names takes exactly one argument. -/
def oneArgument (callee : Text) (given : Nat) : Complaint :=
  call callee (text "takes exactly one argument (" ++ natText 10 given ++ text " given)")

/-- A function of public names takes no argument. -/
def noArguments (callee : Text) (given : Nat) : Complaint :=
  call callee (text "takes no arguments (" ++ natText 10 given ++ text " given)")

/-- A function of public names takes fewer arguments. -/
def atMost (callee : Text) (most given : Nat) : Complaint :=
  ⟨.typeError, callee ++ text " expected at most " ++ natText 10 most ++ text " argument" ++
    plural most ++ text ", got " ++ natText 10 given⟩

/-- A function of public names takes more arguments. -/
def atLeast (callee : Text) (least given : Nat) : Complaint :=
  ⟨.typeError, callee ++ text " expected at least " ++ natText 10 least ++ text " argument" ++
    plural least ++ text ", got " ++ natText 10 given⟩

/-- A function of public names takes another number of arguments. -/
def exactly (callee : Text) (expected given : Nat) : Complaint :=
  ⟨.typeError, callee ++ text " expected " ++ natText 10 expected ++ text " argument" ++
    plural expected ++ text ", got " ++ natText 10 given⟩

/-- Something is raised that is no exception. -/
def notRaisable : Complaint :=
  ⟨.typeError, text "exceptions must derive from BaseException"⟩

/-- The cause of an exception is no exception. -/
def notCause : Complaint :=
  ⟨.typeError, text "exception causes must derive from BaseException"⟩

/-- A handler handles something that is no kind of exceptions. -/
def notHandled : Complaint :=
  ⟨.typeError,
    text "catching classes that do not inherit from BaseException is not allowed"⟩

/-- There is no exception to raise again. -/
def nothingActive : Complaint :=
  ⟨.runtimeError, text "No active exception to reraise"⟩

end Complaint

end Stencil.Run
