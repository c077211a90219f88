import Stencil.Run.Attribute

/-! # Classes as functions

A class makes a value of its kind from its arguments: numbers and texts from other values,
collections from what can be iterated over, iterators from other iterators, and
exceptions from any arguments.
-/

namespace Stencil.Run

open Script

/-- The only argument by position, if there is one. -/
def optionalArgument (callee : Text) (arguments : Arguments) : Action (Option Value) := do
  arguments.requireUnnamed callee
  Arguments.between callee 0 1 arguments.positional
  return arguments.positional.head?

/-- A text as a whole number in a base, with the notation that a complaint shows. -/
def parseWhole (base : Nat) (written shown : Text) : Action Value := do
  match readWhole base written with
  | .value number => return .int number
  | .tooLong digits => complain (.tooManyDigitsRead digits)
  | .malformed =>
      complain ⟨.valueError, text "invalid literal for int() with base " ++ natText 10 base ++
        text ": " ++ shown.take 200⟩

/-- A floating-point number without its places behind the point. -/
def truncated (value : Float) : Action Value := do
  return .int (← settle (truncateFloat value))

/-- A value as a whole number. -/
def wholeOf (value : Value) : Action Value := do
  match value with
  | .string written => parseWhole 10 written written.quoted
  | .bytes written => parseWhole 10 written (← display value)
  | .float number => truncated number
  | other =>
      match other.int? with
      | some number => return .int number
      | none =>
          complain ⟨.typeError,
            text "int() argument must be a string, a bytes-like object or a real number, not '" ++
              (← kindOf value).name ++ text "'"⟩

/-- A value as a whole number in a base. -/
def wholeInBase (value base : Value) : Action Value := do
  let base ← wholeArgument base
  if base ≠ 0 && (base < 2 || 36 < base) then
    complain (.value "int() base must be >= 2 and <= 36, or 0")
  else
    match value with
    | .string written => parseWhole base.toNat written written.quoted
    | .bytes written => parseWhole base.toNat written (← display value)
    | _ => complain (.type "int() can't convert non-string with explicit base")

/-- A whole number. -/
def makeWhole (arguments : Arguments) : Action Value := do
  if arguments.named.isEmpty then
    match arguments.positional with
    | [] => return .int 0
    | [value] => wholeOf value
    | [value, base] => wholeInBase value base
    | others => complain (.atMost (text "int") 2 others.length)
  else
    let signature : Signature :=
      { callee := text "int"
        unnamed := 1
        names := ["base"]
        positions := 2
        needed := 0 }
    match ← signature.bind arguments with
    | [some value, some base] => wholeInBase value base
    | [some value, none] => wholeOf value
    | [none, some _] => complain (.type "int() missing string argument")
    | _ => return .int 0

/-- A floating-point number. -/
def makeFloat (arguments : Arguments) : Action Value := do
  match ← optionalArgument (text "float") arguments with
  | none => return .float 0
  | some (.string written) =>
      match readFloat written with
      | some number => return .float number
      | none =>
          complain ⟨.valueError, text "could not convert string to float: " ++ written.quoted⟩
  | some value =>
      match value.float? with
      | some number => return .float (← settle number)
      | none =>
          complain ⟨.typeError, text "float() argument must be a string or a real number, not '" ++
            (← kindOf value).name ++ text "'"⟩

/-- A text. -/
def makeString (arguments : Arguments) : Action Value := do
  let signature : Signature :=
    { callee := text "str"
      unnamed := 0
      names := ["object", "encoding", "errors"]
      positions := 3
      needed := 0 }
  match ← signature.bind arguments with
  | [none, _, _] => return .string []
  | [some value, none, none] => return .string (← textOf value)
  | [some value, _, _] =>
      match value with
      | .string _ => complain (.type "decoding str is not supported")
      | .bytes _ => unsupported "decoding of bytes"
      | other =>
          complain ⟨.typeError, text "decoding to str: need a bytes-like object, " ++
            (← kindOf other).name ++ text " found"⟩
  | _ => return .string []

/-- A list. -/
def makeList (engine : Engine) (arguments : Arguments) : Action Value := do
  match ← optionalArgument (text "list") arguments with
  | none => newList #[]
  | some value => newList (← collect engine value)

/-- A tuple. -/
def makeTuple (engine : Engine) (arguments : Arguments) : Action Value := do
  match ← optionalArgument (text "tuple") arguments with
  | none => return .tuple []
  | some (.tuple items) => return .tuple items
  | some value => return .tuple (← collect engine value).toList

/-- The members that an iterator still has come into the set at an address. -/
def insertMembers (engine : Engine) (address : Address) (iterator : Value) : Nat → Action Unit
  | 0 => throw .unfinished
  | rounds + 1 => do
      match ← draw engine iterator with
      | none => return ()
      | some member => do
          requireKey member
          MappingMethod.changeMembers address (insertMember member)
          insertMembers engine address iterator rounds

/-- A set. -/
def makeSet (engine : Engine) (arguments : Arguments) : Action Value := do
  let source ← optionalArgument (text "set") arguments
  let address ← allocate (.set [])
  match source with
  | none => pure ()
  | some value => do
      let iterator ← iterate value
      insertMembers engine address iterator (← roundsOf iterator)
  return .ref address

/-- A dictionary. -/
def makeDict (engine : Engine) (arguments : Arguments) : Action Value := do
  Arguments.between (text "dict") 0 1 arguments.positional
  let address ← allocate (.dict (.ofEntries []))
  MappingMethod.updateFrom engine address arguments.positional.head? arguments.named
  return .ref address

/-- A range of whole numbers. -/
def makeRange (arguments : Arguments) : Action Value := do
  arguments.requireUnnamed (text "range")
  match arguments.positional with
  | [] => complain (.atLeast (text "range") 1 0)
  | [stop] => return .range 0 (← wholeArgument stop) 1
  | [start, stop] => return .range (← wholeArgument start) (← wholeArgument stop) 1
  | [start, stop, step] => do
      let start ← wholeArgument start
      let stop ← wholeArgument stop
      let step ← wholeArgument step
      if step = 0 then complain (.value "range() arg 3 must not be zero")
      else return .range start stop step
  | others => complain (.atMost (text "range") 3 others.length)

/-- A range of indices. -/
def makeSlice (arguments : Arguments) : Action Value := do
  arguments.requireUnnamed (text "slice")
  match arguments.positional with
  | [] => complain (.atLeast (text "slice") 1 0)
  | [stop] => return .slice .nothing stop .nothing
  | [start, stop] => return .slice start stop .nothing
  | [start, stop, step] => return .slice start stop step
  | others => complain (.atMost (text "slice") 3 others.length)

/-- An iterator that counts. -/
def makeEnumerate (arguments : Arguments) : Action Value := do
  let signature : Signature :=
    { callee := text "enumerate"
      unnamed := 0
      names := ["iterable", "start"]
      positions := 2
      needed := 1 }
  match ← signature.bind arguments with
  | some source :: rest => do
      let start ←
        match rest with
        | [some start] => wholeArgument start
        | _ => pure 0
      newCursor .enumerate (.enumerate (← iterate source) start)
  | _ => return .nothing

/-- The iterators of several values. -/
def iterateAll : List Value → Action (List Value)
  | [] => return []
  | first :: rest => do
      let iterator ← iterate first
      return iterator :: (← iterateAll rest)

/-- An iterator over several values at once. -/
def makeZip (arguments : Arguments) : Action Value := do
  let signature : Signature :=
    { callee := text "zip"
      unnamed := 0
      names := ["strict"]
      positions := 0
      needed := 0 }
  let bound ← signature.bind { arguments with positional := [] }
  let isStrict ← isTrue ((bound.head?.getD none).getD (.bool false))
  newCursor .zip (.zip (← iterateAll arguments.positional) isStrict)

/-- An iterator that applies a function. -/
def makeMap (arguments : Arguments) : Action Value := do
  arguments.requireUnnamed (text "map")
  match arguments.positional with
  | function :: first :: rest => newCursor .map (.map function (← iterateAll (first :: rest)))
  | _ => complain (.type "map() must have at least two arguments.")

/-- An iterator that leaves values out. -/
def makeFilter (arguments : Arguments) : Action Value := do
  arguments.requireUnnamed (text "filter")
  Arguments.between (text "filter") 2 2 arguments.positional
  match arguments.positional with
  | [test, source] => newCursor .filter (.filter test (← iterate source))
  | _ => return .nothing

/-- An iterator from behind. -/
def reverseOf (value : Value) : Action Value := do
  match value with
  | .string points =>
      newCursor .reversed (.items (points.reverse.map fun point => .string [point]))
  | .bytes values => newCursor .reversed (.items (values.reverse.map byteValue))
  | .tuple items => newCursor .reversed (.items items.reverse)
  | .range start stop step =>
      let count := rangeLength start stop step
      newCursor (.iterator "range_iterator") (.range (start + (count - 1) * step) (-step) count)
  | .view kind dict => reverseView kind dict
  | .ref address =>
      match ← load address with
      | .list items =>
          newCursor (.iterator "list_reverseiterator") (.listBackwards address items.size)
      | .dict _ | .proxy _ => reverseView .keys address
      | _ => complainOf .notReversible value
  | _ => complainOf .notReversible value

/-- A new exception. -/
def newException (kind : ExceptionKind) (arguments : List Value) : Action Value := do
  return .ref (← allocate (.exception kind arguments))

/-- The kinds of some values that should be exceptions, from a place on. -/
def kindsOfMembers : Nat → List Value → Action (List ExceptionKind)
  | _, [] => return []
  | place, first :: rest => do
      match ← kindOf first with
      | .exception kind => return kind :: (← kindsOfMembers (place + 1) rest)
      | _ =>
          complain ⟨.valueError, text "Item " ++ natText 10 place ++
            text " of second argument (exceptions) is not an exception"⟩

/-- The items of a sequence that a group is made of. -/
def membersOfGroup (value : Value) : Action (List Value) := do
  let members ←
    match value, value.sequenceIn? (← get) with
    | _, some (.list items) => pure items.toList
    | _, some (.tuple items) => pure items
    | _, some (.string points) => pure (points.map fun point => Value.string [point])
    | _, some (.bytes values) => pure (values.map byteValue)
    | .range _ _ _, _ => unsupported "groups of numbers"
    | _, none => complain (.type "second argument (exceptions) must be a sequence")
  if members.isEmpty then
    complain (.value "second argument (exceptions) must be a non-empty sequence")
  else return members

/-- A group of exceptions; a group of errors alone is a group of errors. -/
def makeGroup (kind : ExceptionKind) (arguments : Arguments) : Action Value := do
  let callee := text "BaseExceptionGroup.__new__"
  match arguments.positional with
  | [message, given] => do
      match message with
      | .string _ => pure ()
      | other =>
          complain (.call callee (text "argument 1 must be str, not " ++ (← kindOf other).name))
      let members ← membersOfGroup given
      let kinds ← kindsOfMembers 0 members
      arguments.requireUnnamed (text kind.label)
      let parts := [message, given, .tuple members]
      if kinds.all fun member => member.isBelow .exception then newException .exceptionGroup parts
      else if kind == .exceptionGroup then
        complain (.type "Cannot nest BaseExceptions in an ExceptionGroup")
      else newException kind parts
  | others =>
      complain (.call callee (text "takes exactly 2 arguments (" ++ natText 10 others.length ++
        text " given)"))

/-- The names of parameters that a kind of exceptions takes by name, with the kind that complaints
about them name. -/
def namedParts (kind : ExceptionKind) : Option (ExceptionKind × List String) :=
  if kind.isBelow .importError then some (.importError, ["name", "path"])
  else if kind.isBelow .nameError then some (.nameError, ["name"])
  else if kind == .attributeError then some (.attributeError, ["name", "obj"])
  else none

/-- The number of arguments that a kind of exceptions must have. -/
def requiredParts : ExceptionKind → Option Nat
  | .unicodeDecodeError | .unicodeEncodeError => some 5
  | .unicodeTranslateError => some 4
  | _ => none

/-- The kind of an exception: an error of the system may have one of its own. -/
def kindByParts (kind : ExceptionKind) (arguments : List Value) : ExceptionKind :=
  if kind == .osError && kind.hasSystemParts arguments then
    let number := arguments.headD .nothing
    ((systemErrors.find? fun entry => (Value.int entry.1).sameKey number).map Prod.snd).getD kind
  else kind

/-- An exception. -/
def makeException (kind : ExceptionKind) (arguments : Arguments) : Action Value := do
  if kind.isGroup then makeGroup kind arguments
  else
    match namedParts kind with
    | some (callee, names) => do
        let signature : Signature :=
          { callee := text callee.label
            unnamed := 0
            names := names
            positions := 0
            needed := 0 }
        let _ ← signature.bind { arguments with positional := [] }
    | none => arguments.requireUnnamed (text kind.label)
    let given := arguments.positional
    match requiredParts kind with
    | some needed =>
        if given.length = needed then unsupported "exceptions about encodings"
        else
          complain ⟨.typeError, text "function takes exactly " ++ natText 10 needed ++
            text " arguments (" ++ natText 10 given.length ++ text " given)"⟩
    | none => do
        if kind == .osError && kind.hasSystemParts given then requireKey (given.headD .nothing)
        newException (kindByParts kind given) given

/-- The class of a value. -/
def classOf (arguments : Arguments) : Action Value := do
  match arguments.positional, arguments.named with
  | [value], [] => return .ofKind (← kindOf value)
  | [_, _, _], _ => unsupported "new classes"
  | _, _ => complain (.type "type() takes 1 or 3 arguments")

/-- A class is called. -/
def construct (engine : Engine) (kind : Kind) (arguments : Arguments) : Action Value := do
  match kind with
  | .bool =>
      match ← optionalArgument (text "bool") arguments with
      | none => return .bool false
      | some value => return .bool (← isTrue value)
  | .int => makeWhole arguments
  | .float => makeFloat arguments
  | .string => makeString arguments
  | .list => makeList engine arguments
  | .tuple => makeTuple engine arguments
  | .set => makeSet engine arguments
  | .dict => makeDict engine arguments
  | .range => makeRange arguments
  | .slice => makeSlice arguments
  | .enumerate => makeEnumerate arguments
  | .zip => makeZip arguments
  | .map => makeMap arguments
  | .filter => makeFilter arguments
  | .reversed => do
      arguments.requireUnnamed (text "reversed")
      Arguments.between (text "reversed") 1 1 arguments.positional
      reverseOf (arguments.positional.headD .nothing)
  | .type => classOf arguments
  | .exception kind => makeException kind arguments
  | kind =>
      match kind with
      | .nothing | .generator | .function | .builtinFunction | .module | .dictKeys | .dictValues
      | .dictItems =>
          complain ⟨.typeError, text "cannot create " ++ Complaint.marked kind.name ++
            text " instances"⟩
      | _ => unsupported "this class"

end Stencil.Run
