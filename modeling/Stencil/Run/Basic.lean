import Stencil.Number.BinaryFraction
import Stencil.Run.Complaint
import Stencil.Run.Value

/-! # Kinds and truth of values

The kind of a value, whether it counts as true, and how a complaint becomes an
exception of a run.
-/

namespace Stencil.Run

open Script

/-- An exception with some arguments is raised. -/
def raiseWith {α : Type} (kind : ExceptionKind) (arguments : List Value) : Action α := do
  throw (.raised (← allocate (.exception kind arguments)))

/-- An exception that words a complaint is raised. -/
def complain {α : Type} (complaint : Complaint) : Action α :=
  raiseWith complaint.kind [.string complaint.message]

/-- A missing key is reported by the key itself. -/
def missingKey {α : Type} (key : Value) : Action α := raiseWith .keyError [key]

/-- A value would take more room than there is. -/
def outOfRoom {α : Type} : Action α := raiseWith .memoryError []

/-- A run of code that uses a part of the language that is not run. -/
def unsupported {α : Type} (part : String) : Action α := throw (.unsupported part)

/-- The kind of a view. -/
def ViewKind.kind : ViewKind → Kind
  | .keys => .dictKeys
  | .values => .dictValues
  | .items => .dictItems

/-- The kind of an object. -/
def Object.kind : Object → Kind
  | .list _ => .list
  | .dict _ => .dict
  | .set _ => .set
  | .namespace _ => .namespace
  | .proxy _ => .proxy
  | .function _ => .function
  | .cursor kind _ => kind
  | .exception kind _ => .exception kind
  | .frame _ => .dict

/-- The kind of a value in a store. -/
def Value.kindIn (store : Store) : Value → Kind
  | .nothing => .nothing
  | .ellipsis => .ellipsis
  | .notImplemented => .notImplemented
  | .bool _ => .bool
  | .int _ => .int
  | .float _ => .float
  | .string _ => .string
  | .bytes _ => .bytes
  | .tuple _ => .tuple
  | .range _ _ _ => .range
  | .slice _ _ _ => .slice
  | .view kind _ => kind.kind
  | .ofKind _ => .type
  | .builtin .written => .function
  | .builtin _ | .method _ _ => .builtinFunction
  | .unboundMethod _ _ => .methodDescriptor
  | .publicModule => .module
  | .ref address => (store.object address).kind

/-- The kind of a value. -/
def kindOf (value : Value) : Action Kind := do
  return value.kindIn (← get)

/-- A complaint about the kind of a value. -/
def complainOf {α : Type} (complaint : Kind → Complaint) (value : Value) : Action α := do
  complain (complaint (← kindOf value))

/-- The number of whole numbers in a range. -/
def rangeLength (start stop step : Int) : Nat :=
  if 0 < step then ((stop - start + step - 1) / step).toNat
  else ((start - stop - step - 1) / (-step)).toNat

/-- The content of the dictionary at an address, or of the one behind it. -/
def Store.dictionary (store : Store) (address : Address) : Dictionary :=
  match store.object address with
  | .dict content => content
  | .proxy dict =>
      match store.object dict with
      | .dict content => content
      | _ => .ofEntries []
  | _ => .ofEntries []

/-- The entries of the dictionary at an address, or of the one behind it. -/
def Store.entries (store : Store) (address : Address) : List (Value × Value) :=
  (store.dictionary address).entries

/-- The entries of a dictionary. -/
def entriesOf (address : Address) : Action (List (Value × Value)) := do
  return (← get).entries address

/-- The length of a value that has one. -/
def Value.lengthIn? (store : Store) : Value → Option Nat
  | .string value => some value.length
  | .bytes value => some value.length
  | .tuple items => some items.length
  | .range start stop step => some (rangeLength start stop step)
  | .view _ dict => some (store.entries dict).length
  | .ref address =>
      match store.object address with
      | .list items => some items.size
      | .dict content => some content.entries.length
      | .set members => some members.length
      | .proxy _ => some (store.entries address).length
      | _ => none
  | _ => none

/-- A value that counts as true. -/
def Value.isTrueIn (store : Store) (value : Value) : Bool :=
  match value with
  | .nothing => false
  | .bool value => value
  | .int value => value != 0
  | .float value => value != 0
  | other =>
      match other.lengthIn? store with
      | some length => length != 0
      | none => true

/-- A value counts as true. -/
def isTrue (value : Value) : Action Bool := do
  return value.isTrueIn (← get)

/-- The whole number that a whole number or a truth value stands for. -/
def Value.int? : Value → Option Int
  | .int value => some value
  | .bool value => some (if value then 1 else 0)
  | _ => none

/-- A whole number that can be a place in a sequence, or a size: one of 64 bits. -/
def fitsPlace (number : Int) : Bool :=
  let bound : Int := twoTo 63
  number < bound && -bound ≤ number

/-- The most bytes that one value may take. -/
def roomLimit : Nat := twoTo 36

/-- A value that is nothing. -/
def Value.isNothing : Value → Bool
  | .nothing => true
  | _ => false

/-- The name of a public function. -/
def Builtin.label : Builtin → Text
  | .written => text "str_safe"
  | .abs => text "abs"
  | .all => text "all"
  | .any => text "any"
  | .ascii => text "ascii"
  | .bin => text "bin"
  | .callable => text "callable"
  | .chr => text "chr"
  | .divmod => text "divmod"
  | .format => text "format"
  | .getattr => text "getattr"
  | .hasattr => text "hasattr"
  | .hash => text "hash"
  | .hex => text "hex"
  | .isinstance => text "isinstance"
  | .issubclass => text "issubclass"
  | .iter => text "iter"
  | .len => text "len"
  | .max => text "max"
  | .min => text "min"
  | .next => text "next"
  | .oct => text "oct"
  | .ord => text "ord"
  | .pow => text "pow"
  | .print => text "print"
  | .repr => text "repr"
  | .round => text "round"
  | .sorted => text "sorted"
  | .sum => text "sum"
  | .other name => name

/-- The public functions that are run. -/
def Builtin.known : List Builtin :=
  [.abs, .all, .any, .ascii, .bin, .callable, .chr, .divmod, .format, .getattr, .hasattr, .hash,
    .hex, .isinstance, .issubclass, .iter, .len, .max, .min, .next, .oct, .ord, .pow, .print,
    .repr, .round, .sorted, .sum]

/-- The public function with a name. -/
def Builtin.ofName (name : Name) : Builtin :=
  (known.find? fun function => function.label == name).getD (.other name)

/-- The value of a public name. -/
def publicValue? (name : Name) : Option Value :=
  if name == text "Ellipsis" then some .ellipsis
  else if name == text "NotImplemented" then some .notImplemented
  else if name == text "None" then some .nothing
  else if name == text "True" then some (.bool true)
  else if name == text "False" then some (.bool false)
  else if isPublicName name then
    match Kind.ofName? name with
    | some kind => some (.ofKind kind)
    | none => some (.builtin (.ofName name))
  else none

end Stencil.Run
