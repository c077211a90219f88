import Stencil.Number.BinaryFraction
import Stencil.Run.Kind
import Stencil.Script.PublicNames
import Stencil.Script.Scope

/-! # Values and the store

A value is either complete in itself or the address of an object in the store.
Objects are what can change or has an identity: lists, dictionaries, functions,
exceptions, whatever iterates, and the frames that hold the names of a call. A run
changes a store and ends with a result, with an exception, or without an answer.

The entries of a dictionary lie in slots, in the order in which their keys came. An entry that is
taken out leaves its slot empty, and a new entry gets the slot behind all others. When none is left,
the entries are laid out anew without empty slots between them, in a table with room for more. An
iterator remembers a slot, so the slots tell what it finds in a dictionary that changes.
-/

namespace Stencil.Run

open Script

/-- The place of an object in the store. -/
abbrev Address := Nat

/-- What a view shows of a dictionary. -/
inductive ViewKind where
  | keys | values | items
  deriving DecidableEq, Repr

/-- Functions that every program knows. -/
inductive Builtin where
  /-- The text that a directive writes for a value. -/
  | written
  | abs | all | any | ascii | bin | callable | chr | divmod | format | getattr | hasattr | hash
  | hex | isinstance | issubclass | iter | len | max | min | next | oct | ord | pow | print
  | repr | round | sorted | sum
  /-- A function of which only the name is known. -/
  | other (name : Name)
  deriving DecidableEq, Repr

/-- Values. -/
inductive Value where
  | nothing
  | ellipsis
  /-- The answer of an operation that is not defined. -/
  | notImplemented
  | bool (value : Bool)
  | int (value : Int)
  | float (value : Float)
  | string (value : Text)
  | bytes (value : List Nat)
  | tuple (items : List Value)
  | range (start stop step : Int)
  | slice (lower upper step : Value)
  | view (kind : ViewKind) (dict : Address)
  | ofKind (kind : Kind)
  | builtin (function : Builtin)
  /-- A method together with the value that it belongs to. -/
  | method (receiver : Value) (name : Name)
  /-- A method of the values of a kind, which takes such a value as its first argument. -/
  | unboundMethod (kind : Kind) (name : Name)
  | publicModule
  | ref (address : Address)
  deriving Inhabited

/-- The names of a running function, a comprehension, or a function around them. -/
structure Layer where
  own : List Name
  /-- The names that are declared to belong to the program. -/
  declared : List Name
  /-- The frame with the values of its own names. -/
  frame : Address

/-- Where a piece of the program runs. -/
structure Scene where
  /-- The layers of names, innermost first. -/
  layers : List Layer
  globals : Address
  /-- What stands before the names of functions that are defined here. -/
  path : Text
  collector : Option Address

/-- A parameter of a function with its default. -/
structure FormalParameter where
  kind : ParameterKind
  name : Name
  standard : Option Value

/-- What a call of a function runs. -/
inductive FunctionBody where
  | block (body : List Stmt)
  | value (body : Expr)

/-- A function of the program. -/
structure Function where
  path : Text
  parameters : List FormalParameter
  body : FunctionBody
  own : List Name
  /-- The names that are declared to belong to the program. -/
  declared : List Name
  isGenerator : Bool
  isAsync : Bool
  scene : Scene

/-- What a comprehension makes of each round. -/
inductive Yielded where
  | element (value : Expr)
  | pair (key value : Expr)

/-- A comprehension on its way: the clauses whose sources are being iterated, innermost
first, and the clauses behind them. -/
structure Pipeline where
  scene : Scene
  yielded : Yielded
  entered : List (Value × Clause)
  waiting : List Clause

/-- How a statement is left. -/
inductive Flow where
  | next
  | breakLoop
  /-- The innermost loop goes on with its next round. -/
  | continueLoop
  | returned (value : Value)
  deriving Inhabited

/-- How a statement is left, or the exception that ends it. -/
abbrev Departure := Except Address Flow

/-- What is left of the body of a generator around the place where it stands. -/
inductive Remainder where
  | block (rest : List Stmt)
  /-- A loop as long as a test holds, inside its body. -/
  | whileLoop (test : Expr) (body otherwise : List Stmt)
  | forLoop (target : Target) (iterator : Value) (body otherwise : List Stmt)
  | handOn (iterator : Value)
  /-- A block with handlers for its exceptions, inside the block. -/
  | guarded (handlers : List Handler) (otherwise always : List Stmt)
  /-- A handler of an exception, inside its block; the name loses its value behind it. -/
  | handling (exception : Address) (name : Option Name)
  /-- A block that runs in any case comes next. -/
  | ensured (always : List Stmt)
  /-- A block that runs in any case, inside that block; it was entered by a departure. -/
  | concluding (departure : Departure)

/-- A walk along the slots of a dictionary. -/
structure ViewWalk where
  kind : ViewKind
  dict : Address
  slot : Nat
  /-- The number of entries that were still to come when the walk began. -/
  left : Nat
  /-- The size that the dictionary must have; none will do when it has had another one. -/
  size : Option Nat

/-- Something that hands out values one after the other. -/
inductive Cursor where
  | finished
  | items (rest : List Value)
  /-- The elements of a list from an index on. -/
  | list (address : Address) (index : Nat)
  /-- The elements of a list before an index, from behind. -/
  | listBackwards (address : Address) (index : Nat)
  | view (walk : ViewWalk)
  /-- What a view shows before a slot, from behind. -/
  | viewBackwards (walk : ViewWalk)
  /-- The members of a set from an index on; its size must stay. -/
  | set (address : Address) (index size : Nat)
  | range (next step : Int) (count : Nat)
  | enumerate (source : Value) (count : Int)
  /-- The values of several iterators at once, which may have to end together. -/
  | zip (sources : List Value) (isStrict : Bool)
  | map (function : Value) (sources : List Value)
  | filter (test source : Value)
  | pipeline (state : Pipeline)
  /-- A call of a generator that stands still: how the last statement was left, what is left of
  the body, and values that have been handed over but not drawn. -/
  | paused (scene : Scene) (departure : Departure) (rest : List Remainder) (ready : List Value)
  /-- A call of a generator that is running, with the values handed over so far. -/
  | running (found : Array Value)

/-- The slots of the entries of a dictionary. -/
structure Slots where
  /-- The slots that hold entries, in order. -/
  taken : List Nat
  next : Nat
  /-- The number of new entries before the entries are laid out anew. -/
  free : Nat
  deriving DecidableEq, Repr

namespace Slots

/-- The number of entries of a table with at least some places: two thirds of the places, whose
number is a power of two and at least eight. -/
def room (places : Nat) : Nat := twoTo (max 3 ((places - 1).log2 + 1) + 1) / 3

/-- The first slots for a number of entries. -/
def ofCount (count : Nat) : Slots :=
  ⟨List.range count, count, room ((3 * count + 1) / 2) - count⟩

/-- The slots after the entries have been laid out anew. -/
def renewed (slots : Slots) : Slots :=
  let count := slots.taken.length
  ⟨List.range count, count, room (3 * count) - count⟩

/-- Laying the entries out anew keeps their number. -/
theorem length_taken_renewed (slots : Slots) :
    slots.renewed.taken.length = slots.taken.length := by
  simp [renewed]

/-- The slots with one for a new entry. -/
def push (slots : Slots) : Slots :=
  let before := if slots.free = 0 then slots.renewed else slots
  ⟨before.taken ++ [before.next], before.next + 1, before.free - 1⟩

/-- A new entry takes one more slot. -/
theorem length_taken_push (slots : Slots) :
    slots.push.taken.length = slots.taken.length + 1 := by
  by_cases isFull : slots.free = 0 <;> simp [push, isFull, length_taken_renewed]

/-- The slots without that of the entry at a place. -/
def eraseAt (place : Nat) (slots : Slots) : Slots :=
  { slots with taken := slots.taken.eraseIdx place }

/-- The slots without the last one, which the next new entry gets. -/
def dropLast (slots : Slots) : Slots :=
  { slots with taken := slots.taken.dropLast, next := slots.taken.getLastD slots.next }

end Slots

/-- The content of a dictionary. -/
structure Dictionary where
  /-- The keys with their values, in the order in which the keys came. -/
  entries : List (Value × Value)
  slots : Slots

/-- Objects of the store. -/
inductive Object where
  | list (items : Array Value)
  | dict (content : Dictionary)
  /-- A set, its members in the order in which they came. -/
  | set (members : List Value)
  | namespace (fields : List (Name × Value))
  /-- A dictionary that cannot be changed through this object. -/
  | proxy (dict : Address)
  | function (function : Function)
  /-- Something that iterates, with the kind that it shows. -/
  | cursor (kind : Kind) (cursor : Cursor)
  /-- An exception with the arguments that it was made with. -/
  | exception (kind : ExceptionKind) (arguments : List Value)
  /-- The names of a call or of the program with their values. -/
  | frame (slots : List (Name × Value))
  deriving Inhabited

/-- The objects of a run, and the exceptions being handled, the last one first. -/
structure Store where
  objects : Array Object
  handling : List Address

namespace Store

/-- A store without objects. -/
def empty : Store := ⟨#[], []⟩

/-- The object at an address. -/
def object (store : Store) (address : Address) : Object :=
  store.objects.getD address (.frame [])

/-- The store with one more object, which gets the next address. -/
def push (store : Store) (object : Object) : Store :=
  { store with objects := store.objects.push object }

/-- The store with a changed object. -/
def change (store : Store) (address : Address) (step : Object → Object) : Store :=
  { store with objects := store.objects.modify address step }

end Store

/-- Why a run stops. -/
inductive Stop where
  | raised (exception : Address)
  /-- The run takes more steps than it may. -/
  | unfinished
  /-- The program uses a part of the language that is not run. -/
  | unsupported (part : String)
  deriving DecidableEq, Repr

/-- A step of a run: it changes the store, whether it gives a result or stops. -/
abbrev Action := EStateM Stop Store

/-- A new object. -/
def allocate (object : Object) : Action Address := fun store =>
  .ok store.objects.size (store.push object)

/-- The object at an address. -/
def load (address : Address) : Action Object := do
  return (← get).object address

/-- The object at an address is replaced. -/
def save (address : Address) (object : Object) : Action Unit :=
  modify fun store => store.change address fun _ => object

/-- The object at an address is changed. -/
def change (address : Address) (step : Object → Object) : Action Unit :=
  modify fun store => store.change address step

/-- A new list. -/
def newList (items : Array Value) : Action Value := do
  return .ref (← allocate (.list items))

/-- A dictionary with entries whose keys differ. -/
def Dictionary.ofEntries (entries : List (Value × Value)) : Dictionary :=
  ⟨entries, .ofCount entries.length⟩

/-- A new dictionary with entries whose keys differ. -/
def newDict (entries : List (Value × Value)) : Action Value := do
  return .ref (← allocate (.dict (.ofEntries entries)))

/-- A run up to the exception that ends it, if there is one. -/
def attempt {α : Type} (action : Action α) : Action (Except Address α) := fun store =>
  match action store with
  | .ok result store => .ok (.ok result) store
  | .error (.raised exception) store => .ok (.error exception) store
  | .error stop store => .error stop store

end Stencil.Run
