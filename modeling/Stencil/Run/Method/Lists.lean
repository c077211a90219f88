import Stencil.Run.Arguments
import Stencil.Run.Sorting

/-! # Methods of lists and tuples

A method of a list changes the list at its address. What is appended from an iterable
is appended value by value, so a list grows up to the exception that ends the iteration.
-/

namespace Stencil.Run

open Script

/-- What a method of a list does. -/
abbrev ListMethod := Engine → Address → Arguments → Action Value

namespace ListMethod

/-- The items of the list at an address. -/
def itemsOf (address : Address) : Action (Array Value) := do
  match ← load address with
  | .list items => return items
  | _ => return #[]

/-- The items of the list at an address are changed. -/
def changeItems (address : Address) (step : Array Value → Array Value) : Action Unit :=
  change address fun
    | .list items => .list (step items)
    | other => other

/-- A value comes at the end of a list. -/
def append : ListMethod := fun _ address arguments => do
  let value ← arguments.single (text "list.append")
  changeItems address (·.push value)
  return .nothing

/-- The values that an iterator still has come at the end of a list. -/
def appendDrawn (engine : Engine) (address : Address) (iterator : Value) : Nat → Action Unit
  | 0 => throw .unfinished
  | rounds + 1 => do
      match ← draw engine iterator with
      | none => return ()
      | some value => do
          changeItems address (·.push value)
          appendDrawn engine address iterator rounds

/-- The values that are drawn from an iterable come at the end of a list one after the other. -/
def appendIterated (engine : Engine) (address : Address) (values : Value) : Action Unit := do
  let iterator ← iterate values
  appendDrawn engine address iterator (← roundsOf iterator)

/-- The values of an iterable come at the end of a list. -/
def appendAll (engine : Engine) (address : Address) (values : Value) : Action Unit := do
  match values with
  | .tuple items => changeItems address (· ++ items.toArray)
  | .ref other =>
      match ← load other with
      | .list items => changeItems address (· ++ items)
      | _ => appendIterated engine address values
  | _ => appendIterated engine address values

/-- The values of an iterable come at the end of a list. -/
def extend : ListMethod := fun engine address arguments => do
  appendAll engine address (← arguments.single (text "list.extend"))
  return .nothing

/-- An item is taken out of a list. -/
def pop : ListMethod := fun _ address arguments => do
  arguments.requireUnnamed (text "list.pop")
  Arguments.between (text "pop") 0 1 arguments.positional
  let index ←
    match arguments.positional with
    | [] => pure (-1)
    | index :: _ => smallArgument index
  let items ← itemsOf address
  if items.isEmpty then complain .popEmptyList
  else
    let place := if index < 0 then index + items.size else index
    match if place < 0 then none else items[place.toNat]? with
    | some item => do
        changeItems address (withoutPlaces [place.toNat])
        return item
    | none => complain (.indexRange "pop")

/-- A value is put into a list. -/
def insert : ListMethod := fun _ address arguments => do
  arguments.requireUnnamed (text "list.insert")
  Arguments.between (text "insert") 2 2 arguments.positional
  match arguments.positional with
  | [index, value] => do
      let index ← smallArgument index
      changeItems address fun items =>
        let place := (Selection.clamp items.size 0 items.size index).toNat
        (items.toList.take place ++ value :: items.toList.drop place).toArray
      return .nothing
  | _ => return .nothing

/-- A list loses its items. -/
def clear : ListMethod := fun _ address arguments => do
  arguments.requireNone (text "list.clear")
  changeItems address fun _ => #[]
  return .nothing

/-- A list with the same items. -/
def copy : ListMethod := fun _ address arguments => do
  arguments.requireNone (text "list.copy")
  newList (← itemsOf address)

/-- The items of a list are put in the opposite order. -/
def reverse : ListMethod := fun _ address arguments => do
  arguments.requireNone (text "list.reverse")
  changeItems address Array.reverse
  return .nothing

/-- How values are to be sorted, by the arguments that say so. -/
def sortArguments (arguments : Arguments) : Action (Value × Bool) := do
  let signature : Signature :=
    { callee := text "sort"
      unnamed := 0
      names := ["key", "reverse"]
      positions := 0
      needed := 0 }
  let bound ← signature.bind arguments
  let isReversed ←
    match bound[1]? with
    | some (some reverse) => pure ((← wholeArgument reverse) != 0)
    | _ => pure false
  return ((bound.head?.getD none).getD .nothing, isReversed)

/-- A list is sorted. -/
def sort : ListMethod := fun engine address arguments => do
  if !arguments.positional.isEmpty then
    complain (.call (text "sort") (text "takes no positional arguments"))
  let (key, isReversed) ← sortArguments arguments
  let sorted ← sortValues engine key isReversed (← itemsOf address).toList
  changeItems address fun _ => sorted.toArray
  return .nothing

/-- A value equals an item. -/
def isItem (value item : Value) : Action Bool :=
  if item.isSame value then return true else areEqual item value

/-- The place of a value from a place on. -/
def placeFrom (value : Value) : Nat → List Value → Action (Option Nat)
  | _, [] => return none
  | place, item :: rest => do
      if ← isItem value item then return some place else placeFrom value (place + 1) rest

/-- The number of items that equal a value. -/
def countItems (value : Value) : List Value → Action Nat
  | [] => return 0
  | item :: rest => do
      let isFound ← isItem value item
      return (← countItems value rest) + if isFound then 1 else 0

/-- The place of a value among items, perhaps between two places only. -/
def index (kind : String) (missing : Value → Action Value) (items : List Value)
    (arguments : Arguments) : Action Value := do
  arguments.requireUnnamed (text (kind ++ ".index"))
  Arguments.between (text "index") 1 3 arguments.positional
  match arguments.positional with
  | [] => return .nothing
  | value :: places => do
      if places.any fun place => place.int?.isNone then
        complain (.type "slice indices must be integers or have an __index__ method")
      let selection ← settle (Selection.ofSlice items.length (places.headD .nothing)
        ((places.drop 1).headD .nothing) .nothing)
      match ← placeFrom value selection.start.toNat (selection.pick items) with
      | some place => return .int (place : Nat)
      | none => missing value

/-- The first item that equals a value is taken out of a list. -/
def remove : ListMethod := fun _ address arguments => do
  let value ← arguments.single (text "list.remove")
  match ← placeFrom value 0 (← itemsOf address).toList with
  | some place => do
      changeItems address (withoutPlaces [place])
      return .nothing
  | none => complain (.value "list.remove(x): x not in list")

/-- The methods of lists that are run. -/
def known : List (String × ListMethod) :=
  [("append", append), ("extend", extend), ("pop", pop), ("insert", insert), ("clear", clear),
    ("copy", copy), ("reverse", reverse), ("sort", sort), ("remove", remove),
    ("index", fun _ address arguments => do
      let missing (value : Value) : Action Value := do
        complain ⟨.valueError, (← display value) ++ text " is not in list"⟩
      index "list" missing (← itemsOf address).toList arguments),
    ("count", fun _ address arguments => do
      let value ← arguments.single (text "list.count")
      return .int (← countItems value (← itemsOf address).toList : Nat))]

end ListMethod

/-- The methods of tuples. -/
def tupleMethods : List (String × (List Value → Arguments → Action Value)) :=
  [("index", fun items arguments =>
      ListMethod.index "tuple" (fun _ => complain (.value "tuple.index(x): x not in tuple"))
        items arguments),
    ("count", fun items arguments => do
      let value ← arguments.single (text "tuple.count")
      return .int (← ListMethod.countItems value items : Nat))]

end Stencil.Run
