import Stencil.Run.Arguments

/-! # Methods of mappings and sets

A mapping gives the values of keys and views of itself; a dictionary can also be
changed. What a dictionary is updated from is another mapping or an iterable of pairs.
-/

namespace Stencil.Run

open Script

/-- What a method of a dictionary or a set does. -/
abbrev MappingMethod := Engine → Address → Arguments → Action Value

namespace MappingMethod

/-- The content of the dictionary at an address is changed. -/
def changeContent (address : Address) (step : Dictionary → Dictionary) : Action Unit :=
  change address fun
    | .dict content => .dict (step content)
    | other => other

/-- The value of a key, or another one. -/
def find (owner : String) : MappingMethod := fun _ address arguments => do
  arguments.requireUnnamed (text (owner ++ ".get"))
  Arguments.between (text "get") 1 2 arguments.positional
  match arguments.positional with
  | [] => return .nothing
  | key :: rest => do
      requireKey key
      return (lookupKey key (← entriesOf address)).getD (rest.headD .nothing)

/-- The dictionary behind an address. -/
def dictAt (address : Address) : Action Address := do
  match ← load address with
  | .proxy dict => return dict
  | _ => return address

/-- A view of a mapping. -/
def viewing (owner name : String) (kind : ViewKind) : String × MappingMethod :=
  (name, fun _ address arguments => do
    arguments.requireNone (text (owner ++ "." ++ name))
    return .view kind (← dictAt address))

/-- A dictionary with the same entries. -/
def copy (owner : String) : MappingMethod := fun _ address arguments => do
  arguments.requireNone (text (owner ++ ".copy"))
  return .ref (← allocate (.dict ((← get).dictionary address).copy))

/-- A dictionary loses its entries. -/
def clear : MappingMethod := fun _ address arguments => do
  arguments.requireNone (text "dict.clear")
  changeContent address fun _ => .ofEntries []
  return .nothing

/-- An entry is taken out of a dictionary, and its value is given back. -/
def pop : MappingMethod := fun _ address arguments => do
  arguments.requireUnnamed (text "dict.pop")
  Arguments.between (text "pop") 1 2 arguments.positional
  match arguments.positional with
  | [] => return .nothing
  | key :: rest => do
      requireKey key
      match lookupKey key (← entriesOf address), rest with
      | some value, _ => do
          changeContent address (.erase key)
          return value
      | none, usual :: _ => return usual
      | none, [] => missingKey key

/-- The last entry is taken out of a dictionary. -/
def popItem : MappingMethod := fun _ address arguments => do
  arguments.requireNone (text "dict.popitem")
  match (← entriesOf address).getLast? with
  | some (key, value) => do
      changeContent address .dropLast
      return .tuple [key, value]
  | none => raiseWith .keyError [.string (text "popitem(): dictionary is empty")]

/-- The value of a key, which gets one if it has none. -/
def setDefault : MappingMethod := fun _ address arguments => do
  arguments.requireUnnamed (text "dict.setdefault")
  Arguments.between (text "setdefault") 1 2 arguments.positional
  match arguments.positional with
  | [] => return .nothing
  | key :: rest => do
      requireKey key
      match lookupKey key (← entriesOf address) with
      | some value => return value
      | none => do
          let usual := rest.headD .nothing
          changeContent address (.insert key usual)
          return usual

/-- The pair that an element of an iterable is. -/
def pairOf (engine : Engine) (place : Nat) (element : Value) : Action (Value × Value) := do
  let items ← collectOr engine
    ⟨.typeError, text "cannot convert dictionary update sequence element #" ++
      natText 10 place ++ text " to a sequence"⟩ element
  match items with
  | [key, value] => do
      requireKey key
      return (key, value)
  | _ =>
      complain ⟨.valueError, text "dictionary update sequence element #" ++ natText 10 place ++
        text " has length " ++ natText 10 items.length ++ text "; 2 is required"⟩

/-- The pairs that an iterator still has become entries. -/
def insertDrawn (engine : Engine) (address : Address) (iterator : Value) : Nat → Nat → Action Unit
  | 0, _ => throw .unfinished
  | rounds + 1, place => do
      match ← draw engine iterator with
      | none => return ()
      | some element => do
          let (key, value) ← pairOf engine place element
          changeContent address (.insert key value)
          insertDrawn engine address iterator rounds (place + 1)

/-- A dictionary is updated from a mapping or from pairs, and from named values. -/
def updateFrom (engine : Engine) (address : Address) (source : Option Value)
    (named : List (Name × Value)) : Action Unit := do
  match source with
  | none => pure ()
  | some source =>
      match source.entriesIn? (← get) with
      | some entries => changeContent address (.merge entries)
      | none => do
          let iterator ← iterate source
          insertDrawn engine address iterator (← roundsOf iterator) 0
  changeContent address (.merge (named.map fun entry => (.string entry.1, entry.2)))

/-- A dictionary is updated. -/
def update : MappingMethod := fun engine address arguments => do
  Arguments.between (text "update") 0 1 arguments.positional
  updateFrom engine address arguments.positional.head? arguments.named
  return .nothing

/-- The methods that every mapping has, which name its kind in complaints. -/
def reading (owner : String) : List (String × MappingMethod) :=
  [("get", find owner), viewing owner "keys" .keys, viewing owner "values" .values,
    viewing owner "items" .items, ("copy", copy owner)]

/-- The methods that only dictionaries have. -/
def changing : List (String × MappingMethod) :=
  [("clear", clear), ("pop", pop), ("popitem", popItem), ("setdefault", setDefault),
    ("update", update)]

/-- The keys that an iterator still has get one value in the dictionary at an address. -/
def insertKeys (engine : Engine) (address : Address) (value iterator : Value) : Nat → Action Unit
  | 0 => throw .unfinished
  | rounds + 1 => do
      match ← draw engine iterator with
      | none => return ()
      | some key => do
          requireKey key
          changeContent address (.insert key value)
          insertKeys engine address value iterator rounds

/-- A new dictionary in which keys have one value. -/
def fromKeys (engine : Engine) (arguments : Arguments) : Action Value := do
  arguments.requireUnnamed (text "dict.fromkeys")
  Arguments.between (text "fromkeys") 1 2 arguments.positional
  match arguments.positional with
  | [] => return .nothing
  | keys :: rest => do
      let address ← allocate (.dict (.ofEntries []))
      let iterator ← iterate keys
      insertKeys engine address (rest.headD .nothing) iterator (← roundsOf iterator)
      return .ref address

/-- The methods of dictionaries. -/
def ofDicts : List (String × MappingMethod) :=
  reading "dict" ++ changing ++ [("fromkeys", fun engine _ arguments => fromKeys engine arguments)]

/-- The methods of dictionaries that cannot be changed through the value. -/
def ofProxies : List (String × MappingMethod) := reading "mappingproxy"

/-- The members of the set at an address are changed. -/
def changeMembers (address : Address) (step : List Value → List Value) : Action Unit :=
  change address fun
    | .set members => .set (step members)
    | other => other

/-- The methods of sets that are run. -/
def ofSets : List (String × MappingMethod) :=
  [("add", fun _ address arguments => do
      let member ← arguments.single (text "set.add")
      requireKey member
      changeMembers address (insertMember member)
      return .nothing),
    ("discard", fun _ address arguments => do
      let member ← arguments.single (text "set.discard")
      requireKey member
      changeMembers address fun members => members.filter fun other => !member.sameKey other
      return .nothing),
    ("clear", fun _ address arguments => do
      arguments.requireNone (text "set.clear")
      changeMembers address fun _ => []
      return .nothing)]

end MappingMethod

end Stencil.Run
