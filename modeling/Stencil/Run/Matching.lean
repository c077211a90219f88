import Stencil.Run.Expression

/-! # Matching values against patterns

A pattern fits a value or does not, and a pattern that fits gives values to names. The
names get their values only when the whole pattern fits.
-/

namespace Stencil.Run

open Script

/-- The names that a pattern gives values to, if it fits. -/
abbrev Fit := Option (List (Name × Value))

/-- A sequence that a pattern can fit: its length, and a number of its items from a place on. -/
structure Matchable where
  count : Nat
  /-- As many items as wanted, from a place on. -/
  items : Nat → Nat → List Value

/-- Known items as a sequence that a pattern can fit. -/
def Matchable.ofList (items : List Value) : Matchable :=
  ⟨items.length, fun place wanted => (items.drop place).take wanted⟩

/-- The sequence that a value is for patterns: texts are none. -/
def matchable? (value : Value) : Action (Option Matchable) := do
  match value with
  | .tuple items => return some (.ofList items)
  | .range start stop step =>
      let count := rangeLength start stop step
      let item (place : Nat) : Value := .int (start + place * step)
      if !fitsPlace count then complain .sizeTooLarge
      else
        return some ⟨count, fun place wanted =>
          (List.range wanted).map fun next => item (place + next)⟩
  | .ref address =>
      match ← load address with
      | .list items => return some (.ofList items.toList)
      | _ => return none
  | _ => return none

/-- A pattern with a star. -/
def isRestPattern : Pattern → Bool
  | .starred _ => true
  | _ => false

/-- A pattern with a star that keeps nothing. -/
def isDroppedRest : Pattern → Bool
  | .starred none => true
  | _ => false

/-- The items of a sequence, one for each pattern: a pattern with a star gets a list of what the
others leave over. -/
def dealItems (patterns : List Pattern) (given : Matchable) : Action (Option (List Value)) := do
  match patterns.findIdx? isRestPattern with
  | none =>
      if given.count = patterns.length then return some (given.items 0 given.count)
      else return none
  | some place =>
      let after := patterns.length - place - 1
      if given.count < place + after then return none
      else
        let left := if patterns.any isDroppedRest then 0 else given.count - place - after
        if roomLimit < 8 * left then outOfRoom
        else
          let rest ← newList (given.items place left).toArray
          return some (given.items 0 place ++ rest :: given.items (given.count - after) after)

/-- A kind whose values fit the only pattern in parentheses behind their class. -/
def fitsItself : Kind → Bool
  | .bool | .byteArray | .bytes | .dict | .float | .frozenSet | .int | .list | .set | .string
  | .tuple => true
  | _ => false

/-- The values of keys that differ, if a mapping has all of them. -/
def valuesOfKeys (entries : List (Value × Value)) (seen : List Value) :
    List Value → Action (Option (List Value))
  | [] => return some []
  | key :: rest => do
      requireKey key
      if seen.any key.sameKey then
        complain ⟨.valueError, text "mapping pattern checks duplicate key (" ++ (← display key) ++
          text ")"⟩
      else
        match lookupKey key entries with
        | none => return none
        | some value => return (← valuesOfKeys entries (key :: seen) rest).map (value :: ·)

/-- The attributes of a value with some names, if it has all of them. -/
def attributesOf (value : Value) : List Name → Action (Option (List Value))
  | [] => return some []
  | name :: rest => do
      match ← attributeOf? value name with
      | none => return none
      | some found => return (← attributesOf value rest).map (found :: ·)

/-- The values that the patterns behind a class are matched against, if the value is of it. -/
def classValues (cls value : Value) (positional : Nat) (fields : List Name) :
    Action (Option (List Value)) := do
  match cls with
  | .ofKind kind =>
      if !(← kindOf value).isBelow kind then return none
      else
        let most := if fitsItself kind then 1 else 0
        if most < positional then
          complain (.call kind.name (text "accepts " ++ natText 10 most ++
            text " positional sub-pattern" ++ Complaint.plural most ++ text " (" ++
            natText 10 positional ++ text " given)"))
        else
          return (← attributesOf value fields).map (List.replicate positional value ++ ·)
  | _ => complain (.type "called match pattern must be a type")

/-- A name that may be missing gets a value. -/
def capture (target : Option Name) (value : Value) : Fit :=
  some (match target with
    | some name => [(name, value)]
    | none => [])

mutual

/-- The fit of a value and a pattern. -/
def fitPattern (engine : Engine) (scene : Scene) : Pattern → Value → Action Fit
  | .value expression, value => do
      let wanted ← evaluate engine scene expression
      return if ← areEqual value wanted then some [] else none
  | .singleton constant, value => do
      let wanted ← constantValue constant
      return if value.isSame wanted then some [] else none
  | .sequence items, value => do
      match ← matchable? value with
      | none => return none
      | some given =>
          match ← dealItems items given with
          | none => return none
          | some dealt => fitAll engine scene items dealt
  | .mapping keys patterns rest, value => do
      match value.entriesIn? (← get) with
      | none => return none
      | some entries =>
          if entries.length < keys.length then return none
          else
            let keys ← evaluateItems engine scene .notIterable keys
            match ← valuesOfKeys entries [] keys with
            | none => return none
            | some values =>
                match ← fitAll engine scene patterns values, rest with
                | some found, some name => do
                    let others := entries.filter fun entry => !keys.any entry.1.sameKey
                    return some (found ++ [(name, ← newDict others)])
                | fit, _ => return fit
  | .ofClass cls positional fields named, value => do
      let cls ← evaluate engine scene cls
      match ← classValues cls value positional.length fields with
      | none => return none
      | some values =>
          match ← fitAll engine scene positional (values.take positional.length) with
          | none => return none
          | some first =>
              let second ← fitAll engine scene named (values.drop positional.length)
              return second.map (first ++ ·)
  | .starred target, value => return capture target value
  | .capture target, value => return capture target value
  | .bound pattern target, value => do
      return (← fitPattern engine scene pattern value).map (· ++ [(target, value)])
  | .alternatives patterns, value => fitAny engine scene patterns value

/-- The fit of several values and as many patterns. -/
def fitAll (engine : Engine) (scene : Scene) : List Pattern → List Value → Action Fit
  | pattern :: patterns, value :: values => do
      match ← fitPattern engine scene pattern value with
      | none => return none
      | some first => return (← fitAll engine scene patterns values).map (first ++ ·)
  | _, _ => return some []

/-- The fit of a value and the first pattern that fits. -/
def fitAny (engine : Engine) (scene : Scene) : List Pattern → Value → Action Fit
  | [], _ => return none
  | pattern :: patterns, value => do
      match ← fitPattern engine scene pattern value with
      | none => fitAny engine scene patterns value
      | found => return found

end

end Stencil.Run
