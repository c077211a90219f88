import Stencil.Run.Arithmetic

/-! # Iteration

What can be iterated over has a cursor, which hands out one value after the other
until nothing is left. Lists and dictionaries are read where the cursor stands at
that moment; comprehensions, functions and generators are run as far as the next value
needs.
-/

namespace Stencil.Run

open Script

/-- The operations of a run that begin a deeper level: calls, and pieces of the program that are
run on demand. -/
structure Engine where
  /-- A value is called with arguments by position and by name. -/
  call : Value → List Value → List (Name × Value) → Action Value
  draw : Value → Action (Option Value)
  expression : Scene → Expr → Action Value
  assign : Scene → Target → Value → Action Unit
  body : Scene → FunctionBody → Action Value
  /-- The body of a generator is run up to its next value. -/
  resume : Address → Scene → Departure → List Remainder → Action (Option Value)

/-- The most rounds of a loop that does not know how many there are. -/
def roundLimit : Nat := 1000000000

/-- The number of values that a cursor is known to have left. -/
def Cursor.remaining (store : Store) : Cursor → Nat
  | .items rest => rest.length
  | .list address _ =>
      match store.object address with
      | .list elements => elements.size
      | _ => 0
  | .listBackwards _ index => index
  | .view walk | .viewBackwards walk => walk.left
  | .set _ _ size => size
  | .range _ _ count => count
  | _ => 0

/-- The most rounds of a loop over an iterator, which are more than the values that it is known
to have left. -/
def roundsOf (iterator : Value) : Action Nat := do
  match iterator with
  | .ref address =>
      match ← load address with
      | .cursor _ cursor => return roundLimit + cursor.remaining (← get)
      | _ => return roundLimit
  | _ => return roundLimit

/-- A new iterator. -/
def newCursor (kind : Kind) (cursor : Cursor) : Action Value := do
  return .ref (← allocate (.cursor kind cursor))

/-- The kind of what iterates over a view. -/
def ViewKind.iterator : ViewKind → Kind
  | .keys => .iterator "dict_keyiterator"
  | .values => .iterator "dict_valueiterator"
  | .items => .iterator "dict_itemiterator"

/-- A new iterator over a view of a dictionary. -/
def iterateView (kind : ViewKind) (address : Address) : Action Value := do
  let size := (← entriesOf address).length
  newCursor kind.iterator (.view ⟨kind, address, 0, size, some size⟩)

/-- The kind of what iterates over a view from behind. -/
def ViewKind.reverseIterator : ViewKind → Kind
  | .keys => .iterator "dict_reversekeyiterator"
  | .values => .iterator "dict_reversevalueiterator"
  | .items => .iterator "dict_reverseitemiterator"

/-- A new iterator over a view of a dictionary from behind. -/
def reverseView (kind : ViewKind) (address : Address) : Action Value := do
  let content := (← get).dictionary address
  let size := content.entries.length
  newCursor kind.reverseIterator
    (.viewBackwards ⟨kind, address, content.slots.next, size, some size⟩)

/-- What a view shows of an entry. -/
def ViewKind.shown (kind : ViewKind) (entry : Value × Value) : Value :=
  match kind with
  | .keys => entry.1
  | .values => entry.2
  | .items => .tuple [entry.1, entry.2]

/-- A byte as a whole number. -/
def byteValue (byte : Nat) : Value := .int byte

/-- The iterator of a value that can be iterated over. -/
def iterator? (value : Value) : Action (Option Value) := do
  match value with
  | .string value =>
      let kind := if value.all (· < 128) then "str_ascii_iterator" else "str_iterator"
      some <$> newCursor (.iterator kind) (.items (value.map fun point => .string [point]))
  | .bytes value =>
      some <$> newCursor (.iterator "bytes_iterator") (.items (value.map byteValue))
  | .tuple items => some <$> newCursor (.iterator "tuple_iterator") (.items items)
  | .range start stop step =>
      some <$> newCursor (.iterator "range_iterator")
        (.range start step (rangeLength start stop step))
  | .view kind dict => some <$> iterateView kind dict
  | .ref address =>
      match ← load address with
      | .list _ => some <$> newCursor (.iterator "list_iterator") (.list address 0)
      | .dict _ | .proxy _ => some <$> iterateView .keys address
      | .set members =>
          some <$> newCursor (.iterator "set_iterator") (.set address 0 members.length)
      | .cursor _ _ => return some value
      | _ => return none
  | _ => return none

/-- The iterator of a value. -/
def iterate (value : Value) : Action Value := do
  match ← iterator? value with
  | some iterator => return iterator
  | none => complainOf .notIterable value

/-- Where a cursor stands after it has been asked for a value. -/
def moveTo (address : Address) (cursor : Cursor) : Action Unit :=
  change address fun
    | .cursor kind _ => .cursor kind cursor
    | other => other

/-- A cursor is left without values. -/
def finish (address : Address) : Action (Option Value) := do
  moveTo address .finished
  return none

namespace ViewWalk

/-- The dictionary of a walk, if it has the size that it must have; a walk that has met another
size never goes on. -/
def requireSize (address : Address) (place : ViewWalk → Cursor) (walk : ViewWalk) :
    Action Dictionary := do
  let content := (← get).dictionary walk.dict
  if walk.size = some content.entries.length then return content
  else do
    moveTo address (place { walk with size := none })
    complain .dictChanged

/-- The next entry of a walk, which must be one of those that were to come at its start. -/
def advance (address : Address) (walk : ViewWalk) : Action (Option Value) := do
  let content ← walk.requireSize address .view
  match content.firstFrom walk.slot with
  | none => finish address
  | some (slot, entry) =>
      if walk.left = 0 then do
        moveTo address .finished
        complain .dictKeysChanged
      else do
        moveTo address (.view { walk with slot := slot + 1, left := walk.left - 1 })
        return some (walk.kind.shown entry)

/-- The next entry of a walk from behind. -/
def retreat (address : Address) (walk : ViewWalk) : Action (Option Value) := do
  let content ← walk.requireSize address .viewBackwards
  match content.lastBefore walk.slot with
  | none => finish address
  | some (slot, entry) => do
      moveTo address (.viewBackwards { walk with slot := slot, left := walk.left - 1 })
      return some (walk.kind.shown entry)

end ViewWalk

/-- All of several tests hold. -/
def allHold (engine : Engine) (scene : Scene) : List Expr → Action Bool
  | [] => return true
  | first :: rest => do
      if ← isTrue (← engine.expression scene first) then allHold engine scene rest
      else return false

/-- What a round of a comprehension yields. -/
def Yielded.evaluate (engine : Engine) (scene : Scene) : Yielded → Action Value
  | .element value => engine.expression scene value
  | .pair key value => do
      let key ← engine.expression scene key
      let value ← engine.expression scene value
      return .tuple [key, value]

/-- The next value of a comprehension. -/
def Pipeline.advance (engine : Engine) (address : Address) (rounds : Nat) (state : Pipeline) :
    Action (Option Value) := do
  match rounds with
  | 0 => throw .unfinished
  | rounds + 1 =>
      match state.entered with
      | [] => finish address
      | (iterator, .mk isAsync target source tests) :: outer =>
          match ← engine.draw iterator with
          | none =>
              let waiting := .mk isAsync target source tests :: state.waiting
              Pipeline.advance engine address rounds
                { state with entered := outer, waiting := waiting }
          | some value => do
              engine.assign state.scene target value
              if ← allHold engine state.scene tests then
                match state.waiting with
                | [] =>
                    moveTo address (.pipeline state)
                    some <$> state.yielded.evaluate engine state.scene
                | .mk isAsync target source tests :: waiting => do
                    let inner ← iterate (← engine.expression state.scene source)
                    let entered := (inner, .mk isAsync target source tests) :: state.entered
                    Pipeline.advance engine address rounds
                      { state with entered := entered, waiting := waiting }
              else Pipeline.advance engine address rounds state

/-- The next of the values that an iterator knows. -/
def drawItem (address : Address) : List Value → Action (Option Value)
  | [] => finish address
  | first :: rest => do
      moveTo address (.items rest)
      return some first

/-- The next value of each of several iterators; none when one of them has none. -/
def drawAll (engine : Engine) : List Value → Action (Option (List Value))
  | [] => return some []
  | first :: rest => do
      match ← engine.draw first with
      | none => return none
      | some value => return (← drawAll engine rest).map (value :: ·)

/-- The iterator at a place is longer or shorter than those before it, which should not be. -/
def unevenSources {α : Type} (place : Nat) (word : String) : Action α := do
  let before :=
    if place = 1 then text "argument 1" else text "arguments 1-" ++ natText 10 place
  complain ⟨.valueError, text "zip() argument " ++ natText 10 (place + 1) ++ text " is " ++
    text word ++ text " than " ++ before⟩

/-- Iterators from a place on have no value. -/
def requireEnded (engine : Engine) : Nat → List Value → Action Unit
  | _, [] => return ()
  | place, first :: rest => do
      match ← engine.draw first with
      | some _ => unevenSources place "longer"
      | none => requireEnded engine (place + 1) rest

/-- The next value of each of several iterators that end together, from a place on. -/
def drawTogether (engine : Engine) : Nat → List Value → Action (Option (List Value))
  | _, [] => return some []
  | place, first :: rest => do
      match ← engine.draw first with
      | some value => return (← drawTogether engine (place + 1) rest).map (value :: ·)
      | none =>
          if 0 < place then unevenSources place "shorter"
          else do
            requireEnded engine 1 rest
            return none

/-- The next value that passes a test. -/
def drawPassing (engine : Engine) (test source : Value) : Nat → Action (Option Value)
  | 0 => throw .unfinished
  | rounds + 1 => do
      match ← engine.draw source with
      | none => return none
      | some value => do
          let passes ←
            if test.isNothing then isTrue value
            else isTrue (← engine.call test [value] [])
          if passes then return some value else drawPassing engine test source rounds

/-- A step that leaves the cursor without values when it raises an exception. -/
def finishing (address : Address) (step : Action (Option Value)) : Action (Option Value) := do
  match ← attempt step with
  | .ok found => return found
  | .error exception =>
      moveTo address .finished
      throw (.raised exception)

/-- The next value of a cursor. -/
def Cursor.draw (engine : Engine) (address : Address) : Cursor → Action (Option Value)
  | .finished => return none
  | .items rest => drawItem address rest
  | .list place index => do
      match ← load place with
      | .list elements =>
          match elements[index]? with
          | some item => do
              moveTo address (.list place (index + 1))
              return some item
          | none => finish address
      | _ => finish address
  | .listBackwards place index => do
      match ← load place, index with
      | .list elements, index + 1 =>
          match elements[index]? with
          | some item => do
              moveTo address (.listBackwards place index)
              return some item
          | none => finish address
      | _, _ => finish address
  | .view walk => walk.advance address
  | .viewBackwards walk => walk.retreat address
  | .set place index size => do
      let members := ((Value.ref place).membersIn? (← get)).getD []
      if members.length ≠ size then complain .setChanged
      else
        match members[index]? with
        | none => finish address
        | some member => do
            moveTo address (.set place (index + 1) size)
            return some member
  | .range next step count =>
      match count with
      | 0 => finish address
      | count + 1 => do
          moveTo address (.range (next + step) step count)
          return some (.int next)
  | .enumerate source count => do
      match ← engine.draw source with
      | none => finish address
      | some value => do
          moveTo address (.enumerate source (count + 1))
          return some (.tuple [.int count, value])
  | .zip sources isStrict => do
      if sources.isEmpty then return none
      else if isStrict then return (← drawTogether engine 0 sources).map .tuple
      else return (← drawAll engine sources).map .tuple
  | .map function sources => do
      match ← drawAll engine sources with
      | none => return none
      | some values => some <$> engine.call function values []
  | .filter test source => drawPassing engine test source roundLimit
  | .pipeline state => finishing address (state.advance engine address roundLimit)
  | .paused scene departure rest (value :: ready) => do
      moveTo address (.paused scene departure rest ready)
      return some value
  | .paused scene departure rest [] => engine.resume address scene departure rest
  | .running _ => complain .generatorRunning

/-- The next value of an iterator. -/
def draw (engine : Engine) (iterator : Value) : Action (Option Value) := do
  match iterator with
  | .ref address =>
      match ← load address with
      | .cursor _ cursor => cursor.draw engine address
      | _ => complainOf .notIterator iterator
  | _ => complainOf .notIterator iterator

/-- The values that an iterator still has, behind others. -/
def drain (engine : Engine) (iterator : Value) : Nat → Array Value → Action (Array Value)
  | 0, _ => throw .unfinished
  | rounds + 1, found => do
      match ← draw engine iterator with
      | none => return found
      | some value => drain engine iterator rounds (found.push value)

/-- There is room for the numbers that an iterator over a range still has. -/
def requireRoom (iterator : Value) : Action Unit := do
  match iterator with
  | .ref address =>
      match ← load address with
      | .cursor _ (.range _ _ count) =>
          if !fitsPlace count then complain .sizeTooLarge
          else if roomLimit < 8 * count then outOfRoom
          else pure ()
      | _ => pure ()
  | _ => pure ()

/-- All values that an iterator still has. -/
def drainAll (engine : Engine) (iterator : Value) : Action (Array Value) := do
  requireRoom iterator
  drain engine iterator (← roundsOf iterator) #[]

/-- The values of something that can be iterated over. -/
def collect (engine : Engine) (value : Value) : Action (Array Value) := do
  drainAll engine (← iterate value)

/-- A value is handed to the caller of the generator that is running. -/
def handOver (scene : Scene) (value : Value) : Action Unit := do
  match scene.collector with
  | none => unsupported "yield outside a generator"
  | some address =>
      change address fun
        | .cursor kind (.running found) => .cursor kind (.running (found.push value))
        | other => other

/-- A value is one of several values. -/
def isAmong (value : Value) : List Value → Action Bool
  | [] => return false
  | first :: rest => do
      if first.isSame value then return true
      else if ← areEqual first value then return true
      else isAmong value rest

/-- A value is one of those that an iterator still has. -/
def isDrawn (engine : Engine) (value iterator : Value) : Nat → Action Bool
  | 0 => throw .unfinished
  | rounds + 1 => do
      match ← draw engine iterator with
      | none => return false
      | some found =>
          if found.isSame value then return true
          else if ← areEqual found value then return true
          else isDrawn engine value iterator rounds

/-- A value is one of those that can be drawn from another value. -/
def isFound (engine : Engine) (value container : Value) : Action Bool := do
  let iterator ← iterate container
  isDrawn engine value iterator (← roundsOf iterator)

/-- A whole number is one of a range. -/
def rangeHas (start stop step value : Int) : Bool :=
  (value - start) % step == 0 &&
    if 0 < step then start ≤ value && value < stop else stop < value && value ≤ start

/-- A value is a member of another. -/
def isMember (engine : Engine) (value container : Value) : Action Bool := do
  match container with
  | .string whole =>
      match value with
      | .string part => return part.occursIn whole
      | _ => complainOf .stringMember value
  | .tuple items => isAmong value items
  | .range start stop step =>
      match value.int? with
      | some number => return rangeHas start stop step number
      | none => isFound engine value container
  | .view .keys dict => do
      requireKey value
      return (lookupKey value (← entriesOf dict)).isSome
  | .view _ _ => isFound engine value container
  | .ref address =>
      match ← load address with
      | .list items => isAmong value items.toList
      | .dict _ | .proxy _ => do
          requireKey value
          return (lookupKey value (← entriesOf address)).isSome
      | .set members => do
          requireKey value
          return members.any value.sameKey
      | .cursor _ _ => isFound engine value container
      | _ => complainOf .notContainer container
  | .bytes whole =>
      match value with
      | .bytes part => return Text.occursIn part whole
      | _ =>
          match value.int? with
          | some byte => return whole.any fun other => (other : Int) == byte
          | none =>
              complain ⟨.typeError, text "a bytes-like object is required, not '" ++
                (← kindOf value).name ++ text "'"⟩
  | _ => complainOf .notContainer container

end Stencil.Run
