import Stencil.Run.Call
import Stencil.Run.Names
import Stencil.Script.Scope

/-! # Values of expressions

An expression is evaluated from left to right in a scene, and what can be assigned to is
evaluated when it is assigned to. A comprehension opens a layer of names of its own and
evaluates its first source outside of it. Whatever begins a deeper level of the run is
left to an engine.
-/

namespace Stencil.Run

open Script

/-- A number that is written down. -/
def numberValue : NumberLiteral → Action Value
  | .whole value => return .int (value : Nat)
  | .decimal mantissa exponent => return .float (floatOfDecimal false mantissa exponent)
  | .imaginary _ _ => unsupported "complex numbers"

/-- A constant. -/
def constantValue : Constant → Action Value
  | .none => return .nothing
  | .bool value => return .bool value
  | .ellipsis => return .ellipsis
  | .number literal => numberValue literal
  | .text value => return .string value
  | .bytes value => return .bytes value

/-- Two values stand in a relation. -/
def relate (engine : Engine) (relation : Relation) (left right : Value) : Action Bool := do
  match relation with
  | .equal => areEqual left right
  | .notEqual => return !(← areEqual left right)
  | .less => areOrdered .less left right
  | .lessEqual => areOrdered .lessEqual left right
  | .greater => areOrdered .greater left right
  | .greaterEqual => areOrdered .greaterEqual left right
  | .same => return left.isSame right
  | .notSame => return !left.isSame right
  | .within => isMember engine left right
  | .notWithin => return !(← isMember engine left right)

/-- A value as text, after its conversion, in the field of a format. -/
def formatConverted (conversion : Conversion) (value : Value) (format : Text) : Action Text := do
  match conversion with
  | .plain => formatValue value format
  | .display => formatValue (.string (← textOf value)) format
  | .quoted => formatValue (.string (← display value)) format
  | .ascii => formatValue (.string (asciiOnly (← display value))) format

/-- The items of an iterable that takes the place of an item. -/
def spreadItems (engine : Engine) (complaint : Kind → Complaint) (value : Value) :
    Action (List Value) := do
  match ← iterator? value with
  | some iterator => return (← drainAll engine iterator).toList
  | none => complainOf complaint value

/-- The entries of a mapping that take the place of an entry. -/
def spreadEntries (value : Value) : Action (List (Value × Value)) := do
  match value.entriesIn? (← get) with
  | some entries => return entries
  | none => complainOf .notMapping value

/-- Entries behind others, if their keys can be keys. -/
def insertPending (found pending : List (Value × Value)) : Action (List (Value × Value)) := do
  pending.forM fun entry => requireKey entry.1
  return mergeEntries found pending

/-- The entries of a mapping as named arguments of something that is called. -/
def spreadArguments (callee value : Value) (named : List (Name × Value)) :
    Action (List (Name × Value)) := do
  match value.entriesIn? (← get) with
  | none => do
      complain (.starsArgument (← calleeLabel callee) (← kindOf value))
  | some entries => insertAll named entries
where
  /-- Entries behind named arguments. -/
  insertAll (named : List (Name × Value)) :
      List (Value × Value) → Action (List (Name × Value))
    | [] => return named
    | (.string name, value) :: rest => do
        if (named.lookup name).isSome then
          complain (.repeatedKeyword (← calleeLabel callee) name)
        else insertAll (named ++ [(name, value)]) rest
    | _ => complain .keywordNames

/-- The first values of an iterator, and how many are missing. -/
def takeDrawn (engine : Engine) (iterator : Value) : Nat → Action (List Value × Nat)
  | 0 => return ([], 0)
  | count + 1 => do
      match ← draw engine iterator with
      | none => return ([], count + 1)
      | some value => do
          let (values, missing) ← takeDrawn engine iterator count
          return (value :: values, missing)

/-- The iterator of a value that is unpacked. -/
def iterateUnpacked (value : Value) : Action Value := do
  match ← iterator? value with
  | some iterator => return iterator
  | none => complainOf .notUnpackable value

/-- A value unpacked into exactly as many values. -/
def unpack (engine : Engine) (count : Nat) (value : Value) : Action (List Value) := do
  let iterator ← iterateUnpacked value
  let (values, missing) ← takeDrawn engine iterator count
  if missing ≠ 0 then complain (.tooFewValues count (count - missing))
  else
    match ← draw engine iterator with
    | none => return values
    | some _ => complain (.tooManyValues count)

/-- A value unpacked into some values, a list of what is left over, and some last values. -/
def unpackAround (engine : Engine) (before after : Nat) (value : Value) : Action (List Value) := do
  let iterator ← iterateUnpacked value
  let (values, missing) ← takeDrawn engine iterator before
  if missing ≠ 0 then complain (.tooFewForStar (before + after) (before - missing))
  else
    let rest ← drainAll engine iterator
    if rest.size < after then complain (.tooFewForStar (before + after) (before + rest.size))
    else
      let middle ← newList (rest.extract 0 (rest.size - after))
      return values ++ middle :: (rest.extract (rest.size - after) rest.size).toList

/-- A target with a star. -/
def isStarred : Target → Bool
  | .starred _ => true
  | _ => false

/-- A value unpacked for targets, of which one may have a star. -/
def unpackFor (engine : Engine) (targets : List Target) (value : Value) : Action (List Value) :=
  match targets.findIdx? isStarred with
  | none => unpack engine targets.length value
  | some place => unpackAround engine place (targets.length - place - 1) value

/-- What a comprehension is called in a path. -/
def comprehensionName : Option Collection → String
  | some .list => "<listcomp>"
  | some .set => "<setcomp>"
  | some .generator => "<genexpr>"
  | none => "<dictcomp>"

/-- A clause whose elements are waited for. -/
def waits : Clause → Bool
  | .mk isAsync _ _ _ => isAsync

/-- The iterator of a comprehension. -/
def newPipeline (scene : Scene) (collection : Option Collection) (yielded : Yielded)
    (elements : List Expr) (clauses : List Clause) (source : Value) : Action Value := do
  if clauses.any waits then unsupported "comprehensions that wait"
  let iterator ← iterate source
  let frame ← allocate (.frame [])
  let own := (Scope.ofClauses collection clauses elements).ownNames
  let inner : Scene :=
    { scene with
      layers := ⟨own, [], frame⟩ :: scene.layers
      path := scene.path ++ text (comprehensionName collection) ++ text "." }
  match clauses with
  | [] => newCursor .generator .finished
  | first :: waiting =>
      newCursor .generator (.pipeline ⟨inner, yielded, [(iterator, first)], waiting⟩)

/-- The pairs that an iterator still has become entries of the dictionary at an address. -/
def insertPairs (engine : Engine) (address : Address) (iterator : Value) : Nat → Action Unit
  | 0 => throw .unfinished
  | rounds + 1 => do
      match ← draw engine iterator with
      | some (.tuple [key, value]) => do
          requireKey key
          MappingMethod.changeContent address (.insert key value)
          insertPairs engine address iterator rounds
      | _ => return ()

/-- The collection of what a comprehension hands out. -/
def collectPipeline (engine : Engine) (collection : Option Collection) (iterator : Value) :
    Action Value := do
  match collection with
  | some .generator => return iterator
  | some .list => newList (← drainAll engine iterator)
  | some .set => do
      let address ← allocate (.set [])
      insertMembers engine address iterator (← roundsOf iterator)
      return .ref address
  | none => do
      let address ← allocate (.dict (.ofEntries []))
      insertPairs engine address iterator (← roundsOf iterator)
      return .ref address

/-- The path of a function that is defined in a scene. -/
def Scene.pathOf (scene : Scene) (name : Name) : Text :=
  match scene.layers with
  | layer :: _ => if layer.declared.contains name then name else scene.path ++ name
  | [] => scene.path ++ name

/-- A new function. -/
def newFunction (scene : Scene) (name : Name) (parameters : List FormalParameter)
    (body : FunctionBody) (scope : Scope) : Action Value := do
  let function : Function :=
    { path := scene.pathOf name
      parameters := parameters
      body := body
      own := scope.ownNames
      declared := scope.globalNames
      isGenerator := scope.isGenerator
      isAsync := scope.kind == .function true
      scene := scene }
  return .ref (← allocate (.function function))

mutual

/-- The value of an expression. -/
def evaluate (engine : Engine) (scene : Scene) : Expr → Action Value
  | .name identifier =>
      if identifier == text "__debug__" then return .bool true else readName scene identifier
  | .constant value => constantValue value
  | .unary operator operand => do
      let operand ← evaluate engine scene operand
      applyUnary operator operand
  | .binary operator left right => do
      let left ← evaluate engine scene left
      let right ← evaluate engine scene right
      combine operator false left right
  | .connected connective operands => evaluateConnected engine scene connective operands
  | .compared first relations others => do
      let first ← evaluate engine scene first
      evaluateCompared engine scene first relations others
  | .conditional test whenTrue whenFalse => do
      if ← isTrue (← evaluate engine scene test) then evaluate engine scene whenTrue
      else evaluate engine scene whenFalse
  | .lambda parameters body => do
      let formal ← evaluateParameters engine scene parameters
      newFunction scene (text "<lambda>") formal (.value body) (Scope.ofLambda parameters body)
  | .tuple items => return .tuple (← evaluateItems engine scene .notStarIterable items)
  | .list items => do
      newList (← evaluateItems engine scene .notStarIterable items).toArray
  | .set items => do
      let members ← evaluateItems engine scene .notIterable items
      members.forM requireKey
      return .ref (← allocate (.set (members.foldl (fun found member =>
        insertMember member found) [])))
  | .dict entries => do
      newDict (← evaluateEntries engine scene [] [] entries)
  | .comprehension collection element clauses => do
      let source ← evaluateSource engine scene clauses
      let iterator ←
        newPipeline scene (some collection) (.element element) [element] clauses source
      collectPipeline engine (some collection) iterator
  | .dictComprehension key value clauses => do
      let source ← evaluateSource engine scene clauses
      let iterator ← newPipeline scene none (.pair key value) [key, value] clauses source
      collectPipeline engine none iterator
  | .await _ => unsupported "waiting"
  | .yield value => do
      handOver scene (← evaluateOption engine scene value)
      return .nothing
  | .yieldFrom source => do
      let values ← collect engine (← evaluate engine scene source)
      values.toList.forM (handOver scene)
      return .nothing
  | .call callee positional named => do
      let callee ← evaluate engine scene callee
      match positional with
      | [.starred value] => do
          let value ← evaluate engine scene value
          let named ← evaluateNamed engine scene callee [] named
          match ← iterator? value with
          | some iterator => do
              let values ← drainAll engine iterator
              engine.call callee values.toList named
          | none => complain (.starArgument (← calleeLabel callee) (← kindOf value))
      | positional => do
          let values ← evaluateItems engine scene .notStarIterable positional
          let named ← evaluateNamed engine scene callee [] named
          engine.call callee values named
  | .formatted pieces => return .string (← evaluatePieces engine scene pieces)
  | .attribute object field => do
      attributeOf (← evaluate engine scene object) field
  | .subscript object index => do
      let object ← evaluate engine scene object
      let index ← evaluate engine scene index
      elementOf object index
  | .starred _ => unsupported "a star without a list"
  | .slice lower upper step => do
      let lower ← evaluateOption engine scene lower
      let upper ← evaluateOption engine scene upper
      let step ← evaluateOption engine scene step
      return .slice lower upper step
  | .walrus target value => do
      let value ← evaluate engine scene value
      bindName scene target value
      return value

/-- The value of an expression that may be missing. -/
def evaluateOption (engine : Engine) (scene : Scene) : Option Expr → Action Value
  | none => return .nothing
  | some value => evaluate engine scene value

/-- The values of items, of which some may stand for all items of an iterable. -/
def evaluateItems (engine : Engine) (scene : Scene) (complaint : Kind → Complaint) :
    List Expr → Action (List Value)
  | [] => return []
  | .starred value :: rest => do
      let first ← spreadItems engine complaint (← evaluate engine scene value)
      return first ++ (← evaluateItems engine scene complaint rest)
  | value :: rest => do
      let first ← evaluate engine scene value
      return first :: (← evaluateItems engine scene complaint rest)

/-- The value of a chain of one connective: that of the operand that decides it. -/
def evaluateConnected (engine : Engine) (scene : Scene) (connective : Connective) :
    List Expr → Action Value
  | [] => return .nothing
  | [last] => evaluate engine scene last
  | first :: rest => do
      let value ← evaluate engine scene first
      if (← isTrue value) == (connective == .disjunction) then return value
      else evaluateConnected engine scene connective rest

/-- The value of a chain of comparisons behind its first operand. -/
def evaluateCompared (engine : Engine) (scene : Scene) (left : Value) (relations : List Relation) :
    List Expr → Action Value
  | [] => return .bool true
  | next :: rest => do
      let right ← evaluate engine scene next
      match relations with
      | [] => return .bool true
      | relation :: relations => do
          if ← relate engine relation left right then
            if rest.isEmpty then return .bool true
            else evaluateCompared engine scene right relations rest
          else return .bool false

/-- The entries of a dictionary behind others, and behind pairs that have been evaluated only. -/
def evaluateEntries (engine : Engine) (scene : Scene) (found pending : List (Value × Value)) :
    List DictEntry → Action (List (Value × Value))
  | [] => insertPending found pending
  | .pair key value :: rest => do
      let key ← evaluate engine scene key
      let value ← evaluate engine scene value
      evaluateEntries engine scene found (pending ++ [(key, value)]) rest
  | .spread mapping :: rest => do
      let found ← insertPending found pending
      let entries ← spreadEntries (← evaluate engine scene mapping)
      evaluateEntries engine scene (mergeEntries found entries) [] rest

/-- The named arguments of something that is called, behind others. -/
def evaluateNamed (engine : Engine) (scene : Scene) (callee : Value)
    (found : List (Name × Value)) : List NamedArgument → Action (List (Name × Value))
  | [] => return found
  | .named parameter value :: rest => do
      let value ← evaluate engine scene value
      let found ← spreadArguments.insertAll callee found [(.string parameter, value)]
      evaluateNamed engine scene callee found rest
  | .spread mapping :: rest => do
      let found ← spreadArguments callee (← evaluate engine scene mapping) found
      evaluateNamed engine scene callee found rest

/-- The text of the pieces of a string. -/
def evaluatePieces (engine : Engine) (scene : Scene) : List Piece → Action Text
  | [] => return []
  | .literal value :: rest => return value ++ (← evaluatePieces engine scene rest)
  | .value value conversion format :: rest => do
      let value ← evaluate engine scene value
      let format ← evaluatePieces engine scene format
      let first ← formatConverted conversion value format
      return first ++ (← evaluatePieces engine scene rest)

/-- Parameters with the values of their defaults. -/
def evaluateParameters (engine : Engine) (scene : Scene) :
    List Parameter → Action (List FormalParameter)
  | [] => return []
  | .mk kind name _ standard :: rest => do
      let standard ← evaluateStandard engine scene standard
      return ⟨kind, name, standard⟩ :: (← evaluateParameters engine scene rest)

/-- The value of a default. -/
def evaluateStandard (engine : Engine) (scene : Scene) : Option Expr → Action (Option Value)
  | none => return none
  | some value => some <$> evaluate engine scene value

/-- The first source of a comprehension. -/
def evaluateSource (engine : Engine) (scene : Scene) : List Clause → Action Value
  | [] => return .nothing
  | .mk _ _ source _ :: _ => evaluate engine scene source

end

mutual

/-- A value is assigned to a target. -/
def assignTarget (engine : Engine) (scene : Scene) : Target → Value → Action Unit
  | .name identifier, value => bindName scene identifier value
  | .attribute object field, value => do
      assignAttribute (← evaluate engine scene object) field value
  | .subscript object index, value => do
      let object ← evaluate engine scene object
      let index ← evaluate engine scene index
      assignElement engine object index value
  | .tuple items, value | .list items, value => do
      assignAll engine scene items (← unpackFor engine items value)
  | .starred target, value => assignTarget engine scene target value

/-- Values are assigned to targets one by one. -/
def assignAll (engine : Engine) (scene : Scene) : List Target → List Value → Action Unit
  | target :: targets, value :: values => do
      assignTarget engine scene target value
      assignAll engine scene targets values
  | _, _ => return ()

end

mutual

/-- A target loses its value. -/
def deleteTarget (engine : Engine) (scene : Scene) : Target → Action Unit
  | .name identifier => unbindName scene identifier
  | .attribute object field => do deleteAttribute (← evaluate engine scene object) field
  | .subscript object index => do
      let object ← evaluate engine scene object
      let index ← evaluate engine scene index
      deleteElement object index
  | .tuple items | .list items => deleteAll engine scene items
  | .starred target => deleteTarget engine scene target

/-- Targets lose their values one by one. -/
def deleteAll (engine : Engine) (scene : Scene) : List Target → Action Unit
  | [] => return ()
  | first :: rest => do
      deleteTarget engine scene first
      deleteAll engine scene rest

end

end Stencil.Run
