import Stencil.Run.Matching

/-! # Running statements

A block runs its statements until one of them leaves it: by a loop that ends or
goes on, or by a value that is returned. A block that runs in any case decides anew how it is
left. While an exception is handled it can be raised again.
-/

namespace Stencil.Run

open Script

/-- The rounds of a loop. There is no flow when nothing is left to go on with, and otherwise the
one behind the loop. -/
def runRounds (advance : Action Bool) (body : Action Flow) : Nat → Action (Option Flow)
  | 0 => throw .unfinished
  | rounds + 1 => do
      if ← advance then
        match ← body with
        | .next | .continueLoop => runRounds advance body rounds
        | .breakLoop => return some .next
        | .returned value => return some (.returned value)
      else return none

/-- A run during which an exception is being handled. -/
def whileHandling {α : Type} (exception : Address) (action : Action α) : Action α := do
  let before := (← get).handling
  modify fun store => { store with handling := exception :: before }
  let result ← attempt action
  modify fun store => { store with handling := before }
  match result with
  | .ok result => return result
  | .error exception => throw (.raised exception)

/-- A value combined with a target's old value, which is changed in place if it can be. -/
def augmented (engine : Engine) (operator : BinaryOperator) (old value : Value) : Action Value := do
  match old with
  | .ref address =>
      match ← load address, operator with
      | .list _, .add => do
          ListMethod.appendAll engine address value
          return old
      | .list items, .multiply => do
          let repeated ← repeatWithin 8 outOfRoom (← repetitions value) items.toList
          save address (.list repeated.toArray)
          return old
      | .dict _, .bitOr => do
          MappingMethod.updateFrom engine address (some value) []
          return old
      | .set members, operator =>
          match value.membersIn? (← get) with
          | some others =>
              match combineSets operator members others with
              | some members => do
                  save address (.set members)
                  return old
              | none => combine operator true old value
          | none => combine operator true old value
      | _, operator => combine operator true old value
  | _ => combine operator true old value

/-- A target is combined with a value. -/
def augmentTarget (engine : Engine) (scene : Scene) (operator : BinaryOperator) (value : Expr) :
    Target → Action Unit
  | .name identifier => do
      let old ← readName scene identifier
      let value ← evaluate engine scene value
      bindName scene identifier (← augmented engine operator old value)
  | .attribute object field => do
      let object ← evaluate engine scene object
      let old ← attributeOf object field
      let value ← evaluate engine scene value
      assignAttribute object field (← augmented engine operator old value)
  | .subscript object index => do
      let object ← evaluate engine scene object
      let index ← evaluate engine scene index
      let old ← elementOf object index
      let value ← evaluate engine scene value
      assignElement engine object index (← augmented engine operator old value)
  | .tuple _ | .list _ | .starred _ => return ()

/-- The parts of a target that has a hint and gets no value. -/
def evaluateHinted (engine : Engine) (scene : Scene) : Target → Action Unit
  | .attribute object _ => do
      let _ ← evaluate engine scene object
  | .subscript object index => do
      let _ ← evaluate engine scene object
      let _ ← evaluate engine scene index
  | _ => return ()

/-- The exception that a value raises, if it is one or a kind of them. -/
def exceptionOf? (engine : Engine) (value : Value) : Action (Option Address) := do
  let instanceOf (value : Value) : Action (Option Address) := do
    match value with
    | .ref address =>
        match ← load address with
        | .exception _ _ => return some address
        | _ => return none
    | _ => return none
  match value with
  | .ofKind (.exception _) => instanceOf (← engine.call value [] [])
  | other => instanceOf other

/-- An exception is raised. -/
def raise (engine : Engine) (scene : Scene) (exception cause : Option Expr) : Action Flow := do
  match exception with
  | none =>
      match (← get).handling with
      | active :: _ => throw (.raised active)
      | [] => complain .nothingActive
  | some exception => do
      let value ← evaluate engine scene exception
      let cause ← evaluateOption engine scene cause
      match ← exceptionOf? engine value with
      | none => complain .notRaisable
      | some address =>
          if cause.isNothing || (← exceptionOf? engine cause).isSome then
            throw (.raised address)
          else complain .notCause

/-- A value that stands for a kind of exceptions. -/
def isExceptionClass : Value → Bool
  | .ofKind (.exception _) => true
  | _ => false

/-- A handler for a value handles an exception of a kind. -/
def handles (value : Value) (kind : Kind) : Action Bool := do
  let isAllowed : Bool :=
    match value with
    | .tuple items => items.all isExceptionClass
    | other => isExceptionClass other
  if isAllowed then return (value.coversKind kind).getD false else complain .notHandled

/-- Functions applied to a value, the last one first. -/
def decorate (engine : Engine) (value : Value) : List Value → Action Value
  | [] => return value
  | decorator :: rest => do
      let inner ← decorate engine value rest
      engine.call decorator [inner] []

mutual

/-- A statement is run. -/
def runStatement (engine : Engine) (scene : Scene) : Stmt → Action Flow
  | .expression value => do
      let _ ← evaluate engine scene value
      return .next
  | .assign targets value => do
      let value ← evaluate engine scene value
      targets.forM fun target => assignTarget engine scene target value
      return .next
  | .augment target operator value => do
      augmentTarget engine scene operator value target
      return .next
  | .hinted target _ _ value =>
      match value with
      | some value => do
          assignTarget engine scene target (← evaluate engine scene value)
          return .next
      | none => do
          evaluateHinted engine scene target
          return .next
  | .returnValue value => return .returned (← evaluateOption engine scene value)
  | .delete targets => do
      targets.forM (deleteTarget engine scene)
      return .next
  | .raise exception cause => raise engine scene exception cause
  | .assert test message => do
      if ← isTrue (← evaluate engine scene test) then return .next
      else
        match message with
        | none => raiseWith .assertionError []
        | some message => raiseWith .assertionError [← evaluate engine scene message]
  | .pass => return .next
  | .breakLoop => return .breakLoop
  | .continueLoop => return .continueLoop
  | .importModules _ | .importNames _ _ _ | .importAll _ _ => unsupported "imports"
  | .globalNames _ | .nonlocalNames _ => return .next
  | .ifBlock test body otherwise => do
      if ← isTrue (← evaluate engine scene test) then runBlock engine scene body
      else runBlock engine scene otherwise
  | .whileLoop test body otherwise => do
      let advance : Action Bool := do isTrue (← evaluate engine scene test)
      match ← runRounds advance (runBlock engine scene body) roundLimit with
      | some flow => return flow
      | none => runBlock engine scene otherwise
  | .forLoop isAsync target source body otherwise => do
      if isAsync then unsupported "loops that wait"
      let iterator ← iterate (← evaluate engine scene source)
      let advance : Action Bool := do
        match ← draw engine iterator with
        | none => return false
        | some value => do
            assignTarget engine scene target value
            return true
      match ← runRounds advance (runBlock engine scene body) (← roundsOf iterator) with
      | some flow => return flow
      | none => runBlock engine scene otherwise
  | .tryBlock isGroup body handlers otherwise always => do
      if isGroup then unsupported "groups of exceptions"
      let main : Action Flow := do
        match ← attempt (runBlock engine scene body) with
        | .ok .next => runBlock engine scene otherwise
        | .ok flow => return flow
        | .error exception =>
            match ← whileHandling exception (runHandlers engine scene exception handlers) with
            | some flow => return flow
            | none => throw (.raised exception)
      match ← attempt main with
      | .ok flow =>
          match ← runBlock engine scene always with
          | .next => return flow
          | other => return other
      | .error exception =>
          match ← whileHandling exception (runBlock engine scene always) with
          | .next => throw (.raised exception)
          | other => return other
  | .withBlock isAsync items _ => do
      if isAsync then unsupported "contexts that wait"
      match items with
      | [] => return .next
      | .mk context _ :: _ => complainOf .noContext (← evaluate engine scene context)
  | .matchBlock subject cases => do
      runCases engine scene (← evaluate engine scene subject) cases
  | .functionDef isAsync name parameters _ decorators body => do
      let decorators ← evaluateItems engine scene .notIterable decorators
      let formal ← evaluateParameters engine scene parameters
      let function ←
        newFunction scene name formal (.block body) (Scope.ofFunction isAsync parameters body)
      bindName scene name (← decorate engine function decorators)
      return .next
  | .classDef _ _ _ _ _ => unsupported "new classes"

/-- A block is run. -/
def runBlock (engine : Engine) (scene : Scene) : List Stmt → Action Flow
  | [] => return .next
  | first :: rest => do
      match ← runStatement engine scene first with
      | .next => runBlock engine scene rest
      | flow => return flow

/-- The first handler that handles an exception is run, if there is one. -/
def runHandlers (engine : Engine) (scene : Scene) (exception : Address) :
    List Handler → Action (Option Flow)
  | [] => return none
  | .mk kind name body :: rest => do
      let isHandled ←
        match kind with
        | none => pure true
        | some kind => do
            let value ← evaluate engine scene kind
            handles value (← kindOf (.ref exception))
      if !isHandled then runHandlers engine scene exception rest
      else
        match name with
        | none => some <$> runBlock engine scene body
        | some name => do
            bindName scene name (.ref exception)
            let result ← attempt (runBlock engine scene body)
            clearName scene name
            match result with
            | .ok flow => return some flow
            | .error exception => throw (.raised exception)

/-- The first case whose pattern fits a value, and whose test holds, is run. -/
def runCases (engine : Engine) (scene : Scene) (value : Value) : List MatchCase → Action Flow
  | [] => return .next
  | .mk pattern guard body :: rest => do
      match ← fitPattern engine scene pattern value with
      | none => runCases engine scene value rest
      | some found => do
          bindNames scene found
          let holds ←
            match guard with
            | none => pure true
            | some guard => isTrue (← evaluate engine scene guard)
          if holds then runBlock engine scene body else runCases engine scene value rest

end

/-- The body of a function is run. -/
def runBody (engine : Engine) (scene : Scene) : FunctionBody → Action Value
  | .block body => do
      match ← runBlock engine scene body with
      | .returned value => return value
      | _ => return .nothing
  | .value body => evaluate engine scene body

end Stencil.Run
