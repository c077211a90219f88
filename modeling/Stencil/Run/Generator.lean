import Stencil.Run.Statement

/-! # Generators

The body of a generator is run in steps, and it stands still when a statement has
handed values over. What is left of the body is a list, innermost first: the statements behind,
the loops around them, and the handlers and final blocks that a departure meets on
its way out. A step either does the next piece of work or takes the departure of the
last one outwards.
-/

namespace Stencil.Run

open Script

/-- The exceptions that are being handled inside what is left of a body. -/
def handledIn (rest : List Remainder) : List Address :=
  rest.filterMap fun
    | .handling exception _ => some exception
    | .concluding (.error exception) => some exception
    | _ => none

/-- The block of the first case whose pattern fits a value, and whose test holds. -/
def chooseCase (engine : Engine) (scene : Scene) (value : Value) :
    List MatchCase → Action (List Stmt)
  | [] => return []
  | .mk pattern guard body :: rest => do
      match ← fitPattern engine scene pattern value with
      | none => chooseCase engine scene value rest
      | some found => do
          bindNames scene found
          let holds ←
            match guard with
            | none => pure true
            | some guard => isTrue (← evaluate engine scene guard)
          if holds then return body else chooseCase engine scene value rest

/-- The first handler that handles an exception, by its name for it and its block. -/
def chooseHandler (engine : Engine) (scene : Scene) (exception : Address) :
    List Handler → Action (Option (Option Name × List Stmt))
  | [] => return none
  | .mk kind name body :: rest => do
      let isHandled ←
        match kind with
        | none => pure true
        | some kind => do
            let value ← evaluate engine scene kind
            handles value (← kindOf (.ref exception))
      if isHandled then return some (name, body)
      else chooseHandler engine scene exception rest

/-- What is left of a body, and how the last piece of it was left. -/
abbrev Standing := Departure × List Remainder

/-- A statement is begun, with what is left of the body behind it. -/
def enterStatement (engine : Engine) (scene : Scene) (behind : List Remainder) :
    Stmt → Action Standing
  | .ifBlock test body otherwise => do
      let chosen := if ← isTrue (← evaluate engine scene test) then body else otherwise
      return (.ok .next, .block chosen :: behind)
  | .whileLoop test body otherwise =>
      return (.ok .next, .whileLoop test body otherwise :: behind)
  | .forLoop false target source body otherwise => do
      let iterator ← iterate (← evaluate engine scene source)
      return (.ok .next, .forLoop target iterator body otherwise :: behind)
  | .tryBlock false body handlers otherwise always =>
      return (.ok .next, .block body :: .guarded handlers otherwise always :: behind)
  | .matchBlock subject cases => do
      let chosen ← chooseCase engine scene (← evaluate engine scene subject) cases
      return (.ok .next, .block chosen :: behind)
  | .expression (.yieldFrom source) => do
      let iterator ← iterate (← evaluate engine scene source)
      return (.ok .next, .handOn iterator :: behind)
  | statement => do
      let flow ← runStatement engine scene statement
      return (.ok flow, behind)

/-- The next piece of work in what is left of a body, when the last one was left in the usual
way. -/
def goOn (engine : Engine) (scene : Scene) (outer : List Remainder) : Remainder → Action Standing
  | .block [] => return (.ok .next, outer)
  | .block (first :: rest) => enterStatement engine scene (.block rest :: outer) first
  | .whileLoop test body otherwise => do
      if ← isTrue (← evaluate engine scene test) then
        return (.ok .next, .block body :: .whileLoop test body otherwise :: outer)
      else return (.ok .next, .block otherwise :: outer)
  | .forLoop target iterator body otherwise => do
      match ← draw engine iterator with
      | none => return (.ok .next, .block otherwise :: outer)
      | some value => do
          assignTarget engine scene target value
          return (.ok .next, .block body :: .forLoop target iterator body otherwise :: outer)
  | .handOn iterator => do
      match ← draw engine iterator with
      | none => return (.ok .next, outer)
      | some value => do
          handOver scene value
          return (.ok .next, .handOn iterator :: outer)
  | .guarded _ otherwise always => return (.ok .next, .block otherwise :: .ensured always :: outer)
  | .handling _ name => do
      name.forM (clearName scene)
      return (.ok .next, outer)
  | .ensured always => return (.ok .next, .block always :: .concluding (.ok .next) :: outer)
  | .concluding departure => return (departure, outer)

/-- A loop. -/
def isLoop : Remainder → Bool
  | .whileLoop _ _ _ | .forLoop _ _ _ _ => true
  | _ => false

/-- An exception meets the handlers around it. -/
def meetHandlers (engine : Engine) (scene : Scene) (exception : Address)
    (handlers : List Handler) (behind : List Remainder) : Action Standing := do
  match ← attempt (whileHandling exception (chooseHandler engine scene exception handlers)) with
  | .error other => return (.error other, behind)
  | .ok none => return (.error exception, behind)
  | .ok (some (name, body)) => do
      name.forM fun name => bindName scene name (.ref exception)
      return (.ok .next, .block body :: .handling exception name :: behind)

/-- A departure that is not the usual one goes outwards. -/
def goOut (engine : Engine) (scene : Scene) (outer : List Remainder) (departure : Departure)
    (innermost : Remainder) : Action Standing := do
  match innermost, departure with
  | .guarded handlers _ always, .error exception =>
      meetHandlers engine scene exception handlers (.ensured always :: outer)
  | .guarded _ _ always, _ => return (departure, .ensured always :: outer)
  | .handling _ name, _ => do
      name.forM (clearName scene)
      return (departure, outer)
  | .ensured always, _ => return (.ok .next, .block always :: .concluding departure :: outer)
  | loop, .ok .breakLoop => return (if isLoop loop then .ok .next else departure, outer)
  | loop, .ok .continueLoop =>
      if isLoop loop then return (.ok .next, loop :: outer) else return (departure, outer)
  | _, _ => return (departure, outer)

/-- The values that have been handed over since a generator was resumed. -/
def handedOver (address : Address) : Action (List Value) := do
  match ← load address with
  | .cursor _ (.running found) => return found.toList
  | _ => return []

/-- An exception that leaves a generator: one that ends iterations may not. -/
def leavingGenerator (exception : Address) : Action Address := do
  match ← load exception with
  | .exception .stopIteration _ =>
      allocate (.exception Complaint.generatorStopped.kind
        [.string Complaint.generatorStopped.message])
  | _ => return exception

/-- The exceptions being handled are set. -/
def setHandling (handling : List Address) : Action Unit :=
  modify fun store => { store with handling := handling }

/-- A generator is run until it hands values over or ends. -/
def advance (engine : Engine) (address : Address) (scene : Scene) (handling : List Address) :
    Nat → Departure → List Remainder → Action (Option Value)
  | 0, _, _ => throw .unfinished
  | rounds + 1, departure, rest => do
      match ← handedOver address, rest with
      | value :: ready, rest => do
          setHandling handling
          moveTo address (.paused scene departure rest ready)
          return some value
      | [], [] => do
          setHandling handling
          match departure with
          | .ok _ => finish address
          | .error exception => do
              moveTo address .finished
              throw (.raised (← leavingGenerator exception))
      | [], innermost :: outer => do
          setHandling (handledIn rest ++ handling)
          let step :=
            match departure with
            | .ok .next => goOn engine scene outer innermost
            | departure => goOut engine scene outer departure innermost
          match ← attempt step with
          | .ok (departure, rest) => advance engine address scene handling rounds departure rest
          | .error exception =>
              advance engine address scene handling rounds (.error exception) rest

/-- A generator goes on from where it stands. -/
def resume (engine : Engine) (address : Address) (scene : Scene) (departure : Departure)
    (rest : List Remainder) : Action (Option Value) := do
  moveTo address (.running #[])
  advance engine address { scene with collector := some address } (← get).handling roundLimit
    departure rest

end Stencil.Run
