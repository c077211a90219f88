import Stencil.Run.PublicFunction

/-! # Calls

A call of a function binds its arguments to the parameters. Named arguments are
looked at before it is known whether the arguments by position are too many or too few;
defaults fill what is left, and a parameter that still has no value is missing.
-/

namespace Stencil.Run

open Script

/-- What something that is called is called in complaints about its arguments. -/
def calleeLabel (callee : Value) : Action Text := do
  let store ← get
  match callee with
  | .builtin .written => return text "microtpl.template.helpers.str_safe()"
  | .builtin function => return function.label ++ text "()"
  | .ofKind kind => return kind.name ++ text "()"
  | .method receiver name =>
      return text (receiver.kindIn store).label ++ text "." ++ name ++ text "()"
  | .unboundMethod kind name => return kind.name ++ text "." ++ name ++ text "()"
  | .ref address =>
      match store.object address with
      | .function function => return function.path ++ text "()"
      | _ => textOf callee
  | other => textOf other

/-- A parameter that takes an argument by position. -/
def FormalParameter.isPositional (parameter : FormalParameter) : Bool :=
  parameter.kind == .positionalOnly || parameter.kind == .ordinary

/-- A parameter that takes an argument by name. -/
def FormalParameter.isNamed (parameter : FormalParameter) : Bool :=
  parameter.kind == .ordinary || parameter.kind == .keywordOnly

/-- What a function binds its arguments by. -/
structure ParameterList where
  callee : Text
  parameters : List FormalParameter

/-- The arguments that have found their parameters. -/
structure Bound where
  slots : List (Name × Value)
  others : List (Name × Value)

namespace ParameterList

/-- The parameter of a kind of which there is at most one. -/
def only? (list : ParameterList) (kind : ParameterKind) : Option FormalParameter :=
  list.parameters.find? fun parameter => parameter.kind == kind

/-- The parameters that take arguments by position. -/
def positional (list : ParameterList) : List FormalParameter :=
  list.parameters.filter FormalParameter.isPositional

/-- A named argument has no parameter. -/
def unknownName (list : ParameterList) (named : List (Name × Value)) (name : Name) : Complaint :=
  let misnamed := list.parameters.filterMap fun parameter =>
    if parameter.kind == .positionalOnly && (named.lookup parameter.name).isSome then
      some parameter.name
    else none
  if misnamed.isEmpty then .unexpectedKeyword list.callee name
  else .positionalByName list.callee misnamed

/-- Named arguments find their parameters. -/
def bindNamed (list : ParameterList) (named : List (Name × Value)) :
    List (Name × Value) → Bound → Action Bound
  | [], bound => return bound
  | (name, value) :: rest, bound => do
      if list.parameters.any fun parameter => parameter.isNamed && parameter.name == name then
        if (bound.slots.lookup name).isSome then complain (.repeatedArgument list.callee name)
        else bindNamed list named rest { bound with slots := bound.slots ++ [(name, value)] }
      else if (list.only? .restKeywords).isSome then
        bindNamed list named rest { bound with others := bound.others ++ [(name, value)] }
      else complain (list.unknownName named name)

/-- There are more arguments by position than parameters. -/
def tooMany (list : ParameterList) (given : Nat) (bound : Bound) : Complaint :=
  let positional := list.positional
  let withDefault := positional.filter fun parameter => parameter.standard.isSome
  let named := list.parameters.filter fun parameter =>
    parameter.kind == .keywordOnly && (bound.slots.lookup parameter.name).isSome
  .tooManyArguments list.callee (positional.length - withDefault.length) positional.length given
    named.length

/-- The names of parameters that have neither an argument nor a default. -/
def missing (parameters : List FormalParameter) (slots : List (Name × Value)) : List Name :=
  (parameters.filter fun parameter =>
    parameter.standard.isNone && (slots.lookup parameter.name).isNone).map (·.name)

/-- The defaults of parameters without an argument. -/
def defaults (parameters : List FormalParameter) (slots : List (Name × Value)) :
    List (Name × Value) :=
  parameters.filterMap fun parameter =>
    if (slots.lookup parameter.name).isSome then none
    else parameter.standard.map fun value => (parameter.name, value)

/-- The values of all parameters. -/
def bind (list : ParameterList) (arguments : Arguments) : Action (List (Name × Value)) := do
  let positional := list.positional
  let given := arguments.positional
  let direct := (positional.zip given).map fun entry => (entry.1.name, entry.2)
  let rest :=
    match list.only? .rest with
    | some parameter => [(parameter.name, Value.tuple (given.drop positional.length))]
    | none => []
  let bound ← list.bindNamed arguments.named arguments.named ⟨direct ++ rest, []⟩
  if positional.length < given.length && rest.isEmpty then
    complain (list.tooMany given.length bound)
  let lacking := missing positional bound.slots
  if !lacking.isEmpty then complain (.missingArguments list.callee "positional" lacking)
  let named := list.parameters.filter fun parameter => parameter.kind == .keywordOnly
  let lacking := missing named bound.slots
  if !lacking.isEmpty then complain (.missingArguments list.callee "keyword-only" lacking)
  let slots := bound.slots ++ defaults (positional ++ named) bound.slots
  match list.only? .restKeywords with
  | none => return slots
  | some parameter => do
      let others ← newDict (bound.others.map fun entry => (.string entry.1, entry.2))
      return slots ++ [(parameter.name, others)]

end ParameterList

/-- What stands before the names of functions that are defined in a function. -/
def innerPath (path : Text) : Text := path ++ text ".<locals>."

/-- The statements that a call of a function runs. -/
def FunctionBody.statements : FunctionBody → List Stmt
  | .block body => body
  | .value body => [.returnValue (some body)]

/-- A function of the program is called. -/
def callFunction (engine : Engine) (function : Function) (arguments : Arguments) :
    Action Value := do
  let slots ← ParameterList.bind ⟨function.path, function.parameters⟩ arguments
  if function.isAsync then unsupported "functions that wait"
  let frame ← allocate (.frame slots)
  let scene : Scene :=
    { function.scene with
      layers := ⟨function.own, function.declared, frame⟩ :: function.scene.layers
      path := innerPath function.path
      collector := none }
  if function.isGenerator then
    newCursor .generator (.paused scene (.ok .next) [.block function.body.statements] [])
  else engine.body scene function.body

/-- The parameters of the function that gives the text of a value. -/
def writtenParameters : ParameterList := ⟨text "str_safe", [⟨.ordinary, text "value", none⟩]⟩

/-- A value is called. -/
def callValue (engine : Engine) (callee : Value) (positional : List Value)
    (named : List (Name × Value)) : Action Value := do
  let arguments : Arguments := ⟨positional, named⟩
  match callee with
  | .builtin .written => do
      let slots ← writtenParameters.bind arguments
      return .string (← written ((slots.head?.map Prod.snd).getD .nothing))
  | .builtin function => applyBuiltin engine function arguments
  | .ofKind kind => construct engine kind arguments
  | .method receiver name => callMethod engine receiver name arguments
  | .unboundMethod kind name => callUnbound engine kind name arguments
  | .ref address =>
      match ← load address with
      | .function function => callFunction engine function arguments
      | _ => complainOf .notCallable callee
  | _ => complainOf .notCallable callee

end Stencil.Run
