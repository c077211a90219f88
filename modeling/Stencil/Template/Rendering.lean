import Stencil.Run.Depth
import Stencil.Template.Compiled

/-! # Rendering

A template has a program of its own: its names live as long as the template, and its
render function is called once for each context. Values that the template brings along
stand beneath those of the context, in a mapping made for the call; without such values
the context itself is handed over.

An environment has the markers and the values that its templates share. A template keeps what the
environment had when it was made.
-/

namespace Stencil

open Script Run

/-- A template that can be rendered. -/
structure Template where
  source : Text
  name : Option Text
  code : Text
  /-- The names that the template takes from its context, in dictionary order. -/
  names : List Name
  globals : List (Name × Value)
  function : Value

/-- The names that every render program starts with. -/
def programNames : List (Name × Value) :=
  [(text "_str", .builtin .written), (text "_builtins", .publicModule)]

/-- The render function of a program. -/
def renderFunction (program : Program) : Action Value := do
  let globals ← allocate (.frame programNames)
  let scene : Scene := ⟨[], globals, [], none⟩
  let _ ← runBlock Engine.standard scene program
  readProgramName scene (text "render")

/-- The entries of named values. -/
def namedEntries (values : List (Name × Value)) : List (Value × Value) :=
  values.map fun entry => (.string entry.1, entry.2)

namespace Template

/-- A compiled template that brings some values along. -/
def ofCompiled (compiled : Compiled) (globals : List (Name × Value)) : Action Template := do
  return {
    source := compiled.source
    name := compiled.name
    code := compiled.code
    names := compiled.names
    globals := globals
    function := ← renderFunction compiled.program }

/-- A compiled template about which nothing else is known. -/
def bare (compiled : Compiled) : Action Template := do
  return {
    source := []
    name := none
    code := []
    names := []
    globals := []
    function := ← renderFunction compiled.program }

/-- The result of a template for a context. -/
def call (template : Template) (context : Value) : Action Value := do
  if template.globals.isEmpty then
    Engine.standard.call template.function [context] []
  else
    let given ← spreadEntries context
    let merged ← newDict (mergeEntries (namedEntries template.globals) given)
    Engine.standard.call template.function [merged] []

/-- A mapping without entries that cannot be changed. -/
def emptyContext : Action Value := do
  return .ref (← allocate (.proxy (← allocate (.dict (.ofEntries [])))))

/-- The context that some arguments by position give. -/
def contextOf (arguments : Arguments) : Action (Option Value) := do
  match arguments.positional with
  | [] => return none
  | [context] =>
      match context.entriesIn? (← get) with
      | some _ => return some context
      | none =>
          complain ⟨.typeError, text "render() argument must be a mapping, not " ++
            text (← kindOf context).label⟩
  | several =>
      complain ⟨.typeError, text "render() takes at most 1 positional argument, got " ++
        natText 10 several.length⟩

/-- The result of a template for a context and named values, which come on top of it. -/
def render (template : Template) (arguments : Arguments) : Action Value := do
  if (arguments.named.lookup (text "self")).isSome then
    complain (.repeatedArgument (text "Template.render") (text "self"))
  let context ← contextOf arguments
  if arguments.named.isEmpty then
    match context with
    | some context => template.call context
    | none => template.call (← emptyContext)
  else
    let given ←
      match context with
      | some context => spreadEntries context
      | none => pure []
    template.call (← newDict (mergeEntries given (namedEntries arguments.named)))

/-- A template in the notation of the language. -/
def display (template : Template) : Text :=
  text "<Template " ++ (givenName template.name).getD (text "(inline)") ++ text ">"

end Template

/-- What templates share. -/
structure Environment where
  markers : Markers
  globals : List (Name × Value)

namespace Environment

/-- The environment with the usual markers and no values. -/
def standard : Environment := ⟨Markers.standard, []⟩

/-- A template of an environment, with the messages about it. -/
def template (environment : Environment) (compiled : Compiled) :
    Action (Template × List Text) := do
  let made ← Template.ofCompiled compiled environment.globals
  return (made, [compiled.report, text "Created template " ++ compiled.title])

/-- The environment with a value for a name. -/
def setGlobal (environment : Environment) (name : Name) (value : Value) : Environment :=
  { environment with globals := insertField name value environment.globals }

/-- The environment without a name, if it has it. -/
def removeGlobal (environment : Environment) (name : Name) : Action Environment := do
  if (environment.globals.lookup name).isSome then
    return { environment with globals := environment.globals.filter fun entry => entry.1 != name }
  else missingKey (.string name)

/-- An environment in the notation of the language. -/
def display (environment : Environment) : Text :=
  text "<Environment markers=" ++ environment.markers.opening.quoted ++ text ".." ++
    environment.markers.closing.quoted ++ text " globals=" ++
    natText 10 environment.globals.length ++ text ">"

end Environment

end Stencil
