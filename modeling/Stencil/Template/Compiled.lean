import Stencil.Script.Placement
import Stencil.Source.Assembly
import Stencil.Template.Fault

/-! # Compiled templates

A template is compiled in steps: its normal form is cut into tokens, the tokens
become fragments, the fragments are put together into a render program, and the
program is checked as a whole. The first step that fails decides the error.
-/

namespace Stencil

open Script Source

/-- Why a template cannot be compiled. -/
inductive CompileError where
  | unterminated (fault : Unterminated)
  | source (fault : SourceError)
  deriving DecidableEq, Repr

/-- A template that has been compiled. -/
structure Compiled where
  source : Text
  name : Option Text
  tokenCount : Nat
  code : Text
  /-- The names that the directives read and never bind, in dictionary order. -/
  names : List Name
  program : Program

/-- A name unless it is empty. -/
def givenName (name : Option Text) : Option Text := name.filter fun given => !given.isEmpty

/-- What a template without a name is called. -/
def inlineName : Text := text "<inline>"

/-- The file that errors of a render program are reported in. -/
def programFile (name : Option Text) : Text :=
  match givenName name with
  | none => text "<template>"
  | some name => text "<template " ++ name ++ text ">"

/-- The program that a render program's text spells, every part of it in its place. -/
def executableProgram (code : Text) : Except SourceFault Program := do
  let program ← readProgram code
  if isExecutable program then return program else throw .malformed

/-- The compiled form of a template. -/
def compile (markers : Markers) (name : Option Text) (source : Text) :
    Except CompileError Compiled := do
  let tokens ← (tokenize markers name (Text.normalize source)).mapError .unterminated
  let (fragments, generator) ← (Generator.start.emitAll tokens).mapError .source
  let (code, generator) ← (generator.assemble fragments).mapError .source
  let program ← (executableProgram code).mapError fun fault => .source (.program fault)
  return {
    source := source
    name := name
    tokenCount := tokens.length
    code := code
    names := generator.names
    program := program }

namespace Compiled

/-- What the template is called in messages. -/
def title (compiled : Compiled) : Text := (givenName compiled.name).getD inlineName

/-- The message about a compilation. -/
def report (compiled : Compiled) : Text :=
  let names := Text.join (text ", ") (compiled.names.map Text.quoted)
  text "Compiled " ++ compiled.title ++ text ": " ++ natText 10 compiled.tokenCount ++
    text " tokens, context names [" ++ names ++ text "]"

end Compiled

end Stencil
