import Stencil.Script.PublicNames
import Stencil.Script.Reading
import Stencil.Source.Block

/-! # The render program

The fragments of a template become the body of one function `render(ctx)`. Before
the body stands a line for every name that the body reads: it takes the name's
value from the context, and a public name keeps its own value when the context
has none. Which names these are is decided on the program without those lines.
-/

namespace Stencil.Source

open Script

/-- The lines before the body. -/
def prologue : Text :=
  text "def render(ctx):\n" ++ bodyLine 0 (text "_buf = []") ++
    bodyLine 0 (text "_append = _buf.append")

/-- The line behind the body. -/
def epilogue : Text := bodyLine 0 (text "return ''.join(_buf)")

/-- The line that takes a name's value from the context. -/
def bindingLine (name : Name) : Text :=
  if isPublicName name then
    bodyLine 0 (name ++ text " = ctx.get(" ++ name.quoted ++ text ", _builtins." ++ name ++
      text ")")
  else
    bodyLine 0 (text "if " ++ name.quoted ++ text " in ctx: " ++ name ++ text " = ctx[" ++
      name.quoted ++ text "]")

/-- Why a template has no render program. -/
inductive SourceError where
  | block (fault : BlockFault)
  | program (fault : SourceFault)
  deriving DecidableEq, Repr

/-- The names of a program without the lines that take names from the context. -/
def unboundNames (body : Text) : Except SourceFault NameUse :=
  readProgram (prologue ++ body ++ epilogue) >>= gatherNames

/-- The render program for a body that reads certain names. -/
def boundProgram (names : NameUse) (body : Text) : Text :=
  prologue ++ (Text.sortedSet names.referenced).flatMap bindingLine ++ body ++ epilogue

/-- The state of a generation: the open blocks, innermost first, and the free names
of the last program. -/
structure Generator where
  /-- The open blocks, innermost first. -/
  blocks : List OpenBlock
  /-- The names that the last program reads and never binds, in dictionary order. -/
  names : List Name

namespace Generator

/-- The state before the first token. -/
def start : Generator := ⟨[], []⟩

/-- The number of open blocks. -/
def depth (generator : Generator) : Nat := generator.blocks.length

/-- The fragment of a token, and the state behind it. -/
def emit (generator : Generator) (token : Token) : Except SourceError (Text × Generator) :=
  match Source.emit token generator.blocks with
  | .ok (fragment, blocks) => .ok (fragment, { generator with blocks := blocks })
  | .error fault => .error (.block fault)

/-- The fragments of several tokens, and the state behind them. -/
def emitAll (generator : Generator) : List Token → Except SourceError (List Text × Generator)
  | [] => .ok ([], generator)
  | token :: rest => do
      let (fragment, generator) ← generator.emit token
      let (fragments, generator) ← generator.emitAll rest
      return (fragment :: fragments, generator)

/-- The render program of some fragments, and the state behind it. -/
def assemble (generator : Generator) (fragments : List Text) :
    Except SourceError (Text × Generator) :=
  match generator.blocks with
  | innermost :: _ => .error (.block (.neverClosed innermost.statement))
  | [] =>
      let body := fragments.flatten
      match unboundNames body with
      | .error fault => .error (.program fault)
      | .ok names =>
          .ok (boundProgram names body,
            { generator with names := Text.sortedSet names.free })

end Generator

end Stencil.Source
