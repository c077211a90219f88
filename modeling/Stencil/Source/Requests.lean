import Stencil.Source.Assembly

/-! # Requests to a generator

A caller may go on with a generator after a failure, and finds it in the state in which the failed
request has left it. So a request is answered here step by step: each step works on the state that
the step in front of it has made, also when a later one fails.
-/

namespace Stencil.Source

open Script

/-- A part of an answer: it reads and changes the state, and it may fail. -/
abbrev Step := EStateM SourceError Generator

namespace Step

/-- The word of the innermost block. -/
def topWord : Step (Option Text) := return Source.topWord (← get).blocks

/-- The innermost block is taken off the stack. -/
def popBlock (statement : Text) : Step OpenBlock := do
  match (← get).blocks with
  | [] => throw (.block (.outside statement))
  | innermost :: outer =>
      modify fun generator => { generator with blocks := outer }
      return innermost

/-- The innermost block is closed, and with the last case its choice. -/
def closeBlock : Step Unit := do
  let closed ← popBlock endWord
  if closed.keyword = text "case" && (← topWord) = some (text "match") then
    modify fun generator => { generator with blocks := generator.blocks.drop 1 }

/-- The block is left that a first line continues. -/
def leaveContinued (first : Text) : Step Unit := do
  let word := leadingWord first
  if continuationWords.contains word ||
      (word = text "case" && (← topWord) = some (text "case")) then
    discard (popBlock first.strip)

/-- The lines of a statement are written down, and the block that they open is put on the stack. -/
def emitLines (lines : List Text) : Step Text :=
  modifyGet fun generator =>
    let (fragment, blocks) := Source.emitLines lines generator.blocks
    (fragment, { generator with blocks := blocks })

/-- The fragment of a statement. -/
def emitControl (content : Text) : Step Text := do
  match codeLines content with
  | [] => return []
  | first :: rest =>
      if stripComment first.strip = endWord then
        closeBlock
        return []
      leaveContinued first
      emitLines (first :: rest)

/-- The fragment of a token. -/
def emit (token : Token) : Step Text := do
  let depth := (← get).depth
  match token.kind with
  | .literal => return bodyLine depth (appendCall (quoteLiteral token.content))
  | .expression =>
      let value := text "_str(" ++ (Text.restore token.content).strip ++ text ")"
      return bodyLine depth (appendCall value)
  | .control => emitControl token.content

/-- The names that the lines before the body are made of. -/
def collectNames (body : Text) : Step NameUse :=
  match unboundNames body with
  | .ok names => return names
  | .error fault => throw (.program fault)

/-- The render program of some fragments. -/
def assemble (fragments : List Text) : Step Text := do
  match (← get).blocks with
  | innermost :: _ => throw (.block (.neverClosed innermost.statement))
  | [] =>
      let body := fragments.flatten
      let names ← collectNames body
      modify fun generator => { generator with names := Text.sortedSet names.free }
      return boundProgram names body

end Step

/-- What a caller asks of a generator. -/
inductive Request where
  | emit (token : Token)
  | assemble (fragments : List Text)

/-- The answer to a request. -/
def Request.answer : Request → Step Text
  | .emit token => Step.emit token
  | .assemble fragments => Step.assemble fragments

/-- The answers to several requests, failures among them, and the state behind the last one. -/
def answerAll (generator : Generator) : List Request → List (Except SourceError Text) × Generator
  | [] => ([], generator)
  | request :: rest =>
      match request.answer generator with
      | .ok answered after =>
          let (answers, last) := answerAll after rest
          (.ok answered :: answers, last)
      | .error fault after =>
          let (answers, last) := answerAll after rest
          (.error fault :: answers, last)

end Stencil.Source
