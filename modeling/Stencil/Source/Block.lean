import Stencil.Source.LineText
import Stencil.Template.Token
import Stencil.Text.Lines
import Stencil.Text.Normal

/-! # Blocks and fragments

Each token of a template becomes a fragment of the render program's body, at the
depth of the blocks that are open. A statement that ends in a colon opens a
block, `end` closes the innermost one, and a continuation such as `else` closes
one and opens the next. A case opens inside its choice, and the `end` of the last
case closes both. Whether emission fails depends on the stack of open blocks and
on the first line alone, and a failure leaves the stack as it is.
-/

namespace Stencil.Source

/-- An open block: the word that its header begins with, and the header itself. -/
structure OpenBlock where
  keyword : Text
  statement : Text
  deriving DecidableEq, Repr

/-- What is wrong with the blocks of a template. -/
inductive BlockFault where
  /-- A statement closes a block where none is open. -/
  | outside (statement : Text)
  | neverClosed (statement : Text)
  deriving DecidableEq, Repr

/-- The word that closes a block. -/
def endWord : Text := text "end"

/-- The statement that a fault is about. -/
def BlockFault.statement : BlockFault → Text
  | .outside statement | .neverClosed statement => statement

/-- The wording of a fault. -/
def BlockFault.message : BlockFault → Text
  | .outside statement => statement.quoted ++ text " outside of a block"
  | .neverClosed statement =>
      text "block " ++ statement.quoted ++ text " is never closed, expected " ++ endWord.quoted

/-- One step of indentation. -/
def indentStep : Text := Text.spaces 4

/-- The indentation of the body below a number of open blocks. -/
def indentAt (depth : Nat) : Text := (List.replicate (depth + 1) indentStep).flatten

/-- A line of the body with its indentation and its end. -/
def bodyLine (depth : Nat) (line : Text) : Text :=
  indentAt depth ++ line ++ [CodePoint.lineFeed]

/-- The ASCII word that a line begins with, behind its blanks. -/
def leadingWord (line : Text) : Text :=
  let start := line.stripStart
  match start with
  | [] => []
  | first :: _ =>
      if first.isLetter || first = 95 then start.takeWhile CodePoint.isWordCharacter else []

/-- The words that continue a block. -/
def continuationWords : List Text := [text "elif", text "else", text "except", text "finally"]

/-- The lines of a statement that hold anything, without their common margin. -/
def codeLines (content : Text) : List Text :=
  ((Text.splitLines (Text.dedent (Text.restore content))).filter fun line =>
    !(Text.strip line).isEmpty).map Text.stripEnd

/-- The last line with code, without its comment; empty when every line is a comment. -/
def lastCode (lines : List Text) : Text :=
  ((lines.reverse.map stripComment).find? fun code => !(Text.strip code).isEmpty).getD []

/-- The stack of blocks without its innermost one. -/
def popBlock (statement : Text) : List OpenBlock → Except BlockFault (OpenBlock × List OpenBlock)
  | [] => .error (.outside statement)
  | innermost :: outer => .ok (innermost, outer)

/-- The word of the innermost block. -/
def topWord (blocks : List OpenBlock) : Option Text := blocks.head?.map OpenBlock.keyword

/-- The stack after a block is closed: closing the last case closes its choice. -/
def closeBlock (blocks : List OpenBlock) : Except BlockFault (List OpenBlock) := do
  let (closed, outer) ← popBlock endWord blocks
  if closed.keyword = text "case" && topWord outer = some (text "match") then
    return outer.drop 1
  else return outer

/-- The stack after the block is left that a first line continues. -/
def leaveContinued (first : Text) (blocks : List OpenBlock) :
    Except BlockFault (List OpenBlock) := do
  let word := leadingWord first
  if continuationWords.contains word ||
      (word = text "case" && topWord blocks = some (text "case")) then
    return (← popBlock first.strip blocks).2
  else return blocks

/-- The fragment of a statement's lines and the stack behind it. -/
def emitLines (lines : List Text) (blocks : List OpenBlock) : Text × List OpenBlock :=
  let written := lines.flatMap (bodyLine blocks.length)
  let last := lastCode lines
  if Text.endsIn (text ":") last then
    let opened : OpenBlock := ⟨leadingWord last, last.strip⟩
    let blocks := opened :: blocks
    if opened.keyword = text "match" then (written, blocks)
    else (written ++ bodyLine blocks.length (text "pass"), blocks)
  else (written, blocks)

/-- The fragment of a statement, and the stack of open blocks behind it. -/
def emitControl (content : Text) (blocks : List OpenBlock) :
    Except BlockFault (Text × List OpenBlock) :=
  match codeLines content with
  | [] => .ok ([], blocks)
  | first :: rest =>
      if stripComment first.strip = endWord then (closeBlock blocks).map fun left => ([], left)
      else (leaveContinued first blocks).map (emitLines (first :: rest))

/-- The call that writes a value out. -/
def appendCall (written : Text) : Text := text "_append(" ++ written ++ text ")"

/-- The fragment of a token, and the stack of open blocks behind it. -/
def emit (token : Token) (blocks : List OpenBlock) :
    Except BlockFault (Text × List OpenBlock) :=
  match token.kind with
  | .literal => .ok (bodyLine blocks.length (appendCall (quoteLiteral token.content)), blocks)
  | .expression =>
      let value := text "_str(" ++ (Text.restore token.content).strip ++ text ")"
      .ok (bodyLine blocks.length (appendCall value), blocks)
  | .control => emitControl token.content blocks

end Stencil.Source
