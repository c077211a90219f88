import Stencil.Script.Lexeme

/-! # Indentation

A logical line opens or closes blocks by the column at which it begins. Columns
are measured twice: with tabulators that advance to the next multiple of eight
and with tabulators as wide as a space. Both measures have to agree on which of
two lines stands deeper, so no block depends on the width of a tabulator.
-/

namespace Stencil.Script

/-- The column of a line in its two measures. -/
structure Column where
  wide : Nat
  narrow : Nat
  deriving DecidableEq, Repr

namespace Column

/-- The column of an unindented line. -/
def zero : Column := ⟨0, 0⟩

/-- The column behind one more blank; `none` when the code point is no blank. A
form feed returns to the margin. -/
def advance? (column : Column) (point : CodePoint) : Option Column :=
  if point = CodePoint.space then some ⟨column.wide + 1, column.narrow + 1⟩
  else if point = CodePoint.tab then some ⟨(column.wide / 8 + 1) * 8, column.narrow + 1⟩
  else if point = CodePoint.formFeed then some zero
  else none

end Column

/-- The blanks that a line begins with. -/
structure Margin where
  column : Column
  /-- The column at the first line join, if one was met behind a blank. -/
  joined : Option Column
  length : Nat
  deriving DecidableEq, Repr

namespace Margin

/-- The margin of a line about which nothing is known yet. -/
def start : Margin := ⟨Column.zero, none, 0⟩

/-- The column that counts for the block structure. -/
def effective (margin : Margin) : Column := margin.joined.getD margin.column

/-- Measuring goes on through blanks and through a backslash at the end of a line;
`none` when a backslash stands elsewhere or at the end of the program. -/
def measureFrom (margin : Margin) : Text → Option Margin
  | [] => some margin
  | [point] =>
      match margin.column.advance? point with
      | some column => some ⟨column, margin.joined, margin.length + 1⟩
      | none => if point = CodePoint.backslash then none else some margin
  | point :: next :: rest =>
      match margin.column.advance? point with
      | some column => measureFrom ⟨column, margin.joined, margin.length + 1⟩ (next :: rest)
      | none =>
          if point = CodePoint.backslash then
            if next = CodePoint.lineFeed && !rest.isEmpty then
              let kept :=
                match margin.joined with
                | some column => some column
                | none =>
                    if margin.column.wide = 0 then none
                    else some ⟨margin.column.wide, margin.column.wide⟩
              measureFrom ⟨margin.column, kept, margin.length + 2⟩ rest
            else none
          else some margin

end Margin

/-- The greatest number of open indentations, the margin itself included. -/
def indentLimit : Nat := 100

/-- The blocks that a line at a column leaves, innermost first; `none` when the
column is none of theirs. -/
def leaveBlocks (column : Column) : List Column → Option (Nat × List Column)
  | [] => none
  | innermost :: outer =>
      if column.wide < innermost.wide then
        (leaveBlocks column outer).map fun (left, blocks) => (left + 1, blocks)
      else if column = innermost then some (0, innermost :: outer)
      else none

/-- The changes of indentation before a line at a column, and the open blocks
after them; `none` when the column fits no block. -/
def changeBlocks (column : Column) (blocks : List Column) : Option (List Lexeme × List Column) :=
  match blocks with
  | [] => none
  | innermost :: _ =>
      if innermost.wide < column.wide then
        if innermost.narrow < column.narrow && blocks.length < indentLimit then
          some ([.indent], column :: blocks)
        else none
      else
        (leaveBlocks column blocks).map fun (left, remaining) =>
          (List.replicate left .dedent, remaining)

end Stencil.Script
