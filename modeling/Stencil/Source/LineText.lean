import Stencil.Script.Lexeme.Scan
import Stencil.Text.Blank

/-! # The text of a line

Literal text in normal form becomes the body of a string between apostrophes: an apostrophe gets a
backslash, and a code point that program text cannot hold is written by its number. Backslashes are
doubled already, so none of these escapes merges with what stands before it.

A number sign begins a comment at the end of a line unless it stands inside a string. A quotation
mark without its partner on the line is no string; three marks without their partners swallow the
rest of the line, so no comment follows them.
-/

namespace Stencil.Source

open CodePoint Script

/-- A code point that the text of a program cannot hold as it stands. -/
def isUnsafe (point : CodePoint) : Bool :=
  point ≤ 8 || (11 ≤ point && point ≤ 31) || point == 127 || point.isSurrogate

/-- A code point as it stands between apostrophes. -/
def literalPoint (point : CodePoint) : Text :=
  if point = apostrophe then [backslash, apostrophe]
  else if isUnsafe point then
    if point < 0x100 then text "\\x" ++ hexText 2 point else text "\\u" ++ hexText 4 point
  else [point]

/-- Text in normal form as a string of the render program. -/
def quoteLiteral (normal : Text) : Text :=
  apostrophe :: normal.flatMap literalPoint ++ [apostrophe]

/-- The length of the string that a quotation mark opens, the mark itself not
counted; the length is zero when nothing closes a single mark, and `none` when
nothing closes three. -/
def stringExtent (mark : CodePoint) (rest : Text) : Option Nat :=
  if [mark, mark].isPrefixOf rest then (bodyLength mark true (rest.drop 2)).map (· + 5)
  else some (((bodyLength mark false rest).map (· + 1)).getD 0)

/-- The part of a line before its comment, where some code points still belong to
an open string; `none` when there is no comment. -/
def beforeComment (pending : Nat) : Text → Option Text
  | [] => none
  | point :: rest =>
      if 0 < pending then (beforeComment (pending - 1) rest).map (point :: ·)
      else if point = hash then some []
      else if isQuotationMark point then do
        let length ← stringExtent point rest
        (beforeComment length rest).map (point :: ·)
      else (beforeComment 0 rest).map (point :: ·)

/-- A line without its comment and the blanks before it; a line without a comment stays. -/
def stripComment (line : Text) : Text :=
  match beforeComment 0 line with
  | some code => code.stripEnd
  | none => line

end Stencil.Source
