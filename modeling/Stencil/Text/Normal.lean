import Stencil.Text.Basic

/-! # Normal form of template text

Template text is scanned in a form without line breaks: a backslash is doubled,
and then carriage return and line feed become a backslash with a letter behind
it. The doubling comes first, so every backslash of the result opens a pair of
two code points, and reading the pairs from the left gives the text back.
-/

namespace Stencil.Text

open CodePoint

/-- Template text in its form without line breaks. -/
def normalize (raw : Text) : Text :=
  substitute lineFeed (text "\\n")
    (substitute carriageReturn (text "\\r") (substitute backslash (text "\\\\") raw))

/-- The code point that a backslash and a letter stand for. -/
def unescape? (letter : CodePoint) : Option CodePoint :=
  if letter = backslash then some backslash
  else if letter = 114 then some carriageReturn
  else if letter = 110 then some lineFeed
  else none

/-- Every pair of a backslash and its letter becomes the code point it stands for. -/
def restore : Text → Text
  | [] => []
  | [point] => [point]
  | point :: next :: rest =>
      if point = backslash then
        match unescape? next with
        | some meant => meant :: restore rest
        | none => point :: restore (next :: rest)
      else
        point :: restore (next :: rest)

end Stencil.Text
