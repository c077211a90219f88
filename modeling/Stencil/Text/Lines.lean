import Stencil.Text.Blank

/-! # Lines and parts of a text

A line ends at any of the line breaks of Unicode, of which a carriage return
with a line feed behind it is one. A break at the very end opens no further
line, so the empty text has no line at all.

The margin of a text is measured on other lines. It is the longest run of spaces
and tabulators with which every line that holds anything else begins, where
lines end at line feeds only and a line of spaces and tabulators alone counts as
empty.

A text is cut into parts at the occurrences of a separator or at its runs of blanks, from the left or
from the right, at every place or only so many times. Replacing a needle cuts the text there and
joins the parts anew.
-/

namespace Stencil

/-- A code point that ends a line. -/
def CodePoint.isLineBreak (point : CodePoint) : Bool :=
  (10 ≤ point && point ≤ 13) || (28 ≤ point && point ≤ 30) || point == 133 || point == 8232 ||
    point == 8233

namespace Text

/-- The lines of a text, without the breaks that end them. -/
def splitLines : Text → List Text
  | [] => []
  | CodePoint.carriageReturn :: CodePoint.lineFeed :: rest => [] :: splitLines rest
  | point :: rest =>
      if point.isLineBreak then
        [] :: splitLines rest
      else
        match splitLines rest with
        | [] => [[point]]
        | line :: lines => (point :: line) :: lines

/-- The longest common beginning of two texts. -/
def commonStart : Text → Text → Text
  | left :: lefts, right :: rights =>
      if left = right then left :: commonStart lefts rights else []
  | _, _ => []

/-- A line of nothing but spaces and tabulators becomes the empty line. -/
def clearIfBlank (line : Text) : Text :=
  if line.all CodePoint.isSpaceOrTab then [] else line

/-- The spaces and tabulators that a line begins with. -/
def indentation (line : Text) : Text := line.takeWhile CodePoint.isSpaceOrTab

/-- The longest common indentation of the lines that are not empty. -/
def margin (lines : List Text) : Text :=
  match (lines.filter fun line => !line.isEmpty).map indentation with
  | [] => []
  | first :: rest => rest.foldl commonStart first

/-- A text with its margin taken off every line. -/
def dedent (whole : Text) : Text :=
  let lines := (splitOn CodePoint.lineFeed whole).map clearIfBlank
  let removed := (margin lines).length
  join [CodePoint.lineFeed] (lines.map fun line => line.drop removed)

/-- The parts of a text between the first occurrences of a separator, of which so many count. -/
def partsBetween (separator : Text) : Nat → Text → List Text
  | 0, whole => [whole]
  | limit + 1, whole =>
      match splitAt? separator whole with
      | none => [whole]
      | some (before, after) => before :: partsBetween separator limit after

/-- The parts of a text between the last occurrences of a separator, of which so many count. -/
def partsBetweenFromEnd (separator : Text) (limit : Nat) (whole : Text) : List Text :=
  ((partsBetween separator.reverse limit whole.reverse).map List.reverse).reverse

/-- The parts of a text between its first runs of blanks, of which so many count. -/
def wordsBetween : Nat → Text → List Text
  | 0, whole =>
      let rest := stripStart whole
      if rest.isEmpty then [] else [rest]
  | limit + 1, whole =>
      let rest := stripStart whole
      if rest.isEmpty then []
      else
        rest.takeWhile (fun point => !point.isBlank) ::
          wordsBetween limit (rest.dropWhile fun point => !point.isBlank)

/-- The parts of a text between its last runs of blanks, of which so many count. -/
def wordsBetweenFromEnd (limit : Nat) (whole : Text) : List Text :=
  ((wordsBetween limit whole.reverse).map List.reverse).reverse

/-- A text with a filling before its first code points, of which so many count, and at its end. -/
def interleave (filling : Text) : Nat → Text → Text
  | 0, whole => whole
  | _ + 1, [] => filling
  | limit + 1, point :: rest => filling ++ point :: interleave filling limit rest

/-- A text in which the first occurrences of a needle, of which so many count, give way to another
text. An empty needle occurs before every code point and at the end. -/
def replace (needle replacement : Text) (limit : Nat) (whole : Text) : Text :=
  if needle.isEmpty then interleave replacement limit whole
  else join replacement (partsBetween needle limit whole)

/-- The number of occurrences of a needle that do not overlap. -/
def occurrences (needle whole : Text) : Nat :=
  if needle.isEmpty then whole.length + 1
  else (partsBetween needle whole.length whole).length - 1

/-- The place of the first occurrence of a needle. -/
def place? (needle whole : Text) : Option Nat :=
  (splitAt? needle whole).map fun found => found.1.length

/-- The place of the last occurrence of a needle. -/
def lastPlace? (needle whole : Text) : Option Nat :=
  (place? needle.reverse whole.reverse).map fun distance => whole.length - distance - needle.length

end Text

end Stencil
