import Stencil.Text.Basic

/-! # Blanks and digits of every script

A code point is blank when it separates words: the ASCII spaces and separators,
the next-line control and the space characters of every script. Stripping takes
blanks off the ends of a text and leaves the ones inside it.

The digits of a script are ten neighbours in the order of their values, so a table
of the zeros suffices. Digits that stand alone or inside a mark have no place in a
number.
-/

namespace Stencil

/-- The blank code points outside ASCII. -/
def blankIntervals : Intervals :=
  [(133, 133), (160, 160), (5760, 5760), (8192, 8202), (8232, 8233), (8239, 8239), (8287, 8287),
    (12288, 12288)]

/-- A code point that separates words. -/
def CodePoint.isBlank (point : CodePoint) : Bool :=
  if point < 128 then
    (9 ≤ point && point ≤ 13) || (28 ≤ point && point ≤ 32)
  else
    blankIntervals.has point

/-- A space or a tabulator, the two marks that measure a margin. -/
def CodePoint.isSpaceOrTab (point : CodePoint) : Bool :=
  point == CodePoint.space || point == CodePoint.tab

namespace Text

/-- A text without the blanks at its start. -/
def stripStart (whole : Text) : Text := whole.dropWhile CodePoint.isBlank

/-- A text without the blanks at its end. -/
def stripEnd (whole : Text) : Text := dropEndWhile CodePoint.isBlank whole

/-- A text without the blanks at its two ends. -/
def strip (whole : Text) : Text := stripEnd (stripStart whole)

/-- The words of a text: its maximal runs without blanks. -/
def words (whole : Text) : List Text :=
  let step (point : CodePoint) (found : Text × List Text) : Text × List Text :=
    if point.isBlank then
      if found.1.isEmpty then found else ([], found.1 :: found.2)
    else (point :: found.1, found.2)
  let found := whole.foldr step ([], [])
  if found.1.isEmpty then found.2 else found.1 :: found.2

end Text

/-- The zeros of all scripts. -/
def decimalZeros : List CodePoint :=
  [48, 1632, 1776, 1984, 2406, 2534, 2662, 2790, 2918, 3046, 3174, 3302, 3430, 3558, 3664, 3792,
    3872, 4160, 4240, 6112, 6160, 6470, 6608, 6784, 6800, 6992, 7088, 7232, 7248, 42528, 43216,
    43264, 43472, 43504, 43600, 44016, 65296, 66720, 68912, 69734, 69872, 69942, 70096, 70384,
    70736, 70864, 71248, 71360, 71472, 71904, 72016, 72784, 73040, 73120, 92768, 92864, 93008,
    120782, 120792, 120802, 120812, 120822, 123200, 123632, 125264, 130032]

/-- The digits that write no numbers: raised, lowered, inside a mark, or without a zero. -/
def lonelyDigitIntervals : Intervals :=
  [(178, 179), (185, 185), (4969, 4977), (6618, 6618), (8304, 8304), (8308, 8313), (8320, 8329),
    (9312, 9320), (9332, 9340), (9352, 9360), (9450, 9450), (9461, 9469), (9471, 9471),
    (10102, 10110), (10112, 10120), (10122, 10130), (68160, 68163), (69216, 69224),
    (69714, 69722), (127232, 127242)]

namespace CodePoint

/-- The value of a decimal digit. -/
def decimalValue? (point : CodePoint) : Option Nat :=
  (decimalZeros.find? fun first => first ≤ point && point < first + 10).map (point - ·)

/-- A digit of any sort. -/
def isAnyDigit (point : CodePoint) : Bool :=
  point.decimalValue?.isSome || lonelyDigitIntervals.has point

end CodePoint

end Stencil
