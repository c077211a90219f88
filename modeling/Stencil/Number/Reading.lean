import Stencil.Number.BinaryFraction
import Stencil.Text.Blank

/-! # Reading numbers from text

A number may stand between blanks, its digits may be those of any script, and single
underscores may stand between digits. A whole number is read in a base, which it may
name by a mark in front; a floating-point number is the one nearest to what is written.
-/

namespace Stencil

/-- A blank that may surround a number. -/
def isPadding (point : CodePoint) : Bool :=
  if point < 128 then (9 ≤ point && point ≤ 13) || point = CodePoint.space else point.isBlank

/-- The text of a number in ASCII digits and without the blanks around it. -/
def plainNumber (written : Text) : Text :=
  let plain (point : CodePoint) : CodePoint :=
    if point < 128 then point else (point.decimalValue?.map (48 + ·)).getD point
  Text.dropEndWhile isPadding ((written.map plain).dropWhile isPadding)

/-- The sign in front of a number, and what follows it. -/
def takeSign : Text → Bool × Text
  | 45 :: rest => (true, rest)
  | 43 :: rest => (false, rest)
  | rest => (false, rest)

/-- A text as a whole number. -/
inductive WholeReading where
  | value (number : Int)
  | malformed
  | tooLong (digits : Nat)
  deriving DecidableEq, Repr

/-- The digits of a base at the start of a text, with single underscores between them, and what
follows. -/
def takeDigits (base : Nat) (afterDigit : Bool) : Text → Option (Text × Text)
  | [] => if afterDigit then some ([], []) else none
  | 95 :: rest => if afterDigit then takeDigits base false rest else none
  | point :: rest =>
      match point.digitValue? with
      | some value =>
          if value < base then
            (takeDigits base true rest).map fun found => (point :: found.1, found.2)
          else if afterDigit then some ([], point :: rest) else none
      | none => if afterDigit then some ([], point :: rest) else none

/-- The mark of a base in front of digits. -/
def baseOfMark? : Text → Option Nat
  | 48 :: 98 :: _ | 48 :: 66 :: _ => some 2
  | 48 :: 111 :: _ | 48 :: 79 :: _ => some 8
  | 48 :: 120 :: _ | 48 :: 88 :: _ => some 16
  | _ => none

/-- The digits behind the mark of a base, if the base is the wanted one. -/
def skipMark (base : Nat) (digits : Text) : Text :=
  if baseOfMark? digits = some base then
    match digits.drop 2 with
    | 95 :: rest => rest
    | rest => rest
  else digits

/-- The most digits of a whole number that is read, unless its base is a power of two. -/
def readDigitLimit : Nat := 4300

/-- A digit stands for a whole number of bits. -/
def isBinaryBase (base : Nat) : Bool :=
  base = 2 || base = 4 || base = 8 || base = 16 || base = 32

/-- A text as a whole number in a base; the base zero stands for that of the mark in front. -/
def readWhole (base : Nat) (written : Text) : WholeReading :=
  let (isNegative, digits) := takeSign (plainNumber written)
  let actual := if base = 0 then (baseOfMark? digits).getD 10 else base
  match takeDigits actual false (skipMark actual digits) with
  | none => .malformed
  | some (found, rest) =>
      if readDigitLimit < found.length && !isBinaryBase actual then
        .tooLong found.length
      else if !rest.isEmpty then .malformed
      else
        let value := (natOfDigits? actual found).getD 0
        if base = 0 && actual = 10 && value ≠ 0 && found.head? = some 48 then .malformed
        else .value (if isNegative then -value else value)

/-- Underscores stand between digits only, and are left out. -/
def withoutUnderscores (afterDigit : Bool) : Text → Option Text
  | [] => some []
  | 95 :: next :: rest =>
      if afterDigit && next.isDigit then
        (withoutUnderscores true rest).map (next :: ·)
      else none
  | point :: rest =>
      if point = 95 then none
      else (withoutUnderscores point.isDigit rest).map (point :: ·)

/-- The exponent behind the digits of a number. -/
def readExponentPart : Text → Option Int
  | [] => some 0
  | point :: rest =>
      if point = 101 || point = 69 then
        let (isNegative, digits) := takeSign rest
        if digits.isEmpty || !digits.all CodePoint.isDigit then none
        else
          let value : Int := (natOfDigits? 10 digits).getD 0
          some (if isNegative then -value else value)
      else none

/-- A text as a decimal: its digits and the power of ten that they count. -/
def readDecimalParts (digits : Text) : Option (Nat × Int) := do
  let whole := List.takeWhile CodePoint.isDigit digits
  let rest := List.dropWhile CodePoint.isDigit digits
  let (fraction, rest) :=
    match rest with
    | 46 :: rest => (List.takeWhile CodePoint.isDigit rest, List.dropWhile CodePoint.isDigit rest)
    | rest => ([], rest)
  if whole.isEmpty && fraction.isEmpty then none
  else
    let exponent ← readExponentPart rest
    return ((natOfDigits? 10 (whole ++ fraction)).getD 0, exponent - fraction.length)

/-- A small ASCII letter for a capital one. -/
def smallLetter (point : CodePoint) : CodePoint :=
  if point.isCapitalLetter then point + 32 else point

/-- A text as a floating-point number. -/
def readFloat (written : Text) : Option Float :=
  let plain := plainNumber written
  let (isNegative, rest) := takeSign plain
  let word := rest.map smallLetter
  if word == text "inf" || word == text "infinity" then some (infiniteFloat isNegative)
  else if word == text "nan" then some notNumber
  else do
    let digits ← withoutUnderscores false rest
    let (mantissa, exponent) ← readDecimalParts digits
    return floatOfDecimal isNegative mantissa exponent

end Stencil
