import Stencil.Script.Lexeme

/-! # Number lexemes

A whole number is written in base two, eight, ten or sixteen. A decimal may have
a fraction and an exponent, and a final letter makes it imaginary. One
underscore may stand between two digits. A number must not run into a word,
except into one of a few keywords that can follow a value.
-/

namespace Stencil.Script

/-- The number of code points that continue a group of digits; `none` when an
underscore has no digit behind it. -/
def groupTail (isDigit : CodePoint → Bool) : Text → Option Nat
  | [] => some 0
  | [point] => if point = 95 then none else some (if isDigit point then 1 else 0)
  | point :: next :: rest =>
      if point = 95 then
        if isDigit next then (groupTail isDigit rest).map (· + 2) else none
      else if isDigit point then (groupTail isDigit (next :: rest)).map (· + 1)
      else some 0

/-- The number of code points in a group of digits; `none` when there is no digit
at the start or an underscore has none behind it. -/
def groupLength (isDigit : CodePoint → Bool) : Text → Option Nat
  | [] => none
  | point :: rest => if isDigit point then (groupTail isDigit rest).map (· + 1) else none

/-- A code point that could belong to an identifier. -/
def couldContinueWord (point : CodePoint) : Bool :=
  point.isLetter || point.isDigit || point == 95 || point ≥ 128

/-- The keywords that may follow a number without a space. -/
def wordsAfterNumber : List Text :=
  [text "and", text "else", text "for", text "if", text "in", text "is", text "not", text "or"]

/-- Text that may stand directly behind a number. -/
def mayFollowNumber (rest : Text) : Bool :=
  match rest with
  | [] => true
  | point :: _ =>
      !couldContinueWord point || wordsAfterNumber.any fun word => word.isPrefixOf rest

/-- The value of decimal digits between which underscores may stand. -/
def digitsValue (base : Nat) (digits : Text) : Nat :=
  (natOfDigits? base (digits.filter (· ≠ 95))).getD 0

/-- The most decimal digits that a whole number other than zero may be written with. -/
def wholeDigitLimit : Nat := 4300

/-- A whole number behind its two-letter base mark, with the code points of both. -/
def readBased (base : Nat) (whole : Text) : Option (NumberLiteral × Nat) := do
  let isDigit (point : CodePoint) : Bool := point.digitValue?.any (· < base)
  let digits := whole.drop 2
  let skipped := if digits.head? = some 95 then 1 else 0
  let length ← groupLength isDigit (digits.drop skipped)
  let after := digits.drop (skipped + length)
  if (after.head?.any CodePoint.isDigit) || !mayFollowNumber after then none
  else
    return (.whole (digitsValue base ((digits.drop skipped).take length)), 2 + skipped + length)

/-- An exponent mark with its digits: its value and its length. Without digits
behind it the mark does not belong to the number, unless a sign was written. -/
def readExponent (rest : Text) : Option (Option (Int × Nat)) :=
  match rest with
  | mark :: after =>
      if mark = 101 || mark = 69 then
        match after with
        | sign :: digits =>
            if sign = 43 || sign = 45 then do
              let length ← groupLength CodePoint.isDigit digits
              let value : Int := digitsValue 10 (digits.take length)
              return some (if sign = 45 then -value else value, length + 2)
            else if sign.isDigit then do
              let length ← groupLength CodePoint.isDigit after
              return some (digitsValue 10 (after.take length), length + 1)
            else some none
        | [] => some none
      else some none
  | [] => some none

/-- The fraction behind a whole part: its digits and its length, the point included. -/
def readFraction (rest : Text) : Option (Option (Text × Nat)) :=
  match rest with
  | 46 :: after =>
      if after.head?.any CodePoint.isDigit then do
        let length ← groupLength CodePoint.isDigit after
        return some ((after.take length).filter (· ≠ 95), length + 1)
      else some (some ([], 1))
  | _ => some none

/-- The number of code points in the whole part of a decimal, which may be absent. -/
def wholePart (whole : Text) : Option Nat :=
  if whole.head?.any CodePoint.isDigit then groupLength CodePoint.isDigit whole else some 0

/-- A number in decimal notation with the count of its code points. -/
def readDecimal (whole : Text) : Option (NumberLiteral × Nat) := do
  let wholeLength ← wholePart whole
  let wholeDigits := (whole.take wholeLength).filter (· ≠ 95)
  let fraction ← readFraction (whole.drop wholeLength)
  let (fractionDigits, fractionLength) := fraction.getD ([], 0)
  let exponent ← readExponent (whole.drop (wholeLength + fractionLength))
  let (power, exponentLength) := exponent.getD (0, 0)
  let length := wholeLength + fractionLength + exponentLength
  let after := whole.drop length
  let mantissa := digitsValue 10 (wholeDigits ++ fractionDigits)
  let scale := power - fractionDigits.length
  if after.head? = some 106 || after.head? = some 74 then
    if mayFollowNumber (after.drop 1) then return (.imaginary mantissa scale, length + 1) else none
  else if !mayFollowNumber after then none
  else if fraction.isSome || exponent.isSome then return (.decimal mantissa scale, length)
  else if wholeDigits.head? = some 48 && mantissa ≠ 0 then none
  else if mantissa ≠ 0 && wholeDigits.length > wholeDigitLimit then none
  else return (.whole mantissa, length)

/-- The number at the start of a text with the count of its code points. -/
def readNumber (whole : Text) : Option (NumberLiteral × Nat) :=
  match whole with
  | 48 :: mark :: _ =>
      if mark = 120 || mark = 88 then readBased 16 whole
      else if mark = 111 || mark = 79 then readBased 8 whole
      else if mark = 98 || mark = 66 then readBased 2 whole
      else readDecimal whole
  | _ => readDecimal whole

end Stencil.Script
