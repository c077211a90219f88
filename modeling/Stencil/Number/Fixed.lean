import Stencil.Number.FloatText

/-! # Decimals with a chosen number of digits

A floating-point number is rounded to a number of places behind the point, or to a
number of digits in all. Its exact value is rounded, and a tie goes to the even
neighbour.
-/

namespace Stencil

namespace BinaryFraction

/-- The value without its sign times a power of ten, rounded to a whole number. -/
def roundScaled (value : BinaryFraction) (tens : Int) : Nat :=
  roundQuotient (value.wholeNumerator * tenTo tens.toNat) (value.denominator * tenTo (-tens).toNat)

/-- A positive value rounded to a number of digits, which is at least one. -/
def roundDigits (value : BinaryFraction) (count : Nat) : Decimal :=
  let exponent := value.decimalPoint - count
  let digits := value.roundScaled (-exponent)
  if digits = tenTo count then ⟨tenTo (count - 1), exponent + 1⟩ else ⟨digits, exponent⟩

end BinaryFraction

/-- Digits that are filled up with zeros on the left. -/
def paddedDigits (width value : Nat) : Text :=
  let digits := natText 10 value
  List.replicate (width - digits.length) 48 ++ digits

/-- A number of units of the last place, with a point before the places. -/
def placesText (places units : Nat) (keepPoint : Bool) : Text :=
  let digits := paddedDigits (places + 1) units
  let whole := digits.take (digits.length - places)
  let fraction := digits.drop (digits.length - places)
  whole ++ if fraction.isEmpty && !keepPoint then [] else text "." ++ fraction

/-- A value without its sign with some places behind the point. -/
def BinaryFraction.fixedText (value : BinaryFraction) (places : Nat) (keepPoint : Bool) : Text :=
  placesText places (value.roundScaled places) keepPoint

/-- A value without its sign in some digits and the power of ten of the first one. -/
def BinaryFraction.leadingDigits (value : BinaryFraction) (count : Nat) : Text × Int :=
  if value.mantissa = 0 then (List.replicate count 48, 0)
  else
    let decimal := value.roundDigits count
    let digits := natText 10 decimal.digits
    (digits, decimal.exponent + digits.length - 1)

/-- Digits with a point behind the first one and an exponent. -/
def scientificText (digits : Text) (leading : Int) (keepPoint : Bool) : Text :=
  let fraction := digits.drop 1
  digits.take 1 ++ (if fraction.isEmpty && !keepPoint then [] else text "." ++ fraction) ++
    text "e" ++ exponentText outputLayout.exponentWidth leading

/-- A value without its sign with one digit before the point and an exponent. -/
def BinaryFraction.exponentialText (value : BinaryFraction) (places : Nat) (keepPoint : Bool) :
    Text :=
  let (digits, leading) := value.leadingDigits (places + 1)
  scientificText digits leading keepPoint

/-- Digits without the zeros at their end. -/
def withoutFinalZeros (digits : Text) : Text := Text.dropEndWhile (· == 48) digits

/-- A value without its sign in some significant digits, positional unless its exponent is small
or as large as their number. Zeros at the end are kept only on demand. -/
def BinaryFraction.generalText (value : BinaryFraction) (precision : Nat)
    (keepZeros needsPoint : Bool) : Text :=
  let count := max precision 1
  let (digits, leading) := value.leadingDigits count
  if -4 ≤ leading && leading < (if needsPoint then (count : Int) - 1 else count) then
    let kept :=
      if leading < 0 then List.replicate (-leading).toNat 48 ++ digits else digits
    let whole := kept.take (leading.toNat + 1)
    let fraction := kept.drop (leading.toNat + 1)
    let fraction := if keepZeros then fraction else withoutFinalZeros fraction
    let fraction := if needsPoint && fraction.isEmpty then text "0" else fraction
    whole ++ if fraction.isEmpty && !keepZeros then [] else text "." ++ fraction
  else
    let digits :=
      if keepZeros then digits
      else digits.take 1 ++ withoutFinalZeros (digits.drop 1)
    scientificText digits leading keepZeros

end Stencil
