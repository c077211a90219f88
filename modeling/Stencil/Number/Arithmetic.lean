import Stencil.Number.BinaryFraction

/-! # Operations on numbers

Operations on whole numbers as bits, in two's complement without an end, and
divisions of floating-point numbers towards the smaller whole number. The remainder of a
division has the sign of the divisor.
-/

namespace Stencil

/-- An operation on bits applied to two whole numbers of any size and sign. -/
def combineBits (operation : {width : Nat} → BitVec width → BitVec width → BitVec width)
    (left right : Int) : Int :=
  let width := max left.natAbs.log2 right.natAbs.log2 + 2
  (operation (BitVec.ofInt width left) (BitVec.ofInt width right)).toInt

/-- The bits that two whole numbers share. -/
def bitAnd (left right : Int) : Int := combineBits (fun left right => left &&& right) left right

/-- The bits of one of two whole numbers. -/
def bitOr (left right : Int) : Int := combineBits (fun left right => left ||| right) left right

/-- The bits in which two whole numbers differ. -/
def bitXor (left right : Int) : Int := combineBits (fun left right => left ^^^ right) left right

/-- A floating-point number with the sign of another. -/
def withSignOf (value sign : Float) : Float :=
  let magnitude := value.toBits.toNat % twoTo 63
  floatOfBits (twoTo 63 ≤ sign.toBits.toNat) magnitude

/-- What is left of a number when a divisor is taken away as often as it fits, with the sign of
the number. -/
def truncatedRemainder (left right : Float) : Float :=
  match FloatParts.ofFloat left, FloatParts.ofFloat right with
  | .finite dividend, .finite divisor =>
      if divisor.mantissa = 0 then notNumber
      else
        let denominator := dividend.denominator * divisor.denominator
        let remainder :=
          dividend.wholeNumerator * divisor.denominator %
            (divisor.wholeNumerator * dividend.denominator)
        (floatOfQuotient? dividend.isNegative remainder denominator).getD notNumber
  | .finite _, .infinite _ => left
  | _, _ => notNumber

/-- The quotient of two floating-point numbers towards the smaller whole number, and the
remainder with the sign of the divisor. The divisor is not zero. -/
def floorDivideFloats (left right : Float) : Float × Float :=
  let remainder := truncatedRemainder left right
  let quotient := (left - remainder) / right
  let (quotient, remainder) :=
    if remainder == 0 then (quotient, withSignOf 0 right)
    else if (right < 0) != (remainder < 0) then (quotient - 1, remainder + right)
    else (quotient, remainder)
  let whole :=
    if quotient == 0 then withSignOf 0 (left / right)
    else
      let floored := quotient.floor
      if quotient - floored > 0.5 then floored + 1 else floored
  (whole, remainder)

/-- The whole number nearest to a floating-point number, a tie to the even one. -/
def BinaryFraction.nearest (value : BinaryFraction) : Int :=
  let magnitude : Int := roundQuotient value.wholeNumerator value.denominator
  if value.isNegative then -magnitude else magnitude

end Stencil
