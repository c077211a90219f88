/-! # Binary fractions and floating-point numbers

A finite floating-point number is a sign and a natural number times a power of
two. A quotient of natural numbers is rounded to the nearest such number, a tie
to the one whose last bit is zero; a quotient beyond the largest of them has
none. Everything is exact arithmetic on natural numbers.
-/

namespace Stencil

/-- A signed natural number times a power of two. -/
structure BinaryFraction where
  isNegative : Bool
  mantissa : Nat
  exponent : Int
  deriving DecidableEq, Repr

/-- A floating-point number by its parts. -/
inductive FloatParts where
  | finite (value : BinaryFraction)
  | infinite (isNegative : Bool)
  | notNumber
  deriving DecidableEq, Repr

/-- Two to a power. -/
def twoTo (exponent : Nat) : Nat := Nat.pow 2 exponent

/-- Ten to a power. -/
def tenTo (exponent : Nat) : Nat := Nat.pow 10 exponent

/-- The quotient of two natural numbers rounded to a whole number, a tie to the even one. -/
def roundQuotient (numerator denominator : Nat) : Nat :=
  let quotient := numerator / denominator
  let twice := 2 * (numerator % denominator)
  if twice < denominator then quotient
  else if denominator < twice then quotient + 1
  else quotient + quotient % 2

/-- The largest power of two whose value is not above a quotient of positive numbers. -/
def quotientLog2 (numerator denominator : Nat) : Int :=
  let guess : Int := numerator.log2 - denominator.log2
  if denominator * twoTo guess.toNat ≤ numerator * twoTo (-guess).toNat then guess else guess - 1

namespace BinaryFraction

/-- The power of two of the smallest positive floating-point number. -/
def leastExponent : Int := -1074

/-- The numerator of the value without its sign. -/
def wholeNumerator (value : BinaryFraction) : Nat := value.mantissa * twoTo value.exponent.toNat

/-- The denominator of the value. -/
def denominator (value : BinaryFraction) : Nat := twoTo (-value.exponent).toNat

/-- The value with its sign as a numerator. -/
def signedNumerator (value : BinaryFraction) : Int :=
  if value.isNegative then -(value.wholeNumerator : Int) else value.wholeNumerator

/-- The largest whole number that is not above the value. -/
def floor (value : BinaryFraction) : Int := value.signedNumerator / (value.denominator : Int)

/-- The whole number that is left when the fraction is dropped. -/
def truncate (value : BinaryFraction) : Int := value.signedNumerator.tdiv (value.denominator : Int)

/-- The value is a whole number. -/
def isWhole (value : BinaryFraction) : Bool := value.wholeNumerator % value.denominator == 0

end BinaryFraction

namespace FloatParts

/-- The parts of a floating-point number. -/
def ofFloat (value : Float) : FloatParts :=
  let bits : Nat := value.toBits.toNat
  let isNegative : Bool := decide (twoTo 63 ≤ bits)
  let field : Nat := bits / twoTo 52 % twoTo 11
  let fraction : Nat := bits % twoTo 52
  if field = 2047 then if fraction = 0 then .infinite isNegative else .notNumber
  else if field = 0 then .finite ⟨isNegative, fraction, BinaryFraction.leastExponent⟩
  else .finite ⟨isNegative, twoTo 52 + fraction, (field : Int) - 1075⟩

end FloatParts

/-- A floating-point number given by its sign and its other bits. -/
def floatOfBits (isNegative : Bool) (magnitude : Nat) : Float :=
  Float.ofBits (UInt64.ofNat (magnitude + if isNegative then twoTo 63 else 0))

/-- The infinite number with a sign. -/
def infiniteFloat (isNegative : Bool) : Float := floatOfBits isNegative (2047 * twoTo 52)

/-- The value that is no number. -/
def notNumber : Float := floatOfBits false (2047 * twoTo 52 + twoTo 51)

/-- The floating-point number nearest to a quotient with a sign; there is none when the quotient
is too large. -/
def floatOfQuotient? (isNegative : Bool) (numerator denominator : Nat) : Option Float :=
  if numerator = 0 then some (floatOfBits isNegative 0)
  else
    let exponent := max (quotientLog2 numerator denominator - 52) BinaryFraction.leastExponent
    let mantissa :=
      roundQuotient (numerator * twoTo (-exponent).toNat) (denominator * twoTo exponent.toNat)
    let bits := (exponent - BinaryFraction.leastExponent).toNat * twoTo 52 + mantissa
    if bits < 2047 * twoTo 52 then some (floatOfBits isNegative bits) else none

/-- The floating-point number nearest to a whole number. -/
def floatOfInt? (value : Int) : Option Float :=
  floatOfQuotient? (value < 0) value.natAbs 1

/-- The floating-point number nearest to a decimal, which is infinite when the decimal is too
large. -/
def floatOfDecimal (isNegative : Bool) (mantissa : Nat) (exponent : Int) : Float :=
  if mantissa = 0 then floatOfBits isNegative 0
  else if 400 < exponent then infiniteFloat isNegative
  else if exponent < -400 && mantissa.log2 + 3 * exponent < -1200 then floatOfBits isNegative 0
  else
    (floatOfQuotient? isNegative (mantissa * tenTo exponent.toNat)
      (tenTo (-exponent).toNat)).getD (infiniteFloat isNegative)

end Stencil
