import Stencil.Number.BinaryFraction
import Stencil.Text.Basic

/-! # Floating-point numbers as text

A number is written with its shortest digits. Sizes from a ten-thousandth up to
ten to the sixteenth are positional with at least one digit behind the point; others have
one digit before the point and a signed exponent of at least two digits.

Among the decimals that are nearer to a floating-point number than to every other
one, the shortest is chosen, and of several the nearest. Grids of ever more digits
are tried; on each of them only the two neighbours of the number can be near
enough.
-/

namespace Stencil

/-- A decimal: its digits as one number, times a power of ten. -/
structure Decimal where
  digits : Nat
  exponent : Int
  deriving DecidableEq, Repr

/-- The order of a number times a power of ten and another times a power of two. -/
def compareScaled (digits : Nat) (tens : Int) (mantissa : Nat) (twos : Int) : Ordering :=
  compare (digits * tenTo tens.toNat * twoTo (-twos).toNat)
    (mantissa * twoTo twos.toNat * tenTo (-tens).toNat)

namespace BinaryFraction

/-- The gap below the value is half as wide as the gap above it. -/
def isNarrowBelow (value : BinaryFraction) : Bool :=
  value.mantissa = twoTo 52 && leastExponent < value.exponent

/-- A decimal is nearer to the value than to any other number with as many bits. Decimals halfway
to a neighbour belong to the value whose last bit is zero. -/
def isReadFrom (value : BinaryFraction) (decimal : Decimal) : Bool :=
  let lower := 4 * value.mantissa - if value.isNarrowBelow then 1 else 2
  let upper := 4 * value.mantissa + 2
  let below := compareScaled decimal.digits decimal.exponent lower (value.exponent - 2)
  let above := compareScaled decimal.digits decimal.exponent upper (value.exponent - 2)
  let isEven := value.mantissa % 2 = 0
  (below == .gt || (isEven && below == .eq)) && (above == .lt || (isEven && above == .eq))

/-- The least power of ten above the value. -/
def decimalPoint (value : BinaryFraction) : Int :=
  let guess : Int := ((value.mantissa.log2 : Int) + value.exponent) * 30103 / 100000
  let candidates := (List.range 4).map fun (step : Nat) => guess - 1 + step
  (candidates.find? fun power =>
    compareScaled 1 power value.mantissa value.exponent == .gt).getD (guess + 3)

/-- The neighbour of the value with a number of digits that stands for it; of two the nearer
one, and of two equally near ones the one with an even last digit. -/
def shortestOfLength (value : BinaryFraction) (length : Nat) : Option Decimal :=
  let exponent := value.decimalPoint - length
  let lower :=
    value.mantissa * twoTo value.exponent.toNat * tenTo (-exponent).toNat /
      (twoTo (-value.exponent).toNat * tenTo exponent.toNat)
  let below : Decimal := ⟨lower, exponent⟩
  let above : Decimal := ⟨lower + 1, exponent⟩
  match value.isReadFrom below, value.isReadFrom above with
  | true, false => some below
  | false, true => some above
  | false, false => none
  | true, true =>
      match compareScaled (2 * lower + 1) exponent (2 * value.mantissa) value.exponent with
      | .gt => some below
      | .lt => some above
      | .eq => some (if lower % 2 = 0 then below else above)

end BinaryFraction

/-- The same decimal without zeros at the end of its digits. -/
def Decimal.strip (fuel : Nat) (decimal : Decimal) : Decimal :=
  match fuel with
  | 0 => decimal
  | fuel + 1 =>
      if decimal.digits ≠ 0 && decimal.digits % 10 = 0 then
        Decimal.strip fuel ⟨decimal.digits / 10, decimal.exponent + 1⟩
      else decimal

/-- The shortest decimal of a positive value. -/
def BinaryFraction.shortest (value : BinaryFraction) : Decimal :=
  let found := (List.range 17).findSome? fun (count : Nat) => value.shortestOfLength (count + 1)
  (found.getD ⟨value.mantissa * twoTo value.exponent.toNat * Nat.pow 5 (-value.exponent).toNat,
    min value.exponent 0⟩).strip 800

/-- The decisions of a format for floating-point numbers. -/
structure FloatLayout where
  /-- The least power of ten of a leading digit that is written positionally. -/
  positionalFrom : Int
  /-- The least power of ten of a leading digit that needs an exponent again. -/
  positionalBelow : Int
  exponentWidth : Nat

/-- The layout of numbers in the output of a template. -/
def outputLayout : FloatLayout where
  positionalFrom := -4
  positionalBelow := 16
  exponentWidth := 2

/-- A number with a sign that is always written, in at least some digits. -/
def exponentText (width : Nat) (exponent : Int) : Text :=
  let digits := natText 10 exponent.natAbs
  (if exponent < 0 then text "-" else text "+") ++ List.replicate (width - digits.length) 48 ++
    digits

/-- A decimal without a sign. -/
def FloatLayout.decimalText (layout : FloatLayout) (decimal : Decimal) : Text :=
  let digits := natText 10 decimal.digits
  let leading : Int := decimal.exponent + digits.length - 1
  if layout.positionalFrom ≤ leading && leading < layout.positionalBelow then
    if leading < 0 then
      text "0." ++ List.replicate (-leading - 1).toNat 48 ++ digits
    else
      let padded := digits ++ List.replicate decimal.exponent.toNat 48
      let fraction := padded.drop (leading.toNat + 1)
      padded.take (leading.toNat + 1) ++ text "." ++
        if fraction.isEmpty then text "0" else fraction
  else
    let fraction := digits.drop 1
    digits.take 1 ++ (if fraction.isEmpty then [] else text "." ++ fraction) ++ text "e" ++
      exponentText layout.exponentWidth leading

/-- A floating-point number as it is written out. -/
def floatText (value : Float) : Text :=
  match FloatParts.ofFloat value with
  | .notNumber => text "nan"
  | .infinite isNegative => if isNegative then text "-inf" else text "inf"
  | .finite parts =>
      let sign := if parts.isNegative then text "-" else []
      sign ++
        if parts.mantissa = 0 then text "0.0" else outputLayout.decimalText parts.shortest

end Stencil
