import Stencil.Number.BinaryFraction
import Stencil.Script.Scope

/-! # Patterns that can be matched

A pattern binds each of its names once, its alternatives bind the same names, and a
pattern that matches anything comes last unless something else decides. A sequence
leaves at most one run of elements over, and a mapping looks for each key once.
-/

namespace Stencil.Script

/-- A real number in lowest terms, or one without bound. -/
inductive ExactNumber where
  | quotient (numerator : Int) (denominator : Nat)
  | infinite (isNegative : Bool)
  deriving DecidableEq, Repr

namespace ExactNumber

/-- Zero. -/
def zero : ExactNumber := .quotient 0 1

/-- The number with the other sign. -/
def negate : ExactNumber → ExactNumber
  | .quotient numerator denominator => .quotient (-numerator) denominator
  | .infinite isNegative => .infinite !isNegative

/-- The exact value of a floating-point number. -/
def ofFloat (value : Float) : ExactNumber :=
  match FloatParts.ofFloat value with
  | .finite parts =>
      let common := parts.wholeNumerator.gcd parts.denominator
      .quotient (parts.signedNumerator / common) (parts.denominator / common)
  | .infinite isNegative => .infinite isNegative
  | .notNumber => zero

/-- The floating-point number nearest to a number, unless it is too large. -/
def rounded? : ExactNumber → Option ExactNumber
  | .quotient numerator denominator =>
      (floatOfQuotient? (numerator < 0) numerator.natAbs denominator).map .ofFloat
  | .infinite isNegative => some (.infinite isNegative)

end ExactNumber

/-- A key that a mapping pattern looks for; keys that are equal as values are equal here. -/
inductive PatternKey where
  | nothing
  /-- A number with its real and its imaginary part; a truth value counts as zero or one. -/
  | number (real imaginary : ExactNumber)
  | text (value : Text)
  | bytes (value : List Nat)
  deriving DecidableEq, Repr

namespace PatternKey

/-- A number without an imaginary part. -/
def real (value : ExactNumber) : PatternKey := .number value .zero

/-- The key that a number writes. -/
def ofNumber : NumberLiteral → PatternKey
  | .whole value => real (.quotient value 1)
  | .decimal mantissa exponent => real (.ofFloat (floatOfDecimal false mantissa exponent))
  | .imaginary mantissa exponent =>
      .number .zero (.ofFloat (floatOfDecimal false mantissa exponent))

/-- The number with the other sign. -/
def negate : PatternKey → PatternKey
  | .number real imaginary => .number real.negate imaginary.negate
  | other => other

/-- The sum of a real and an imaginary number; there is none when the real one is too large. -/
def join : PatternKey → PatternKey → Option PatternKey
  | .number real _, .number _ imaginary => real.rounded?.map (.number · imaginary)
  | other, _ => some other

/-- The key of a constant; `none` for what is not one. -/
def ofExpr? : Expr → Option PatternKey
  | .constant .none => some .nothing
  | .constant (.bool value) => some (real (.quotient (if value then 1 else 0) 1))
  | .constant (.number literal) => some (ofNumber literal)
  | .constant (.text value) => some (.text value)
  | .constant (.bytes value) => some (.bytes value)
  | .unary .minus operand => (ofExpr? operand).map negate
  | .binary .add left right => do join (← ofExpr? left) (← ofExpr? right)
  | .binary .subtract left right => do join (← ofExpr? left) (← ofExpr? right).negate
  | _ => none

end PatternKey

/-- Few items come before the first one that satisfies a test. -/
def fewBefore {α : Type} (test : α → Bool) (items : List α) : Bool :=
  (items.findIdx? test).all (· < 256)

/-- At most one item satisfies a test. -/
def atMostOne {α : Type} (test : α → Bool) (items : List α) : Bool :=
  (items.filter test).length ≤ 1

mutual

/-- The names that a pattern binds; of alternatives, those of the first. -/
def Pattern.boundNames : Pattern → List Name
  | .value _ | .singleton _ => []
  | .sequence items => patternsBoundNames items
  | .alternatives items =>
      match items with
      | [] => []
      | first :: _ => first.boundNames
  | .mapping _ patterns rest => patternsBoundNames patterns ++ rest.toList
  | .ofClass _ positional _ named => patternsBoundNames positional ++ patternsBoundNames named
  | .starred target | .capture target => target.toList
  | .bound pattern target => pattern.boundNames ++ [target]

/-- The names that several patterns bind. -/
def patternsBoundNames : List Pattern → List Name
  | [] => []
  | first :: rest => first.boundNames ++ patternsBoundNames rest

end

/-- No name occurs twice. -/
def areDistinct (names : List Name) : Bool := names.eraseDups.length == names.length

/-- Two lists hold the same names. -/
def sameNames (left right : List Name) : Bool :=
  left.length == right.length && left.all right.contains && right.all left.contains

/-- A pattern for the elements that its neighbours leave over. -/
def Pattern.isRest : Pattern → Bool
  | .starred _ => true
  | _ => false

/-- A pattern that binds what its neighbours leave over. -/
def Pattern.isNamedRest : Pattern → Bool
  | .starred (some _) => true
  | _ => false

/-- A value that a pattern may be compared with. -/
def mayCompare : Expr → Bool
  | .attribute _ _ => true
  | other => (PatternKey.ofExpr? other).isSome

mutual

/-- A pattern that can be matched, where it is known whether it may match anything. -/
def Pattern.isSound (mayMatchAll : Bool) : Pattern → Bool
  | .value expression => mayCompare expression
  | .singleton _ => true
  | .sequence items =>
      atMostOne Pattern.isRest items && fewBefore Pattern.isNamedRest items && areSound items
  | .mapping keys patterns _ =>
      keys.all mayCompare && (keys.filterMap PatternKey.ofExpr?).eraseDups.length ==
        (keys.filterMap PatternKey.ofExpr?).length && areSound patterns
  | .ofClass _ positional fields named =>
      fields.all mayBind && areDistinct fields && areSound positional && areSound named
  | .starred _ => true
  | .capture _ => mayMatchAll
  | .bound pattern _ => pattern.isSound mayMatchAll
  | .alternatives items => alternativesAreSound mayMatchAll items &&
      match items with
      | [] => true
      | first :: rest => rest.all fun other => sameNames first.boundNames other.boundNames

/-- Patterns inside another one that can be matched. -/
def areSound : List Pattern → Bool
  | [] => true
  | first :: rest => first.isSound true && areSound rest

/-- Alternatives of which only the last may match anything. -/
def alternativesAreSound (mayMatchAll : Bool) : List Pattern → Bool
  | [] => true
  | first :: rest =>
      first.isSound (mayMatchAll && rest.isEmpty) && areDistinct first.boundNames &&
        alternativesAreSound mayMatchAll rest

end

/-- The pattern of a case that can be matched and binds each name once. -/
def Pattern.isPlaced (pattern : Pattern) (mayMatchAll : Bool) : Bool :=
  pattern.isSound mayMatchAll && areDistinct pattern.boundNames &&
    pattern.boundNames.all mayBind

end Stencil.Script
