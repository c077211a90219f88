import Stencil.Number.Arithmetic
import Stencil.Number.Fixed
import Stencil.Run.Display
import Stencil.Text.Blank

/-! # Formats of values

A format says how a value fills a field: with what, on which side, with which sign,
how wide, how precise, and in which notation. Texts stand at the left of a field
and numbers at the right, unless the format says otherwise.
-/

namespace Stencil.Run

open CodePoint

/-- A format that has been read. -/
structure Format where
  fill : CodePoint
  /-- The side on which the value stands: `<`, `>`, `^`, or `=` for a sign at the left. -/
  align : Option CodePoint
  sign : Option CodePoint
  noNegativeZero : Bool
  /-- The notation shows its base or keeps its point. -/
  isAlternate : Bool
  isZeroPadded : Bool
  width : Nat
  grouping : Option CodePoint
  /-- The number of digits, or of code points of a text. -/
  precision : Option Nat
  style : Option CodePoint
  deriving DecidableEq, Repr

/-- A code point that a one-letter string writes. -/
def letter (written : String) : CodePoint := (text written).headD 0

/-- The sides of a field. -/
def isAlignment (point : CodePoint) : Bool := (text "<>^=").contains point

/-- A number at the start of a text, and what is behind it. -/
def takeNumber (rest : Text) : Option Nat × Text :=
  let digits := List.takeWhile isDigit rest
  if digits.isEmpty then (none, rest)
  else (natOfDigits? 10 digits, List.dropWhile isDigit rest)

/-- What is behind a code point, if a text begins with it. -/
def takePoint (wanted : CodePoint) : Text → Option Text
  | [] => none
  | point :: rest => if point = wanted then some rest else none

/-- A number in the digits of any script at the start of a text, and what is behind it. -/
def takeDecimal (rest : Text) : Except Complaint (Option Nat × Text) :=
  let digits := (List.takeWhile (fun point => point.decimalValue?.isSome) rest).filterMap
    CodePoint.decimalValue?
  let number := digits.foldl (fun (number : Nat) digit => 10 * number + digit) 0
  if digits.isEmpty then .ok (none, rest)
  else if twoTo 63 ≤ number then .error (.value "Too many decimal digits in format string")
  else .ok (some number, rest.drop digits.length)

/-- The fill and the side that a format begins with. -/
def takeAlignment : Text → Option CodePoint × Option CodePoint × Text
  | first :: second :: rest =>
      if isAlignment second then (some first, some second, rest)
      else if isAlignment first then (none, some first, second :: rest)
      else (none, none, first :: second :: rest)
  | [first] => if isAlignment first then (none, some first, []) else (none, none, [first])
  | [] => (none, none, [])

/-- A code point in a complaint about a notation. -/
def shownNotation (point : CodePoint) : Text :=
  if 32 < point && point < 128 then [point] else text "\\x" ++ natText 16 point

/-- The complaint about a notation that a kind of values does not have. -/
def unknownNotation (point : CodePoint) (kind : Kind) : Complaint :=
  ⟨.valueError, text "Unknown format code '" ++ shownNotation point ++
    text "' for object of type '" ++ kind.name ++ text "'"⟩

/-- What stands between groups of digits, at the start of a text, and what is behind it. -/
def takeGrouping (rest : Text) : Except Complaint (Option CodePoint × Text) :=
  let both : Complaint := .value "Cannot specify both ',' and '_'."
  match rest with
  | [] => .ok (none, [])
  | point :: after =>
      if point = letter "," then
        if (takePoint (letter "_") after).isSome then .error both else .ok (some point, after)
      else if point = letter "_" then
        if (takePoint (letter ",") after).isSome then .error both else .ok (some point, after)
      else .ok (none, rest)

/-- Digits are grouped only in a notation that has groups: commas in decimal ones, underscores in
all. -/
def requireGrouping (grouping style : Option CodePoint) : Except Complaint Unit :=
  match grouping, style with
  | some separator, some point =>
      let allowed := if separator = letter "_" then text "defgEG%FboxX" else text "defgEG%F"
      if allowed.contains point then .ok ()
      else
        .error ⟨.valueError, text "Cannot specify '" ++ [separator] ++ text "' with '" ++
          shownNotation point ++ text "'."⟩
  | _, _ => .ok ()

/-- A format for values of some kind that stand on a side by themselves and have a notation of
their own. -/
def Format.read (kind : Kind) (usual : CodePoint) (usualStyle : Option CodePoint)
    (written : Text) : Except Complaint Format := do
  let (fill, align, rest) := takeAlignment written
  let (sign, rest) :=
    match rest with
    | point :: after =>
        if (text "+- ").contains point then (some point, after) else (none, rest)
    | [] => (none, rest)
  let (noNegativeZero, rest) :=
    match takePoint (letter "z") rest with
    | some after => (true, after)
    | none => (false, rest)
  let (isAlternate, rest) :=
    match takePoint hash rest with
    | some after => (true, after)
    | none => (false, rest)
  let (isZeroPadded, rest) :=
    match fill, takePoint (letter "0") rest with
    | none, some after => (true, after)
    | _, _ => (false, rest)
  let (width, rest) ← takeDecimal rest
  let (grouping, rest) ← takeGrouping rest
  let (precision, rest) ←
    match takePoint (letter ".") rest with
    | none => pure (none, rest)
    | some after =>
        match ← takeDecimal after with
        | (none, _) => throw (.value "Format specifier missing precision")
        | (found, after) => pure (found, after)
  let style ←
    match rest with
    | [] => pure usualStyle
    | [point] => pure (some point)
    | _ =>
        throw ⟨.valueError, text "Invalid format specifier '" ++ written ++
          text "' for object of type '" ++ kind.name ++ text "'"⟩
  requireGrouping grouping style
  if roomLimit < width.getD 0 then throw ⟨.memoryError, []⟩
  return {
    fill := fill.getD (if isZeroPadded then letter "0" else space)
    align :=
      align.or (if isZeroPadded && usual = letter ">" then some (letter "=") else none)
    sign := sign
    noNegativeZero := noNegativeZero
    isAlternate := isAlternate
    isZeroPadded := isZeroPadded
    width := width.getD 0
    grouping := grouping
    precision := precision
    style := style }

/-- A text in a field. -/
def pad (fill align : CodePoint) (width : Nat) (content : Text) : Text :=
  let missing := width - content.length
  let left :=
    if align = letter ">" then missing else if align = letter "^" then missing / 2 else 0
  List.replicate left fill ++ content ++ List.replicate (missing - left) fill

/-- Digits in groups from the right. -/
def groupDigits (size : Nat) (separator : CodePoint) (digits : Text) : Text :=
  let rec go : Nat → Text → Text
    | _, [] => []
    | count, digit :: rest =>
        let after := go (count + 1) rest
        if count ≠ 0 && count % size = 0 then separator :: digit :: after else digit :: after
  (go 0 digits.reverse).reverse

/-- Whole digits with their grouping, filled up with zeros to a width. -/
def groupedTo (format : Format) (size : Nat) (width : Nat) (digits : Text) : Text :=
  match format.grouping with
  | none => List.replicate (width - digits.length) 48 ++ digits
  | some separator =>
      let candidates := (List.range (width + 1 - digits.length)).map fun extra =>
        groupDigits size separator (List.replicate extra 48 ++ digits)
      (candidates.find? fun found => width ≤ found.length).getD
        (groupDigits size separator digits)

/-- A number in its field: the sign, the mark of its base, its whole digits, and the rest. -/
def placeNumber (format : Format) (size : Nat) (isNegative : Bool) (mark whole rest : Text) :
    Text :=
  let sign :=
    if isNegative then text "-"
    else
      match format.sign with
      | some point => if point = letter "-" then [] else [point]
      | none => []
  let align := format.align.getD (letter ">")
  let fixed := sign.length + mark.length + rest.length
  let zeros := format.fill = letter "0" && align = letter "="
  let whole := groupedTo format size (if zeros then format.width - fixed else 0) whole
  if align = letter "=" then
    sign ++ mark ++
      List.replicate (format.width - (fixed + whole.length)) format.fill ++ whole ++ rest
  else pad format.fill align format.width (sign ++ mark ++ whole ++ rest)

/-- A text in the field of a format. -/
def formatString (written value : Text) : Except Complaint Text := do
  let format ← Format.read .string (letter "<") (some (letter "s")) written
  match format.style with
  | some point =>
      if point ≠ letter "s" then throw (unknownNotation point .string)
  | none => pure ()
  match format.sign with
  | some point =>
      let word := if point = space then "Space" else "Sign"
      throw (.value (word ++ " not allowed in string format specifier"))
  | none => pure ()
  if format.noNegativeZero then
    throw (.value "Negative zero coercion (z) not allowed in string format specifier")
  if format.isAlternate then
    throw (.value "Alternate form (#) not allowed in string format specifier")
  if format.align = some (letter "=") then
    throw (.value "'=' alignment not allowed in string format specifier")
  let shown := (format.precision.map fun count => value.take count).getD value
  return pad format.fill (format.align.getD (letter "<")) format.width shown

/-- The letters of a text as capitals; other code points stay. -/
def capitalLetters (whole : Text) : Text :=
  whole.map fun point => if point.isSmallLetter then point - 32 else point

/-- The text of a floating-point number without its sign, its whole digits apart. -/
def floatPieces (format : Format) (point : Option CodePoint) (value : Float) : Text × Text :=
  match FloatParts.ofFloat value with
  | .notNumber => (text "nan", [])
  | .infinite _ => (text "inf", [])
  | .finite parts =>
      let places := format.precision.getD 6
      let parts := { parts with isNegative := false }
      let shown :=
        if point = some (letter "f") then parts.fixedText places format.isAlternate
        else if point = some (letter "e") then parts.exponentialText places format.isAlternate
        else if point = some (letter "g") then
          parts.generalText places format.isAlternate false
        else
          match format.precision with
          | some precision => parts.generalText precision format.isAlternate true
          | none =>
              let decimal := outputLayout.decimalText parts.shortest
              if parts.mantissa = 0 then text "0.0"
              else if format.isAlternate && !List.contains decimal (letter ".") then
                decimal.take 1 ++ text "." ++ decimal.drop 1
              else decimal
      (List.takeWhile isDigit shown, List.dropWhile isDigit shown)

/-- A floating-point number in the field of a format. -/
def formatFloatWith (kind : Kind) (format : Format) (value : Float) : Except Complaint Text := do
  let point := format.style
  if point.any fun point => !(text "eEfFgGn%").contains point then
    throw (unknownNotation (point.getD 0) kind)
  if twoTo 31 ≤ format.precision.getD 0 then throw (.value "precision too big")
  let isPercent := point = some (letter "%")
  let isCapital := point.any isCapitalLetter
  let plain := point.map fun point =>
    if isPercent then letter "f"
    else if point = letter "n" then letter "g"
    else if isCapital then point + 32 else point
  let value := if isPercent then value * 100 else value
  let (whole, rest) := floatPieces format plain value
  let rest := if isPercent then rest ++ text "%" else rest
  let isZero := (whole ++ rest).all fun point => !isDigit point || point = 48
  let negative := twoTo 63 ≤ value.toBits.toNat && !value.isNaN
  let isNegative := negative && !(format.noNegativeZero && isZero && !whole.isEmpty)
  let capital (shown : Text) : Text := if isCapital then capitalLetters shown else shown
  if whole.all isDigit then
    return placeNumber format 3 isNegative [] (capital whole) (capital rest)
  else
    let shown := capital (whole ++ rest)
    return placeNumber { format with grouping := none } 3 isNegative [] [] shown

/-- A whole number in the field of a format. -/
def formatInt (kind : Kind) (written : Text) (value : Int) : Except Complaint Text := do
  let format ← Format.read kind (letter ">") (some (letter "d")) written
  let point := format.style.getD (letter "d")
  if (text "bcdoxXn").contains point then
    if format.precision.isSome then
      throw (.value "Precision not allowed in integer format specifier")
    if format.noNegativeZero then
      throw ⟨.valueError, text "Negative zero coercion (z) not allowed in format specifier" ++
        text " with integer presentation type"⟩
    if point = letter "c" then
      if format.sign.isSome then
        throw (.value "Sign not allowed with integer format specifier 'c'")
      if format.isAlternate then
        throw (.value "Alternate form (#) not allowed with integer format specifier 'c'")
      if !fitsPlace value then throw (.overflow "Python int too large to convert to C long")
      if value < 0 || 0x110000 ≤ value then throw (.overflow "%c arg not in range(0x110000)")
      return placeNumber { format with align := format.align.or (some (letter ">")) } 3 false []
        [] [value.toNat]
    let base :=
      if point = letter "b" then 2 else if point = letter "o" then 8
      else if point = letter "x" || point = letter "X" then 16 else 10
    let digits ← if base = 10 then displayInt value.natAbs else pure (natText base value.natAbs)
    let digits := if point = letter "X" then capitalLetters digits else digits
    let mark := if format.isAlternate && base ≠ 10 then [48, point] else []
    return placeNumber format (if base = 10 then 3 else 4) (value < 0) mark digits []
  else if (text "eEfFgG%").contains point then
    match floatOfInt? value with
    | none => throw (.overflow "int too large to convert to float")
    | some value => formatFloatWith kind format value
  else throw (unknownNotation point kind)

/-- A floating-point number in the field of a written format. -/
def formatFloat (written : Text) (value : Float) : Except Complaint Text := do
  formatFloatWith .float (← Format.read .float (letter ">") none written) value

/-- A value in the field of a format. -/
def formatValue (value : Value) (written : Text) : Action Text := do
  if written.isEmpty then textOf value
  else
    match value with
    | .string value => settle (formatString written value)
    | .int value => settle (formatInt .int written value)
    | .bool value => settle (formatInt .bool written (if value then 1 else 0))
    | .float value => settle (formatFloat written value)
    | other => do
        complain ⟨.typeError, text "unsupported format string passed to " ++
          (← kindOf other).name ++ text ".__format__"⟩

end Stencil.Run
