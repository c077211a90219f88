import Stencil.Script.Literal.Escape
import Stencil.Script.Syntax

/-! # Strings with expressions in them

In a format string braces hold an expression, perhaps with a conversion and a
format, and doubled braces stand for single ones. Here the string is cut into
text and fields; the expressions stay text. A format may hold fields of its own,
but not deeper.
-/

namespace Stencil.Script

/-- A part of a format string whose expressions have not been read. -/
inductive RawPiece where
  | literal (value : Text)
  | field (source : Text) (conversion : Conversion) (format : List RawPiece)

/-- The opening brace. -/
@[match_pattern] abbrev openBrace : CodePoint := 123

/-- The closing brace. -/
@[match_pattern] abbrev closeBrace : CodePoint := 125

/-- What a brace means for the text before it: at the top a doubled brace is a
single one and the text goes on behind it, and a closing brace must be doubled. -/
def meetBrace (level : Nat) (brace : CodePoint) (rest : Text) : Option (Text × Bool × Text) :=
  if level = 0 then
    if rest.head? = some brace then some ([brace], true, rest.drop 1)
    else if brace = closeBrace then none
    else some ([], false, brace :: rest)
  else some ([], false, brace :: rest)

/-- A code point that is a brace. -/
def isBrace (point : CodePoint) : Bool := point == openBrace || point == closeBrace

/-- The text up to the next field or to the end: the text itself, whether more
text follows a doubled brace, and the rest. Braces of a named escape are text. -/
def literalRun (isRaw : Bool) (level : Nat) (inName : Bool) :
    Text → Option (Text × Bool × Text)
  | [] => some ([], false, [])
  | point :: rest =>
      let keep (taken : Text) (found : Text × Bool × Text) : Text × Bool × Text :=
        (taken ++ found.1, found.2)
      if inName then
        (literalRun isRaw level (point ≠ closeBrace) rest).map (keep [point])
      else if point = CodePoint.backslash && !isRaw then
        match rest with
        | [] => some ([point], false, [])
        | letter :: after =>
            if isBrace letter then (meetBrace level letter after).map (keep [point])
            else
              let opensName := letter = 78 && after.head? = some openBrace
              (literalRun isRaw level opensName after).map (keep [point, letter])
      else if isBrace point then meetBrace level point rest
      else (literalRun isRaw level false rest).map (keep [point])

/-- The closing bracket that belongs to an opening one. -/
def closingBracket? (point : CodePoint) : Option CodePoint :=
  [(40, 41), (91, 93), (123, 125)].lookup point

/-- A code point that can end an expression in braces. -/
def isFieldMark (point : CodePoint) : Bool :=
  point == 33 || point == 58 || point == closeBrace || point == 61 || point == 60 || point == 62

/-- How far the expression of a field has been read. -/
structure FieldState where
  /-- The quotation mark of an open string, and whether it stands three times. -/
  quotation : Option (CodePoint × Bool)
  /-- The closing brackets that are awaited, innermost first. -/
  awaited : List CodePoint
  /-- The number of code points that belong to the one before them. -/
  pending : Nat

/-- What a code point does to the expression of a field. -/
inductive FieldStep where
  | take (state : FieldState)
  | stop
  | refuse

/-- The next step of reading a field's expression. A mark inside quotation marks or
brackets ends nothing, nor does the first half of a relation. -/
def FieldState.step (state : FieldState) (point : CodePoint) (rest : Text) : FieldStep :=
  let doubled := rest.take 2 = [point, point]
  if point = CodePoint.backslash then .refuse
  else if 0 < state.pending then .take { state with pending := state.pending - 1 }
  else
    match state.quotation with
    | some (mark, isLong) =>
        if point ≠ mark || (isLong && !doubled) then .take state
        else .take ⟨none, state.awaited, if isLong then 2 else 0⟩
    | none =>
        if point = CodePoint.apostrophe || point = CodePoint.doubleQuote then
          .take ⟨some (point, doubled), state.awaited, if doubled then 2 else 0⟩
        else
          match closingBracket? point with
          | some closing =>
              if state.awaited.length < 200 then
                .take { state with awaited := closing :: state.awaited }
              else .refuse
          | none =>
              if point = CodePoint.hash then .refuse
              else if state.awaited.isEmpty && isFieldMark point then
                if rest.head? = some 61 && point ≠ 58 && point ≠ closeBrace then
                  .take { state with pending := 1 }
                else if point = 60 || point = 62 then .take state
                else .stop
              else if point = 41 || point = 93 || point = closeBrace then
                match state.awaited with
                | [] => .refuse
                | expected :: outer =>
                    if expected = point then .take { state with awaited := outer } else .refuse
              else .take state

/-- The expression of a field, and the rest from the mark that ends it. -/
def fieldSource (state : FieldState) : Text → Option (Text × Text)
  | [] => none
  | point :: rest =>
      match state.step point rest with
      | .refuse => none
      | .stop => some ([], point :: rest)
      | .take next =>
          (fieldSource next rest).map fun found => (point :: found.1, found.2)

/-- A code point that is passed over behind the equality sign of a field. -/
def isFieldBlank (point : CodePoint) : Bool :=
  point == CodePoint.space || (9 ≤ point && point ≤ 13)

/-- The conversion that a letter asks for. -/
def conversionOf? (letter : CodePoint) : Option Conversion :=
  [(115, Conversion.display), (114, Conversion.quoted), (97, Conversion.ascii)].lookup letter

/-- An expression of blanks only is no expression. -/
def isEmptySource (source : Text) : Bool :=
  source.all fun point =>
    point == CodePoint.space || point == CodePoint.tab || point == CodePoint.lineFeed ||
      point == CodePoint.formFeed

/-- Text as a piece, unless it is empty. -/
def literalPiece (value : Text) : List RawPiece := if value.isEmpty then [] else [.literal value]

/-- The text that an equality sign behind an expression asks for: the expression with the
sign and the blanks behind it. -/
def fieldEcho (source : Text) : Text → Option Text × Text
  | 61 :: after =>
      let blanks := after.takeWhile isFieldBlank
      (some (source ++ 61 :: blanks), after.drop blanks.length)
  | rest => (none, rest)

/-- The conversion of a field, if one is asked for. -/
def fieldConversion : Text → Option (Option Conversion × Text)
  | 33 :: letter :: after => (conversionOf? letter).map fun found => (some found, after)
  | 33 :: [] => none
  | rest => some (none, rest)

/-- The format of a field, if it has one, given how formats are cut into pieces. -/
def fieldFormat (cut : Text → Option (List RawPiece × Text)) :
    Text → Option (Option (List RawPiece) × Text)
  | 58 :: [] => none
  | 58 :: after => (cut after).map fun (found, rest) => (some found, rest)
  | rest => some (none, rest)

/-- A field behind its opening brace, up to its closing one: its text when it shows itself, and
the field, given how formats are cut into pieces. -/
def rawField (cut : Text → Option (List RawPiece × Text)) (after : Text) :
    Option (List RawPiece × Text) := do
  let (source, rest) ← fieldSource ⟨none, [], 0⟩ after
  if isEmptySource source then none else
    let (echo, rest) := fieldEcho source rest
    let (conversion, rest) ← fieldConversion rest
    let (format, rest) ← fieldFormat cut rest
    match rest with
    | closeBrace :: rest =>
        let usual :=
          if echo.isSome && format.isNone then Conversion.quoted else Conversion.plain
        some (literalPiece (echo.getD []) ++
          [.field source (conversion.getD usual) (format.getD [])], rest)
    | _ => none

/-- The pieces of a format string from here to its end, or to the closing brace of
the field whose format it is, and the rest. -/
def rawPieces (isRaw : Bool) : (fuel level : Nat) → Text → Option (List RawPiece × Text)
  | 0, _, _ => none
  | fuel + 1, level, whole => do
      let (written, goesOn, rest) ← literalRun isRaw level false whole
      let before := literalPiece (← decodeText isRaw written)
      if goesOn then
        let (later, rest) ← rawPieces isRaw fuel level rest
        return (before ++ later, rest)
      else
        match rest with
        | openBrace :: after =>
            if 2 ≤ level then none else
              let (field, rest) ← rawField (rawPieces isRaw fuel (level + 1)) after
              let (later, rest) ← rawPieces isRaw fuel level rest
              return (before ++ field ++ later, rest)
        | _ => return (before, rest)

/-- The pieces of the body of a format string. -/
def formatPieces (isRaw : Bool) (body : Text) : Option (List RawPiece) := do
  let (pieces, rest) ← rawPieces isRaw (body.length + 1) 0 body
  if rest.isEmpty then return pieces else none

end Stencil.Script
