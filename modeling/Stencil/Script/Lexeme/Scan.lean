import Stencil.Script.Lexeme.Layout
import Stencil.Script.Lexeme.Number
import Stencil.Text.Identifier

/-! # Reading lexemes

A program is read from its start to its end, one lexeme at a time
(`Stencil.Script.readLexeme`). Inside brackets line ends are blanks; outside
they end the logical line, and the next line may change the indentation. Lines
without a lexeme leave no trace.
-/

namespace Stencil.Script

/-- The kind of string that letters before a quotation mark announce. -/
def stringPrefix? (letters : Text) : Option StringLiteral :=
  let small := letters.map fun point => if point.isCapitalLetter then point + 32 else point
  let plain : StringLiteral := ⟨false, false, false, []⟩
  if small = [] || small = text "u" then some plain
  else if small = text "r" then some { plain with isRaw := true }
  else if small = text "b" then some { plain with isBytes := true }
  else if small = text "f" then some { plain with isFormat := true }
  else if small = text "br" || small = text "rb" then
    some { plain with isBytes := true, isRaw := true }
  else if small = text "fr" || small = text "rf" then
    some { plain with isFormat := true, isRaw := true }
  else none

/-- The length of a string's body up to its closing mark: one quotation mark, or
three. A backslash takes the next code point with it; a line end closes nothing
and is allowed between three marks only. -/
def bodyLength (mark : CodePoint) (isLong : Bool) : Text → Option Nat
  | [] => none
  | [point] => if point = mark && !isLong then some 0 else none
  | point :: next :: rest =>
      if point = CodePoint.backslash then (bodyLength mark isLong rest).map (· + 2)
      else if point = mark && (!isLong || (next = mark && rest.head? = some mark)) then some 0
      else if point = CodePoint.lineFeed && !isLong then none
      else (bodyLength mark isLong (next :: rest)).map (· + 1)

/-- A code point that quotes strings. -/
def isQuotationMark (point : CodePoint) : Bool :=
  point == CodePoint.apostrophe || point == CodePoint.doubleQuote

/-- The string that begins a text behind a given number of letters, with the count
of its code points. -/
def readString (letters : Nat) (whole : Text) : Option (Lexeme × Nat) := do
  let kind ← stringPrefix? (whole.take letters)
  match whole.drop letters with
  | [] => none
  | mark :: after =>
      if [mark, mark].isPrefixOf after then
        let length ← bodyLength mark true (after.drop 2)
        return (.string { kind with body := (after.drop 2).take length }, letters + length + 6)
      else
        let length ← bodyLength mark false after
        return (.string { kind with body := after.take length }, letters + length + 2)

/-- A word: a name or a keyword, with the count of its code points. -/
def readWord (whole : Text) : Option (Lexeme × Nat) :=
  let word := whole.takeWhile couldContinueWord
  if Text.isIdentifier word then
    match Keyword.ofText? word with
    | some keyword => some (.keyword keyword, word.length)
    | none => some (.name word, word.length)
  else none

/-- The number of letters before a quotation mark, when they announce a string. -/
def stringLetters? (whole : Text) : Option Nat :=
  [0, 1, 2].find? fun letters =>
    ((whole.drop letters).head?.any isQuotationMark) &&
      (stringPrefix? (whole.take letters)).isSome

/-- The lexeme that a text begins with, and the count of its code points. -/
def readLexeme (whole : Text) : Option (Lexeme × Nat) :=
  match stringLetters? whole with
  | some letters => readString letters whole
  | none =>
      match whole with
      | [] => none
      | first :: rest =>
          if first.isDigit || (first = 46 && rest.head?.any CodePoint.isDigit) then
            (readNumber whole).map fun (number, length) => (.number number, length)
          else if couldContinueWord first then readWord whole
          else (Symbol.atStart? whole).map fun (symbol, length) => (.symbol symbol, length)

/-- The greatest number of brackets that may be open at once. -/
def bracketLimit : Nat := 200

/-- The brackets that are open after a lexeme; `none` when it closes a bracket
that is not the innermost open one. -/
def trackBrackets (awaited : List Symbol) : Lexeme → Option (List Symbol)
  | .symbol symbol =>
      match symbol.closing? with
      | some closing => if awaited.length < bracketLimit then some (closing :: awaited) else none
      | none =>
          if symbol.closes then
            match awaited with
            | expected :: outer => if expected = symbol then some outer else none
            | [] => none
          else some awaited
  | _ => some awaited

/-- A blank inside a line. -/
def isInnerBlank (point : CodePoint) : Bool :=
  point == CodePoint.space || point == CodePoint.tab || point == CodePoint.formFeed

/-- What comes next in a program: a change of the layout with lexemes, and the
number of code points that it takes, less one. -/
structure LexemeStep where
  lexemes : List Lexeme
  /-- The open blocks, innermost first. -/
  blocks : List Column
  /-- The closing brackets that are awaited, innermost first. -/
  awaited : List Symbol
  atLineStart : Bool
  /-- The number of code points taken beyond the first. -/
  extra : Nat

/-- The next step inside a line that is not at its end. -/
def stepInLine (blocks : List Column) (awaited : List Symbol) (first : CodePoint) (rest : Text) :
    Option LexemeStep :=
  if isInnerBlank first then some ⟨[], blocks, awaited, false, 0⟩
  else if first = CodePoint.hash then
    some ⟨[], blocks, awaited, false, (rest.takeWhile (· ≠ CodePoint.lineFeed)).length⟩
  else if first = CodePoint.lineFeed then
    if awaited.isEmpty then some ⟨[.lineEnd], blocks, awaited, true, 0⟩
    else some ⟨[], blocks, awaited, false, 0⟩
  else if first = CodePoint.backslash then
    match rest with
    | CodePoint.lineFeed :: _ :: _ => some ⟨[], blocks, awaited, false, 1⟩
    | _ => none
  else do
    let (lexeme, length) ← readLexeme (first :: rest)
    let awaited ← trackBrackets awaited lexeme
    return ⟨[lexeme], blocks, awaited, false, length - 1⟩

/-- The next step at the start of a line: a line without a lexeme is passed over,
any other line settles the indentation and gives its first lexeme. -/
def stepAtLineStart (blocks : List Column) (first : CodePoint) (rest : Text) :
    Option LexemeStep := do
  let margin ← Margin.start.measureFrom (first :: rest)
  match (first :: rest).drop margin.length with
  | [] => return ⟨[], blocks, [], true, margin.length - 1⟩
  | point :: after =>
      if point = CodePoint.hash then
        let comment := after.takeWhile (· ≠ CodePoint.lineFeed)
        return ⟨[], blocks, [], true, margin.length + comment.length + 1⟩
      else if point = CodePoint.lineFeed then
        return ⟨[], blocks, [], true, margin.length⟩
      else
        let (changes, blocks) ← changeBlocks margin.effective blocks
        let step ← stepInLine blocks [] point after
        return { step with
          lexemes := changes ++ step.lexemes
          extra := margin.length + step.extra }

/-- The lexemes of the rest of a program, given the open blocks and brackets. -/
def lexemesFrom (blocks : List Column) (awaited : List Symbol) (atLineStart : Bool)
    (rest : Text) : Option (List Lexeme) :=
  match rest with
  | [] =>
      if awaited.isEmpty then some (List.replicate (blocks.length - 1) .dedent) else none
  | first :: after => do
      let step ←
        if atLineStart then stepAtLineStart blocks first after
        else stepInLine blocks awaited first after
      let later ← lexemesFrom step.blocks step.awaited step.atLineStart (after.drop step.extra)
      return step.lexemes ++ later
termination_by rest.length
decreasing_by
  simp only [List.length_drop, List.length_cons]
  omega

/-- A program whose line ends are all line feeds, with one at its end. -/
def unifyLineEnds : Text → Text
  | [] => [CodePoint.lineFeed]
  | [point] =>
      if point = CodePoint.carriageReturn || point = CodePoint.lineFeed then [CodePoint.lineFeed]
      else [point, CodePoint.lineFeed]
  | point :: next :: rest =>
      if point = CodePoint.carriageReturn then
        if next = CodePoint.lineFeed then unifyLineEnds (next :: rest)
        else CodePoint.lineFeed :: unifyLineEnds (next :: rest)
      else point :: unifyLineEnds (next :: rest)

/-- The lexemes of a program; `none` when it does not fall into lexemes. -/
def lexemes (program : Text) : Option (List Lexeme) :=
  lexemesFrom [Column.zero] [] true (unifyLineEnds program)

end Stencil.Script
