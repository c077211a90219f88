import Stencil.Template.Token
import Stencil.Text.Lines
import Stencil.Text.Normal

/-! # Faults of a template

A fault says what is wrong with a template and, as far as it is known, where:
the template's name, the number of the line, the column and the text. When the
line is part of the text the report quotes it behind a gutter, with a caret
under the column. The report comes in a long and in a compact form.
-/

namespace Stencil

/-- The code under which a fault can be looked up. -/
inductive FaultCode where
  /-- An opening marker without a closing marker behind it. -/
  | unterminatedDirective
  deriving DecidableEq, Repr

/-- A code as it is written. -/
def FaultCode.value : FaultCode → Text
  | .unterminatedDirective => text "M-LEX-001"

/-- The part of the template compiler that a code belongs to. -/
def FaultCode.category : FaultCode → Text
  | .unterminatedDirective => text "lexer"

/-- A place in the text of a template, with as much of it as is known. -/
structure FaultPlace where
  /-- The number of the line, counted from one. -/
  line : Option Int
  name : Option Text
  source : Option Text
  /-- The column in the line, counted from zero. -/
  column : Option Int
  deriving DecidableEq, Repr

namespace FaultPlace

/-- The line number, if there is one and it is not zero. -/
def knownLine (place : FaultPlace) : Option Int := place.line.filter (· ≠ 0)

/-- The name of a template, line and column, as far as they are known. -/
def location (place : FaultPlace) : Text :=
  let name :=
    match place.name with
    | some (first :: rest) => first :: rest
    | _ => text "<template>"
  match place.knownLine, place.column with
  | none, _ => name
  | some line, none => name ++ text ":" ++ intText line
  | some line, some column => name ++ text ":" ++ intText line ++ text ":" ++ intText column

/-- The quoted line, if it is a line of the text. -/
def quotedLine (place : FaultPlace) : Option (Int × Text) := do
  let line ← place.knownLine
  let source ← place.source
  if line < 0 then none
  else return (line, ← (Text.splitLines source)[line.toNat - 1]?)

/-- A number at the right end of three columns, or of more when it is longer. -/
def lineNumber (line : Int) : Text :=
  let digits := intText line
  Text.spaces (3 - digits.length) ++ digits

/-- The quoted line behind its gutter, and the caret under the column. -/
def snippet (place : FaultPlace) : List Text :=
  match place.quotedLine with
  | none => []
  | some (line, content) =>
      let quoted := [text "   |", lineNumber line ++ text " | " ++ content]
      match place.column with
      | none => quoted
      | some column => quoted ++ [text "   | " ++ Text.spaces column.toNat ++ text "^"]

end FaultPlace

/-- What is wrong with a template. -/
inductive TemplateFault where
  | general (code : Option FaultCode) (message : Text)
  | syntactic (code : Option FaultCode) (message : Text) (place : FaultPlace)
  deriving DecidableEq, Repr

namespace TemplateFault

/-- The code of a fault, if it has one. -/
def code : TemplateFault → Option FaultCode
  | .general code _ => code
  | .syntactic code _ _ => code

/-- The long form of the report. -/
def message : TemplateFault → Text
  | .general _ message => message
  | .syntactic _ message place =>
      Text.join [CodePoint.lineFeed]
        ([text "Syntax Error: " ++ message, text "  --> " ++ place.location] ++ place.snippet)

/-- The compact form of the report, which begins with the code. -/
def compact : TemplateFault → Text
  | .general none message => message
  | .general (some code) message =>
      if code.value.occursIn message then message else code.value ++ text ": " ++ message
  | .syntactic code message place =>
      let header :=
        match code with
        | none => message
        | some code => code.value ++ text ": " ++ message
      let quoted :=
        match place.snippet with
        | [] => []
        | lines => lines ++ [text "   |"]
      Text.join [CodePoint.lineFeed] ([header, text "  --> " ++ place.location] ++ quoted)

end TemplateFault

/-- A directive that is never closed. -/
structure Unterminated where
  expected : Text
  /-- The place of the opening marker in the text of the template. -/
  place : FaultPlace
  deriving DecidableEq, Repr

namespace Unterminated

/-- What is missing. -/
def summary (fault : Unterminated) : Text :=
  text "unterminated directive, expected " ++ fault.expected.quoted

/-- The fault as it is reported. -/
def toFault (fault : Unterminated) : TemplateFault :=
  .syntactic (some .unterminatedDirective) fault.summary fault.place

/-- The fault at an offset of the normal form. Line and column are those of the
text that the part before the offset stands for; only line feeds end a line. -/
def ofOffset (markers : Markers) (name : Option Text) (normal : Text) (offset : Nat) :
    Unterminated :=
  let before := Text.restore (normal.take offset)
  let lastLine := (before.reverse.takeWhile (· ≠ CodePoint.lineFeed)).length
  { expected := markers.closing
    place :=
      { line := some (before.count CodePoint.lineFeed + 1)
        name := name
        source := some (Text.restore normal)
        column := some lastLine } }

end Unterminated

/-- The tokens of a text in normal form, or the directive that is never closed. -/
def tokenize (markers : Markers) (name : Option Text) (normal : Text) :
    Except Unterminated (List Token) :=
  (Token.scan markers normal).mapError (Unterminated.ofOffset markers name normal)

end Stencil
