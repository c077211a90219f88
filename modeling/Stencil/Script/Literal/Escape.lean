import Stencil.Script.Lexeme
import Stencil.Text.CharacterName

/-! # Escapes in strings

Between quotation marks a backslash with a letter, with octal or hexadecimal
digits or with a name in braces stands for one code point, and a backslash at
the end of a line for nothing. A backslash before anything else stands for
itself. The body of a string is read one code point at a time, so what is read
depends only on the state (`Stencil.Script.EscapeState`) and on what follows.
-/

namespace Stencil.Script

/-- How far an escape has been read. -/
inductive EscapeState where
  | plain
  | opened
  /-- Octal digits were read; so many more may follow. -/
  | octal (left value : Nat)
  | hex (left value : Nat)
  | nameStart
  /-- A part of a name was read, last letter first. -/
  | named (reversed : Text)

/-- What a string holds: text, or bytes, which know fewer escapes. -/
inductive StringContent where
  | text | bytes
  deriving DecidableEq, Repr

/-- The code point that a single letter stands for behind a backslash. -/
def letterEscape? (letter : CodePoint) : Option CodePoint :=
  [(92, 92), (39, 39), (34, 34), (97, 7), (98, 8), (102, 12), (110, 10), (114, 13), (116, 9),
    (118, 11)].lookup letter

/-- The greatest code point. -/
def lastCodePoint : CodePoint := 0x10FFFF

/-- The code points that the rest of a string body stands for, given how far an
escape has been read; `none` when an escape is incomplete or asks for nothing. -/
def decodeFrom (content : StringContent) : EscapeState → Text → Option Text
  | .plain, [] => some []
  | .opened, [] => some [CodePoint.backslash]
  | .octal _ value, [] => some [value]
  | .hex _ _, [] => none
  | .nameStart, [] => none
  | .named _, [] => none
  | .plain, point :: rest =>
      if point = CodePoint.backslash then decodeFrom content .opened rest
      else (decodeFrom content .plain rest).map (point :: ·)
  | .opened, point :: rest =>
      match letterEscape? point with
      | some meant => (decodeFrom content .plain rest).map (meant :: ·)
      | none =>
          if point = CodePoint.lineFeed then decodeFrom content .plain rest
          else if 48 ≤ point && point < 56 then decodeFrom content (.octal 2 (point - 48)) rest
          else if point = 120 then decodeFrom content (.hex 2 0) rest
          else if point = 117 && content = .text then decodeFrom content (.hex 4 0) rest
          else if point = 85 && content = .text then decodeFrom content (.hex 8 0) rest
          else if point = 78 && content = .text then decodeFrom content .nameStart rest
          else (decodeFrom content .plain rest).map fun tail =>
            CodePoint.backslash :: point :: tail
  | .octal left value, point :: rest =>
      if 48 ≤ point && point < 56 && 0 < left then
        decodeFrom content (.octal (left - 1) (value * 8 + (point - 48))) rest
      else if point = CodePoint.backslash then
        (decodeFrom content .opened rest).map (value :: ·)
      else (decodeFrom content .plain rest).map fun tail => value :: point :: tail
  | .hex left value, point :: rest =>
      match point.digitValue?.filter (· < 16) with
      | none => none
      | some digit =>
          let extended := value * 16 + digit
          if 1 < left then decodeFrom content (.hex (left - 1) extended) rest
          else if lastCodePoint < extended then none
          else (decodeFrom content .plain rest).map (extended :: ·)
  | .nameStart, point :: rest =>
      if point = 123 then decodeFrom content (.named []) rest else none
  | .named reversed, point :: rest =>
      if point = 125 then do
        let meant ← CharacterName.point? reversed.reverse
        (decodeFrom content .plain rest).map (meant :: ·)
      else decodeFrom content (.named (point :: reversed)) rest

/-- The text that the body of a string stands for. -/
def decodeText (isRaw : Bool) (body : Text) : Option Text :=
  if isRaw then some body else decodeFrom .text .plain body

/-- The bytes that the body of a string stands for; only ASCII may be written. -/
def decodeBytes (isRaw : Bool) (body : Text) : Option (List Nat) :=
  if body.any (128 ≤ ·) then none
  else if isRaw then some body
  else (decodeFrom .bytes .plain body).map fun values => values.map (· % 256)

end Stencil.Script
