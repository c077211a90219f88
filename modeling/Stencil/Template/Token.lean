import Stencil.Template.Markers
import Stencil.Text.Blank
import Stencil.Text.Quoted

/-! # Tokens of a template

A template is a sequence of literal text, statements and output expressions. A token keeps the offset
in the normal form at which it starts; a directive starts at its opening marker.

A template is scanned from left to right. At every step the rest of the text begins either with the
opening marker or with literal text. A directive ends at the first closing marker at or after its own
start, so markers that share code points may overlap. Literal text runs up to the next opening
marker. Each step consumes at least one code point (`Stencil.Text.length_splitAt?_lt`), and therefore
scanning ends.
-/

namespace Stencil

/-- What a token asks of the rendering. -/
inductive TokenKind where
  | literal
  | control
  | expression
  deriving DecidableEq, Repr

/-- The name of a kind in capitals. -/
def TokenKind.label : TokenKind → Text
  | .literal => text "LITERAL"
  | .control => text "CONTROL_FLOW"
  | .expression => text "EXPRESSION"

/-- The name of a kind in small letters. -/
def TokenKind.value : TokenKind → Text
  | .literal => text "literal"
  | .control => text "control_flow"
  | .expression => text "expression"

/-- A part of a template with the place where it starts. -/
structure Token where
  kind : TokenKind
  /-- Literal text, or the text of a directive, in normal form. -/
  content : Text
  offset : Nat
  deriving DecidableEq, Repr

/-- A token as it is shown, without its offset. -/
def Token.display (token : Token) : Text :=
  text "Token(" ++ token.kind.label ++ text ", " ++ token.content.quoted ++ text ")"

namespace Token

/-- Literal text at an offset. -/
def literalAt (offset : Nat) (content : Text) : Token := ⟨.literal, content, offset⟩

/-- The directive of a body: an expression when the body begins with the descriptor. -/
def directiveAt (markers : Markers) (offset : Nat) (body : Text) : Token :=
  if markers.descriptor.isPrefixOf body then
    ⟨.expression, Text.strip (body.drop markers.descriptor.length), offset⟩
  else
    ⟨.control, body, offset⟩

/-- The tokens of the rest of a text that begins at an offset; the error is the
offset of an opening marker that no closing marker follows. -/
def scanFrom (markers : Markers) (offset : Nat) (rest : Text) : Except Nat (List Token) :=
  if rest = [] then .ok []
  else if _starts : markers.opening.isPrefixOf rest then
    match _found : Text.splitAt? markers.closing rest with
    | none => .error offset
    | some (span, after) => do
        let body := span.drop markers.opening.length
        let tokens ← scanFrom markers (offset + span.length + markers.closing.length) after
        return directiveAt markers offset body :: tokens
  else
    match _found : Text.splitAt? markers.opening rest with
    | none => .ok [literalAt offset rest]
    | some (run, after) => do
        let tokens ← scanFrom markers (offset + run.length) (markers.opening ++ after)
        return literalAt offset run :: tokens
termination_by rest.length
decreasing_by
  · exact Text.length_splitAt?_lt markers.closing_ok.1 _found
  · have nonempty := List.length_pos_iff.mpr
      (Text.before_ne_nil_of_splitAt? (Bool.eq_false_iff.mpr _starts) _found)
    conv => rhs; rw [Text.eq_of_splitAt? _found]
    simp only [List.length_append]
    omega

/-- The tokens of a text; the error is the offset of a directive that never ends. -/
def scan (markers : Markers) (whole : Text) : Except Nat (List Token) := scanFrom markers 0 whole

end Token

end Stencil
