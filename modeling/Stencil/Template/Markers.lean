import Stencil.Text.Quoted

/-! # Directive markers

A directive stands between an opening and a closing marker, and a descriptor
behind the opening marker turns it into an output expression. Every marker holds
at least one code point, and none that the normal form of template text
escapes. `Stencil.Markers` carries both facts, so scanning always advances.
-/

namespace Stencil

/-- The three texts that a template's author may choose. -/
inductive MarkerField where
  | opening
  | closing
  /-- The text that turns a directive into an expression. -/
  | descriptor
  deriving DecidableEq, Repr

/-- The name under which a marker is configured. -/
def MarkerField.name : MarkerField → Text
  | .opening => text "open_marker"
  | .closing => text "close_marker"
  | .descriptor => text "expression_descriptor"

/-- A code point that the normal form writes differently. -/
def CodePoint.isEscaped (point : CodePoint) : Bool :=
  point == CodePoint.backslash || point == CodePoint.carriageReturn || point == CodePoint.lineFeed

/-- A marker that can be found in template text. -/
def Text.IsMarker (marker : Text) : Prop :=
  marker ≠ [] ∧ marker.any CodePoint.isEscaped = false

instance (marker : Text) : Decidable marker.IsMarker :=
  inferInstanceAs (Decidable (_ ∧ _))

/-- Why a choice of markers is refused. -/
inductive MarkerFault where
  | empty (field : MarkerField)
  /-- A marker with a code point that the normal form escapes. -/
  | unmatchable (field : MarkerField) (value : Text)
  deriving DecidableEq, Repr

/-- The wording of a refused choice. -/
def MarkerFault.message : MarkerFault → Text
  | .empty field => text "LexerConfig." ++ field.name ++ text " must not be empty"
  | .unmatchable field value =>
      text "LexerConfig." ++ field.name ++
        text " must not contain a backslash or line break, got " ++ value.quoted

/-- A choice of markers, each of which can be found in template text. -/
structure Markers where
  opening : Text
  closing : Text
  /-- The text that turns a directive into an expression. -/
  descriptor : Text
  opening_ok : opening.IsMarker
  closing_ok : closing.IsMarker
  descriptor_ok : descriptor.IsMarker
  deriving DecidableEq

namespace Markers

/-- A usable marker, or the reason why it is none. -/
def check (field : MarkerField) (value : Text) :
    Except MarkerFault { marker : Text // marker.IsMarker } :=
  if empty : value = [] then .error (.empty field)
  else if found : value.any CodePoint.isEscaped = false then .ok ⟨value, empty, found⟩
  else .error (.unmatchable field value)

/-- A choice of markers, checked in the order opening, closing, descriptor. -/
def ofTexts (opening closing descriptor : Text) : Except MarkerFault Markers := do
  let ⟨opening, openingOk⟩ ← check .opening opening
  let ⟨closing, closingOk⟩ ← check .closing closing
  let ⟨descriptor, descriptorOk⟩ ← check .descriptor descriptor
  return ⟨opening, closing, descriptor, openingOk, closingOk, descriptorOk⟩

/-- The markers in force when nothing else is chosen. -/
def standard : Markers where
  opening := text "<%"
  closing := text "%>"
  descriptor := text "="
  opening_ok := by decide
  closing_ok := by decide
  descriptor_ok := by decide

/-- A choice of markers as it is shown. -/
def display (markers : Markers) : Text :=
  text "LexerConfig(open_marker=" ++ markers.opening.quoted ++
    text ", close_marker=" ++ markers.closing.quoted ++
    text ", expression_descriptor=" ++ markers.descriptor.quoted ++ text ")"

end Markers

end Stencil
