import Mathlib.Data.List.Chain
import Stencil.Script.Lexeme.Scan
import Stencil.Script.Placement
import Stencil.Script.PublicNames
import Stencil.Template.Markers

/-! # Block trees

A block tree is a template whose directives write out variables, loop over the elements of
variables and choose by the truth of variables, nested to any depth (`Stencil.BlockTree`). Its
text is that of its parts one behind the other (`Stencil.BlockTree.source`). Only parts that
cannot run into each other are told apart again (`Stencil.BlockTree.IsScannable`).
-/

namespace Stencil

open Script

/-- A name that a template may read and bind and that means nothing else: an ASCII identifier
that is neither a keyword nor public nor reserved. -/
def isVariableName (name : Name) : Bool :=
  Text.isIdentifier name && name.all (· < 128) && (Keyword.ofText? name).isNone &&
    !isPublicName name && mayBind name && !reservedNames.contains name

/-- A variable of a template. -/
structure Variable where
  name : Name
  isVariable : isVariableName name = true
  deriving DecidableEq

/-- A code point of ASCII words. -/
def IsWordPoint (point : Nat) : Prop :=
  (48 ≤ point ∧ point ≤ 57) ∨ (65 ≤ point ∧ point ≤ 90) ∨ point = 95 ∨
    (97 ≤ point ∧ point ≤ 122)

namespace Variable

variable (shown : Variable)

theorem isVariable_parts : Text.isIdentifier shown.name = true ∧
    (∀ point ∈ shown.name, point < 128) ∧ Keyword.ofText? shown.name = none ∧
    isPublicName shown.name = false ∧ shown.name ≠ fixedName ∧ shown.name ∉ reservedNames := by
  have parts := shown.isVariable
  simp only [isVariableName, mayBind, Bool.and_eq_true, List.all_eq_true, decide_eq_true_eq,
    Option.isNone_iff_eq_none, Bool.not_eq_true', bne_iff_ne, List.contains_eq_mem,
    decide_eq_false_iff_not] at parts
  obtain ⟨⟨⟨⟨⟨identifier, small⟩, noKeyword⟩, notPublic⟩, mayBind⟩, notReserved⟩ := parts
  exact ⟨identifier, small, noKeyword, notPublic, mayBind, notReserved⟩

theorem isIdentifier : Text.isIdentifier shown.name = true := shown.isVariable_parts.1

theorem ofText?_eq_none : Keyword.ofText? shown.name = none := shown.isVariable_parts.2.2.1

theorem isPublicName_eq_false : isPublicName shown.name = false :=
  shown.isVariable_parts.2.2.2.1

theorem ne_fixedName : shown.name ≠ fixedName := shown.isVariable_parts.2.2.2.2.1

/-- A variable is none of the names that every render program has. -/
theorem ne_of_mem_reservedNames {name : Name} (reserved : name ∈ reservedNames) :
    shown.name ≠ name := by
  rintro rfl
  exact shown.isVariable_parts.2.2.2.2.2 reserved

variable {shown}

/-- The name of a variable is made of ASCII letters, digits and underscores. -/
theorem isWordPoint_of_mem {point : Nat} (member : point ∈ shown.name) : IsWordPoint point := by
  have small := shown.isVariable_parts.2.1 point member
  have continues : CodePoint.isLetter point = true ∨ CodePoint.isDigit point = true ∨
      point = 95 := by
    have identifier := shown.isIdentifier
    generalize shown.name = name at member identifier
    cases name with
    | nil => cases member
    | cons first others =>
        simp only [Text.isIdentifier, Bool.and_eq_true, List.all_eq_true] at identifier
        rcases List.mem_cons.mp member with rfl | inOthers
        · have starts := identifier.1
          simp only [CodePoint.isIdentifierStart, small, ↓reduceIte, Bool.or_eq_true,
            beq_iff_eq] at starts
          rcases starts with isLetter | isScore
          · exact .inl isLetter
          · exact .inr (.inr isScore)
        · have goesOn := identifier.2 point inOthers
          simp only [CodePoint.isIdentifierPart, small, ↓reduceIte, Bool.or_eq_true,
            beq_iff_eq, or_assoc] at goesOn
          exact goesOn
  simp only [CodePoint.isLetter, CodePoint.isSmallLetter, CodePoint.isCapitalLetter,
    CodePoint.isDigit, Bool.or_eq_true, Bool.and_eq_true, decide_eq_true_eq] at continues
  rcases continues with (isSmall | isCapital) | isDigit | isScore
  · exact .inr (.inr (.inr isSmall))
  · exact .inr (.inl isCapital)
  · exact .inl isDigit
  · exact .inr (.inr (.inl isScore))

theorem name_ne_nil : shown.name ≠ [] := by
  intro empty
  have identifier := shown.isIdentifier
  rw [empty] at identifier
  cases identifier

end Variable

mutual

/-- What a template with blocks writes, part by part. -/
inductive BlockTree where
  | done
  | literal (content : Text) (rest : BlockTree)
  | output (shown : Variable) (rest : BlockTree)
  | loop (target source : Variable) (body rest : BlockTree)
  | choice (test : Variable) (body : BlockTree) (others : Branches) (rest : BlockTree)

/-- The branches of a choice behind its first one. -/
inductive Branches where
  | none
  | otherwise (body : BlockTree)
  | test (test : Variable) (body : BlockTree) (others : Branches)

end

/-- A statement of a template. -/
inductive Statement where
  | loop (target source : Variable)
  | choice (test : Variable)
  | branch (test : Variable)
  | otherwise
  | finish
  deriving DecidableEq

/-- The text of a statement. -/
def Statement.source : Statement → Text
  | loop target source =>
      text "for " ++ target.name ++ text " in " ++ source.name ++ text ":"
  | choice test => text "if " ++ test.name ++ text ":"
  | branch test => text "elif " ++ test.name ++ text ":"
  | otherwise => text "else:"
  | finish => text "end"

/-- A part of a template. -/
inductive Part where
  | literal (content : Text)
  | output (shown : Variable)
  | statement (content : Statement)
  deriving DecidableEq

namespace Part

/-- The text of a part. -/
def source : Part → Text
  | .literal content => content
  | .output shown => text "<%= " ++ shown.name ++ text " %>"
  | .statement content => text "<% " ++ content.source ++ text " %>"

/-- The part is literal text. -/
def isLiteral : Part → Bool
  | .literal _ => true
  | _ => false

/-- Literal text that holds something, and no opening marker. -/
def isPlain : Part → Bool
  | .literal content => !content.isEmpty && !Text.occursIn Markers.standard.opening content
  | _ => true

end Part

mutual

/-- The parts of a tree. -/
def BlockTree.parts : BlockTree → List Part
  | .done => []
  | .literal content rest => .literal content :: rest.parts
  | .output shown rest => .output shown :: rest.parts
  | .loop target source body rest =>
      .statement (.loop target source) :: (body.parts ++ .statement .finish :: rest.parts)
  | .choice test body others rest =>
      .statement (.choice test) ::
        (body.parts ++ (others.parts ++ .statement .finish :: rest.parts))

/-- The parts of the branches of a choice. -/
def Branches.parts : Branches → List Part
  | .none => []
  | .otherwise body => .statement .otherwise :: body.parts
  | .test test body others => .statement (.branch test) :: (body.parts ++ others.parts)

end

mutual

/-- The number of loops around each other. -/
def BlockTree.loopDepth : BlockTree → Nat
  | .done => 0
  | .literal _ rest | .output _ rest => rest.loopDepth
  | .loop _ _ body rest => max (body.loopDepth + 1) rest.loopDepth
  | .choice _ body others rest => max (max body.loopDepth others.loopDepth) rest.loopDepth

/-- The number of loops around each other in the branches of a choice. -/
def Branches.loopDepth : Branches → Nat
  | .none => 0
  | .otherwise body => body.loopDepth
  | .test _ body others => max body.loopDepth others.loopDepth

end

mutual

/-- The number of blocks around each other. -/
def BlockTree.levels : BlockTree → Nat
  | .done => 0
  | .literal _ rest | .output _ rest => rest.levels
  | .loop _ _ body rest => max (body.levels + 1) rest.levels
  | .choice _ body others rest => max (max (body.levels + 1) others.levels) rest.levels

/-- The number of blocks around each other in the branches of a choice. -/
def Branches.levels : Branches → Nat
  | .none => 0
  | .otherwise body => body.levels + 1
  | .test _ body others => max (body.levels + 1) others.levels

end

mutual

/-- The number of headers inside each other, where a further branch of a choice is inside the branch
before it. -/
def BlockTree.nesting : BlockTree → Nat
  | .done => 0
  | .literal _ rest | .output _ rest => rest.nesting
  | .loop _ _ body rest => max (body.nesting + 1) rest.nesting
  | .choice _ body others rest => max (max body.nesting others.nesting + 1) rest.nesting

/-- The number of headers inside each other in the branches of a choice. -/
def Branches.nesting : Branches → Nat
  | .none => 0
  | .otherwise body => body.nesting
  | .test _ body others => max body.nesting others.nesting + 1

end

namespace BlockTree

/-- The text of a template. -/
def source (tree : BlockTree) : Text := tree.parts.flatMap Part.source

/-- The literals of a tree hold something but no opening marker, and no literal stands directly
behind another one. -/
def IsScannable (tree : BlockTree) : Prop :=
  (∀ part ∈ tree.parts, part.isPlain = true) ∧
    tree.parts.IsChain fun before after => ¬(before.isLiteral = true ∧ after.isLiteral = true)

instance (tree : BlockTree) : Decidable tree.IsScannable :=
  inferInstanceAs (Decidable (_ ∧ _))

end BlockTree

end Stencil
