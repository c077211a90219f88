import Stencil.Proofs.Template.NormalScan
import Stencil.Proofs.Tree.Basic
import Stencil.Source.Block

/-! # The parts of a template as its tokens

The parts of a block tree are pieces of its template that do not run into each other
(`Stencil.Part.isPlain_piece`), and the token of each piece stands for its part
(`Stencil.Part.spelled_token`).
-/

namespace Stencil

open Text

/-- The text of a statement is made of ASCII words, spaces and colons. -/
theorem Statement.mem_source {content : Statement} {point : Nat} (member : point ∈ content.source) :
    IsWordPoint point ∨ point = 32 ∨ point = 58 := by
  have known : ∀ written ∈ [text "for ", text " in ", text "if ",
      text "elif ", text "else:", text "end", text ":"],
      ∀ point ∈ written, IsWordPoint point ∨ point = 32 ∨ point = 58 := by
    unfold IsWordPoint
    decide
  cases content with
  | loop target source =>
      simp only [Statement.source, List.mem_append] at member
      rcases member with (((inFor | inTarget) | inIn) | inSource) | inColon
      · exact known _ (by decide) _ inFor
      · exact .inl (Variable.isWordPoint_of_mem inTarget)
      · exact known _ (by decide) _ inIn
      · exact .inl (Variable.isWordPoint_of_mem inSource)
      · exact known _ (by decide) _ inColon
  | choice test =>
      simp only [Statement.source, List.mem_append] at member
      rcases member with (inIf | inTest) | inColon
      · exact known _ (by decide) _ inIf
      · exact .inl (Variable.isWordPoint_of_mem inTest)
      · exact known _ (by decide) _ inColon
  | branch test =>
      simp only [Statement.source, List.mem_append] at member
      rcases member with (inElif | inTest) | inColon
      · exact known _ (by decide) _ inElif
      · exact .inl (Variable.isWordPoint_of_mem inTest)
      · exact known _ (by decide) _ inColon
  | otherwise => exact known _ (by decide) _ member
  | finish => exact known _ (by decide) _ member

/-- The tokens that stand for a part in the raw text. -/
inductive Part.Spelled : Part → Token → Prop
  | literal (content : Text) (offset : Nat) :
      Spelled (.literal content) ⟨.literal, content, offset⟩
  | output (shown : Variable) (offset : Nat) :
      Spelled (.output shown) ⟨.expression, shown.name, offset⟩
  | statement (content : Statement) (offset : Nat) :
      Spelled (.statement content) ⟨.control, text " " ++ content.source ++ text " ", offset⟩

/-- The body of a directive between its markers. -/
def Part.body : Part → Text
  | .literal _ => []
  | .output shown => text "= " ++ shown.name ++ text " "
  | .statement content => text " " ++ content.source ++ text " "

namespace Part

theorem source_of_directive {part : Part} (directive : part.isLiteral = false) :
    part.source = Markers.standard.opening ++ (part.body ++ Markers.standard.closing) := by
  cases part with
  | literal content => cases directive
  | output shown =>
      simp only [source, body, List.append_assoc]
      rfl
  | statement content =>
      simp only [source, body, List.append_assoc]
      rfl

/-- No closing marker stands in a directive. -/
theorem not_mem_body {part : Part} : 62 ∉ Markers.standard.opening ++ part.body := by
  have outside : ¬ IsWordPoint 62 := by
    unfold IsWordPoint
    decide
  intro member
  rcases List.mem_append.mp member with inMarker | inBody
  · exact absurd inMarker (by decide)
  cases part with
  | literal content => cases inBody
  | output shown =>
      simp only [body, List.mem_append] at inBody
      rcases inBody with (inFront | inName) | inSpace
      · exact absurd inFront (by decide)
      · exact outside (Variable.isWordPoint_of_mem inName)
      · exact absurd inSpace (by decide)
  | statement content =>
      simp only [body, List.mem_append] at inBody
      rcases inBody with (inFront | inContent) | inSpace
      · exact absurd inFront (by decide)
      · rcases Statement.mem_source inContent with isWord | isSpace | isColon
        · exact outside isWord
        · cases isSpace
        · cases isColon
      · exact absurd inSpace (by decide)

end Part

theorem IsWordPoint.not_isBlank {point : Nat} (isWord : IsWordPoint point) :
    CodePoint.isBlank point = false := by
  unfold IsWordPoint at isWord
  have small : point < 128 := by omega
  rw [CodePoint.isBlank, if_pos small]
  rw [Bool.or_eq_false_iff, Bool.and_eq_false_iff, Bool.and_eq_false_iff]
  refine ⟨.inr (decide_eq_false ?_), .inr (decide_eq_false ?_)⟩
  · change ¬ point ≤ 13
    omega
  · change ¬ point ≤ 32
    omega

/-- A text without blanks at its ends stays when it is stripped. -/
theorem strip_of_ends {first last : CodePoint} {whole : Text} (begins : whole.head? = some first)
    (ends : whole.getLast? = some last) (noBlank : first.isBlank = false)
    (noBlankLast : last.isBlank = false) : strip whole = whole := by
  obtain ⟨others, split⟩ := List.head?_eq_some_iff.mp begins
  have start : stripStart whole = whole := by
    rw [split]
    exact List.dropWhile_cons_of_neg (by simp [noBlank])
  obtain ⟨front, splitLast⟩ := List.getLast?_eq_some_iff.mp ends
  unfold strip stripEnd
  rw [start, splitLast, dropEndWhile_concat, noBlankLast]
  rfl

theorem Variable.strip_name (shown : Variable) : strip shown.name = shown.name := by
  have held : shown.name ≠ [] := Variable.name_ne_nil
  obtain ⟨first, others, split⟩ := List.exists_cons_of_ne_nil held
  have begins : shown.name.head? = some first := by
    rw [split]
    rfl
  refine strip_of_ends begins (List.getLast?_eq_some_getLast held) ?_ ?_
  · have member : first ∈ shown.name := split ▸ List.mem_cons_self
    exact (Variable.isWordPoint_of_mem member).not_isBlank
  · exact (Variable.isWordPoint_of_mem (List.getLast_mem _)).not_isBlank

/-- The token of a directive stands for it. -/
theorem Part.spelled_directiveAt {part : Part} (directive : part.isLiteral = false)
    (offset : Nat) : part.Spelled (.directiveAt .standard offset part.body) := by
  cases part with
  | literal content => cases directive
  | output shown =>
      have stripped : strip (text " " ++ shown.name ++ text " ") = shown.name := by
        rw [strip_append_blanks (by decide) (by decide), Variable.strip_name]
      have token : Token.directiveAt .standard offset (Part.output shown).body =
          ⟨.expression, strip (text " " ++ shown.name ++ text " "), offset⟩ := rfl
      rw [token, stripped]
      exact .output shown offset
  | statement content => exact .statement content offset

/-- A part as a piece of its template. -/
def Part.piece (part : Part) : Piece :=
  match part with
  | .literal content => .literal content
  | part => .directive part.body

namespace Part

theorem source_piece (part : Part) : part.piece.source = part.source := by
  cases part with
  | literal content => rfl
  | output shown => exact (source_of_directive rfl).symm
  | statement content => exact (source_of_directive rfl).symm

theorem isLiteral_piece (part : Part) : part.piece.isLiteral = part.isLiteral := by
  cases part <;> rfl

theorem isPlain_piece {part : Part} (plain : part.isPlain = true) : part.piece.IsPlain := by
  cases part with
  | literal content =>
      simp only [isPlain, Bool.and_eq_true, Bool.not_eq_true', List.isEmpty_eq_false_iff, occursIn,
        Option.isSome_eq_false_iff, Option.isNone_iff_eq_none] at plain
      exact plain
  | output shown =>
      exact splitAt?_eq_none_of_not_mem (List.mem_cons_of_mem _ List.mem_cons_self) not_mem_body
  | statement content =>
      exact splitAt?_eq_none_of_not_mem (List.mem_cons_of_mem _ List.mem_cons_self) not_mem_body

theorem spelled_token (part : Part) (offset : Nat) : part.Spelled (part.piece.token offset) := by
  cases part with
  | literal content => exact .literal content offset
  | output shown => exact spelled_directiveAt rfl offset
  | statement content => exact spelled_directiveAt rfl offset

end Part

end Stencil
