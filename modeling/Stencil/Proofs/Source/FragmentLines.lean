import Stencil.Proofs.Script.Spelled
import Stencil.Proofs.Source.BodyLines
import Stencil.Proofs.Source.Fragments
import Stencil.Proofs.Source.WordText
import Stencil.Proofs.Template.Segmentation
import Stencil.Proofs.Text.HeldLines

/-! # The lines of fragments

Literal text becomes a line that no line break can stand in, and a statement becomes lines that are
each moved to their depth, whatever their text is. The text of an expression is taken over with its
own line breaks. So the fragment of a token is made of lines of the body when an expression keeps to
the margin and a statement does not end in a backslash (`Stencil.Token.KeepsToBody`,
`Stencil.bodyLines_of_emit`).
-/

namespace Stencil

open Script Source CodePoint Text

variable {line raw content : Text} {point : Nat} {depth : Nat}

theorem ne_lineFeed_of_mem_normalize (member : point ∈ normalize raw) : point ≠ lineFeed := by
  rw [normalize_eq_flatMap] at member
  obtain ⟨source, -, inForm⟩ := List.mem_flatMap.mp member
  cases escaped : source.isEscaped with
  | false =>
      rw [normalPoint_of_not_escaped escaped, List.mem_singleton] at inForm
      subst inForm
      rintro rfl
      cases escaped
  | true =>
      obtain ⟨letter, pair, meant⟩ := exists_pair_of_escaped escaped
      rw [pair] at inForm
      rcases List.mem_cons.mp inForm with rfl | isLetter
      · decide
      · rw [List.mem_singleton] at isLetter
        subst isLetter
        rintro rfl
        cases meant

theorem isPlainLine_quoteLiteral (plain : lineFeed ∉ content) :
    IsPlainLine (quoteLiteral content) := by
  have each : ∀ other ∈ quoteLiteral content, other ≠ lineFeed ∧ isUnsafe other = false := by
    intro other member
    rcases List.mem_append.mp member with inFront | last
    · rcases List.mem_cons.mp inFront with rfl | inBody
      · decide
      · obtain ⟨source, inContent, inForm⟩ := List.mem_flatMap.mp inBody
        have ofNumber : ∀ letter width, letter ≠ lineFeed ∧ isUnsafe letter = false →
            other ∈ backslash :: letter :: hexText width source →
              other ≠ lineFeed ∧ isUnsafe other = false := by
          intro letter width safe inNumber
          rcases List.mem_cons.mp inNumber with rfl | behind
          · decide
          rcases List.mem_cons.mp behind with rfl | inDigits
          · exact safe
          obtain ⟨digit, small, rfl⟩ := mem_hexText inDigits
          have digits := ofDigitValue_plain digit small
          exact ⟨digits.2.2.1, digits.2.2.2⟩
        unfold literalPoint at inForm
        split at inForm
        · simp only [List.mem_cons, List.not_mem_nil, or_false] at inForm
          rcases inForm with rfl | rfl <;> decide
        split at inForm
        · split at inForm
          · exact ofNumber 120 2 (by decide) inForm
          · exact ofNumber 117 4 (by decide) inForm
        · next safe =>
            rw [List.mem_singleton.mp inForm]
            refine ⟨?_, Bool.eq_false_iff.mpr safe⟩
            rintro rfl
            exact plain inContent
    · rw [List.mem_singleton.mp last]
      decide
  exact ⟨fun member => (each _ member).1 rfl, fun member => absurd (each _ member).2 (by decide),
    fun member => absurd (each _ member).2 (by decide)⟩

/-- The code points of literal text stand in the text that it is cut from. -/
theorem mem_of_mem_literal {markers : Markers} {whole : Text} {tokens : List Token}
    (scanned : Token.scanFrom markers 0 whole = .ok tokens) {token : Token} (member : token ∈ tokens)
    (literal : token.kind = .literal) (inside : point ∈ token.content) : point ∈ whole := by
  obtain ⟨spans, segmented⟩ := exists_segmented 0 (Nat.zero_le _) scanned
  have cut := segmented.scanFrom_eq
  rw [List.drop_zero, scanned] at cut
  cases cut
  obtain ⟨span, -, rfl⟩ := List.mem_map.mp member
  by_cases begins : OccursAt markers.opening whole span.1
  · exact (spanToken_kind_ne begins literal).elim
  · rw [spanToken_literal begins] at inside
    exact List.mem_of_mem_drop (List.mem_of_mem_take inside)

/-- No line of a statement has a line break in it. -/
theorem not_isLineBreak_of_mem_codeLines (isLine : line ∈ codeLines content)
    (member : point ∈ line) : CodePoint.isLineBreak point = false := by
  obtain ⟨whole, inLines, rfl⟩ := List.mem_map.mp isLine
  refine not_isLineBreak_of_mem_splitLines (List.mem_of_mem_filter inLines) ?_
  unfold stripEnd dropEndWhile at member
  exact List.mem_reverse.mp ((List.dropWhile_sublist _).mem (List.mem_reverse.mp member))

/-- The lines of a statement hold no line breaks. -/
theorem isPlainLine_of_mem_codeLines (isLine : line ∈ codeLines content) : IsPlainLine line :=
  ⟨fun member => absurd (not_isLineBreak_of_mem_codeLines isLine member) (by decide),
    fun member => absurd (not_isLineBreak_of_mem_codeLines isLine member) (by decide),
    fun member => absurd (not_isLineBreak_of_mem_codeLines isLine member) (by decide)⟩

/-- The lines of a statement, moved to their depth, are lines of the body. -/
theorem bodyLines_flatMap {lines : List Text} (plain : ∀ line ∈ lines, IsPlainLine line)
    (ends : ∀ line ∈ lines.getLast?, line.getLast? ≠ some backslash) :
    BodyLines (lines.flatMap (bodyLine depth)) := by
  rcases List.eq_nil_or_concat lines with rfl | ⟨front, last, rfl⟩
  · exact .nil
  · rw [List.concat_eq_append] at plain ends ⊢
    rw [List.forall_mem_append, List.forall_mem_singleton] at plain
    rw [List.flatMap_append, List.flatMap_singleton]
    have final : BodyLines (bodyLine depth last) :=
      bodyLines_bodyLine plain.2 (ends last List.getLast?_concat)
    exact final.flatMap_append (List.append_ne_nil_of_right_ne_nil _ (List.cons_ne_nil _ _)) plain.1

theorem Script.LinesDeep.prepend {front rest : Text} (plain : lineFeed ∉ front)
    (deep : LinesDeep rest) : LinesDeep (front ++ rest) := by
  intro before behind split
  rcases List.append_eq_append_iff.mp split with ⟨between, -, inRest⟩ | ⟨between, atFront, inRest⟩
  · exact deep between behind inRest
  · cases between with
    | nil => exact deep [] behind inRest.symm
    | cons first between =>
        obtain ⟨rfl, -⟩ := List.cons.inj inRest
        refine (plain ?_).elim
        rw [atFront]
        exact List.mem_append_right _ List.mem_cons_self

/-- More may stand behind the blanks of the last line. -/
theorem Script.LinesDeep.extend {lines more : Text} {stop : CodePoint}
    (deep : LinesDeep (lines ++ [lineFeed])) (stops : isInnerBlank stop = false)
    (plain : lineFeed ∉ stop :: more) : LinesDeep (lines ++ (stop :: more ++ [lineFeed])) := by
  intro before behind split
  rcases List.append_eq_append_iff.mp split with ⟨between, -, inMore⟩ | ⟨between, rfl, inMore⟩
  · exact linesDeep_of_plain plain between behind inMore
  · cases between with
    | nil => exact linesDeep_of_plain plain [] behind inMore.symm
    | cons first between =>
        obtain ⟨rfl, rfl⟩ := List.cons.inj inMore
        rcases deep before (between ++ [lineFeed]) (List.append_assoc _ _ _) with none | deepLine
        · exact absurd none (by simp)
        · exact .inr ((isDeep_append_cons stops).mpr ((isDeep_append_cons rfl).mp deepLine))

/-- An expression whose lines keep to the margin becomes lines of the body. -/
theorem bodyLines_expression (deep : LinesDeep (unifyLineEnds (strip raw))) :
    BodyLines (bodyLine depth (appendCall (text "_str(" ++ strip raw ++ text ")"))) := by
  have noBreak : ∀ last ∈ (strip raw).getLast?, last ≠ carriageReturn ∧ last ≠ lineFeed := by
    intro last isLast
    have visible := not_isBlank_of_getLast?_stripEnd last isLast
    constructor <;> rintro rfl <;> cases visible
  obtain ⟨unified, same, follows⟩ := exists_unifyLineEnds_append noBreak
  have split : bodyLine depth (appendCall (text "_str(" ++ strip raw ++ text ")")) =
      (indentAt depth ++ text "_append(_str(") ++ (strip raw ++ [41, 41, lineFeed]) := by
    simp only [bodyLine, appendCall, List.append_assoc]
    rfl
  have plain : IsPlainLine (indentAt depth ++ text "_append(_str(") :=
    (isPlainLine_indentAt depth).append (by decide)
  have whole : unifyLineEnds (bodyLine depth (appendCall (text "_str(" ++ strip raw ++ text ")"))) =
      (indentAt depth ++ text "_append(_str(") ++ (unified ++ ([41, 41] ++ [lineFeed])) := by
    rw [split, unifyLineEnds_append plain.2.1
      (List.append_ne_nil_of_right_ne_nil _ (List.cons_ne_nil _ _)),
      follows _ (List.cons_ne_nil _ _)]
    rfl
  rw [same] at deep
  refine .lines List.getLast?_concat ?_ ?_
  · rw [whole]
    refine ⟨?_, (deep.extend rfl (by decide)).prepend plain.1, ?_⟩
    · rw [List.append_assoc]
      exact isDeep_append_cons rfl |>.mpr (List.append_nil (indentAt depth) ▸ isDeep_indentAt (by decide))
    · rw [List.getLast?_append, List.getLast?_append]
      rfl
  · rw [whole]
    refine ⟨(indentAt depth ++ text "_append(_str(") ++ (unified ++ [41, 41]), ?_, ?_⟩
    · simp only [List.append_assoc]
    · rw [List.getLast?_append, List.getLast?_append]
      rintro ⟨⟩

/-- A directive keeps to the body: the lines of an expression behind its first one begin at least
as deep as the body, and a statement does not end in a backslash, which would join its last line
with the line behind it. -/
def Token.KeepsToBody (token : Token) : Prop :=
  match token.kind with
  | .literal => True
  | .expression => LinesDeep (unifyLineEnds (restore token.content).strip)
  | .control => ∀ line ∈ (codeLines token.content).getLast?, line.getLast? ≠ some backslash

instance : (token : Token) → Decidable token.KeepsToBody
  | ⟨.literal, _, _⟩ => inferInstanceAs (Decidable True)
  | ⟨.expression, content, _⟩ =>
      inferInstanceAs (Decidable (LinesDeep (unifyLineEnds (restore content).strip)))
  | ⟨.control, content, _⟩ =>
      inferInstanceAs (Decidable (∀ line ∈ (codeLines content).getLast?,
        line.getLast? ≠ some backslash))

theorem bodyLines_emitLines {lines : List Text} {blocks : List OpenBlock}
    (plain : ∀ line ∈ lines, IsPlainLine line)
    (ends : ∀ line ∈ lines.getLast?, line.getLast? ≠ some backslash) :
    BodyLines (emitLines lines blocks).1 := by
  have written : BodyLines (lines.flatMap (bodyLine blocks.length)) := bodyLines_flatMap plain ends
  unfold emitLines
  dsimp only
  split
  · split
    · exact written
    · exact written.append (bodyLines_bodyLine (by decide) (by decide))
  · exact written

/-- **The fragment of a token that keeps to the body is made of lines of the body.** -/
theorem bodyLines_of_emit {token : Token} {blocks after : List OpenBlock} {fragment : Text}
    (emitted : emit token blocks = .ok (fragment, after))
    (plain : token.kind = .literal → lineFeed ∉ token.content) (keeps : token.KeepsToBody) :
    BodyLines fragment := by
  unfold Token.KeepsToBody at keeps
  unfold emit at emitted
  split at emitted
  · next literal =>
      cases emitted
      have quoted := isPlainLine_quoteLiteral (plain literal)
      refine bodyLines_bodyLine ((IsPlainLine.append (by decide) quoted).append (by decide)) ?_
      rw [appendCall, List.getLast?_append]
      rintro ⟨⟩
  · next expression =>
      cases emitted
      rw [expression] at keeps
      exact bodyLines_expression keeps
  · next control =>
      rw [control] at keeps
      dsimp only at keeps
      have plainLines : ∀ line ∈ codeLines token.content, IsPlainLine line :=
        fun _ => isPlainLine_of_mem_codeLines
      unfold emitControl at emitted
      split at emitted
      · cases emitted
        exact .nil
      · next first rest isLines =>
          rw [isLines] at keeps plainLines
          split at emitted
          · cases closed : closeBlock blocks with
            | error fault => rw [closed] at emitted; cases emitted
            | ok left => rw [closed] at emitted; cases emitted; exact .nil
          · cases outer : leaveContinued first blocks with
            | error fault => rw [outer] at emitted; cases emitted
            | ok left =>
                rw [outer] at emitted
                have written : BodyLines (emitLines (first :: rest) left).1 :=
                  bodyLines_emitLines plainLines keeps
                rwa [Except.ok.inj emitted] at written

theorem bodyLines_of_emitAll {tokens : List Token} {generator after : Generator}
    {fragments : List Text} (emitted : generator.emitAll tokens = .ok (fragments, after))
    (plain : ∀ token ∈ tokens, token.kind = .literal → lineFeed ∉ token.content)
    (keeps : ∀ token ∈ tokens, token.KeepsToBody) :
    ∀ fragment ∈ fragments, BodyLines fragment := by
  induction tokens generalizing generator fragments with
  | nil => cases emitted; exact fun _ member => nomatch member
  | cons token tokens ih =>
      rw [List.forall_mem_cons] at plain keeps
      obtain ⟨fragment, blocks, others, first, later, rfl⟩ := emitAll_cons.mp emitted
      exact List.forall_mem_cons.mpr
        ⟨bodyLines_of_emit first plain.1 keeps.1, ih later plain.2 keeps.2⟩

theorem Script.IsName.isPlainLine {name : Name} (isName : IsName name) : IsPlainLine name := by
  obtain ⟨first, others, -, -, continues⟩ := exists_cons_of_isIdentifier isName.1
  exact ⟨fun member => absurd (continues _ member) (by decide),
    fun member => absurd (continues _ member) (by decide),
    fun member => absurd (continues _ member) (by decide)⟩

/-- The line that takes a name from the context is a line of the body. -/
theorem bodyLines_bindingLine {name : Name} (isName : IsName name) :
    BodyLines (bindingLine name) := by
  have plain := isName.isPlainLine
  have quoted : IsPlainLine name.quoted := by
    have mark : IsPlainLine [apostrophe] := by decide
    rw [isName.quoted_eq]
    exact (mark.append plain).append mark
  unfold bindingLine
  split
  · refine bodyLines_bodyLine (((((plain.append (by decide)).append quoted).append
      (by decide)).append plain).append (by decide)) ?_
    rw [List.getLast?_append]
    exact fun isLast => nomatch isLast
  · refine bodyLines_bodyLine ((((((IsPlainLine.append (by decide) quoted).append
      (by decide)).append plain).append (by decide)).append quoted).append (by decide)) ?_
    rw [List.getLast?_append]
    exact fun isLast => nomatch isLast

end Stencil
