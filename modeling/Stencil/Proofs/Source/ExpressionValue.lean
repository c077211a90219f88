import Stencil.Proofs.Script.BracketScan
import Stencil.Proofs.Script.LexemeBound
import Stencil.Proofs.Script.LoneExpression
import Stencil.Proofs.Source.BodyFrame
import Stencil.Proofs.Source.DirectiveLines
import Stencil.Proofs.Tree.Program

/-! # The value of an expression

An expression that is a program of its own is written by the statement that calls for its text
(`Stencil.emit_expression_value`), if it can stand in parentheses: what ends with a comment or with a
joined line takes the closing parentheses along.
-/

namespace Stencil

open Script Script.Reader Source CodePoint Text

/-- A text is the program of one expression that takes up all of its line, and it can stand in the
parentheses of two calls. -/
structure IsExpressionText (source : Text) (value : Expr) : Prop where
  program : readProgram source = .ok [.expression value]
  /-- The expression is all of the line: it is no row without parentheses, and nothing is handed to a
  caller. -/
  single : ∃ found, Script.lexemes source = some (found ++ [.lineEnd]) ∧
    (Inner.ofDepth (source.length + 4)).expression (found ++ [.lineEnd]) = some (value, [.lineEnd])
  closes : ∃ program, readProgram (text "((" ++ source ++ text "))") = .ok program

variable {source raw : Text} {value : Expr} {found rest : List Lexeme} {blocks : List OpenBlock}
  {columns : List Column} {run tail : Text}

/-- The lexemes of the calls around an expression. -/
def callLexemes (found : List Lexeme) : List Lexeme :=
  .name (text "_append") :: .symbol .leftParen :: .name (text "_str") :: .symbol .leftParen ::
    (found ++ [.symbol .rightParen, .symbol .rightParen])

/-- A program that begins with a lexeme is scanned from there. -/
theorem lexemesFrom_begins {first : CodePoint} (begins : BeginsLexeme first) :
    lexemesFrom [Column.zero] [] true (first :: tail) =
      lexemesFrom [Column.zero] [] false (first :: tail) := by
  have start := (@lexemesFrom_lineStart [Column.zero] first tail 0 begins)
  have margin : changeBlocks ⟨0, 0⟩ [Column.zero] = some ([], [Column.zero]) := rfl
  rw [margin, Option.bind_some] at start
  refine start.trans ?_
  cases lexemesFrom [Column.zero] [] false (first :: tail) <;> rfl

/-- Two calls are opened in front of an expression. -/
theorem lexemesFrom_calls : lexemesFrom columns [] false (text "_append(_str(" ++ tail) =
    (lexemesFrom columns [.rightParen, .rightParen] false tail).map
      ([.name (text "_append"), .symbol .leftParen, .name (text "_str"), .symbol .leftParen] ++ ·) := by
  have opens : ∀ awaited, awaited.length < bracketLimit → ∀ word ∈ [text "_append", text "_str"],
      ∀ tail, lexemesFrom columns awaited false (word ++ 40 :: tail) =
        (lexemesFrom columns (.rightParen :: awaited) false tail).map
          ([.name word, .symbol .leftParen] ++ ·) := by
    intro awaited room word member tail
    have ends : EndsWord (40 :: tail) := endsWord_cons (by decide)
    have isWord : word.isIdentifier = true ∧ wordLexeme word = .name word ∧
        ∃ first others, word = first :: others ∧ BeginsLexeme first := by
      rcases List.mem_cons.mp member with rfl | member
      · exact ⟨by decide, rfl, _, _, rfl, by decide⟩
      · obtain rfl := List.mem_singleton.mp member
        exact ⟨by decide, rfl, _, _, rfl, by decide⟩
    obtain ⟨identifier, same, first, others, split, begins⟩ := isWord
    have untracked : trackBrackets awaited (wordLexeme word) = some awaited := by
      rw [same]
      rfl
    rw [lexemesFrom_lexeme split begins (readLexeme_word identifier ends) untracked,
      lexemesFrom_leftParen room, Option.map_map, same]
    rfl
  have split : text "_append(_str(" ++ tail = text "_append" ++ 40 :: (text "_str" ++ 40 :: tail) := rfl
  rw [split, opens _ (by decide) _ (by decide), opens _ (by decide) _ (by decide), Option.map_map]
  rfl

/-- Two parentheses are opened in front of a text. -/
theorem lexemesFrom_parens : lexemesFrom columns [] false (text "((" ++ tail) =
    (lexemesFrom columns [.rightParen, .rightParen] false tail).map
      ([.symbol .leftParen, .symbol .leftParen] ++ ·) := by
  have split : text "((" ++ tail = 40 :: 40 :: tail := rfl
  rw [split, lexemesFrom_leftParen (by decide), lexemesFrom_leftParen (by decide), Option.map_map]
  rfl

/-- Two parentheses are closed at the end of a line. -/
theorem lexemesFrom_closing : lexemesFrom columns [.rightParen, .rightParen] false
    (text "))" ++ [lineFeed]) = (lexemesFrom columns [] true []).map
      ([.symbol .rightParen, .symbol .rightParen, .lineEnd] ++ ·) := by
  have split : text "))" ++ [lineFeed] = 41 :: 41 :: [lineFeed] := rfl
  rw [split, lexemesFrom_rightParen, lexemesFrom_rightParen, lexemesFrom_lineFeed, Option.map_map,
    Option.map_map]
  rfl

theorem unifyLineEnds_ne_nil (source : Text) : unifyLineEnds source ≠ [] := by
  fun_induction unifyLineEnds source with
  | case4 rest ih => exact ih
  | _ => exact List.cons_ne_nil _ _

/-- A text ends as it does with its line ends unified, unless it ends with a line end. -/
theorem getLast?_of_unifyLineEnds {unified : Text}
    (noBreak : ∀ last ∈ source.getLast?, last ≠ carriageReturn ∧ last ≠ lineFeed)
    (same : unifyLineEnds source = unified ++ [lineFeed]) : unified.getLast? = source.getLast? := by
  -- A line that goes on in front of the rest of the text.
  have front : ∀ {point next : CodePoint} {rest : Text} {unified : Text},
      (∀ {later : Text}, unifyLineEnds (next :: rest) = later ++ [lineFeed] →
        later.getLast? = (next :: rest).getLast?) →
      point :: unifyLineEnds (next :: rest) = unified ++ [lineFeed] →
      unified.getLast? = (next :: rest).getLast? := by
    intro point next rest unified later same
    cases unified with
    | nil =>
        exact (unifyLineEnds_ne_nil _ (List.cons.inj same).2).elim
    | cons first unified =>
        have isLast := later (List.cons.inj same).2
        rw [← isLast]
        cases unified with
        | nil => cases isLast.trans (List.getLast?_cons)
        | cons second unified => exact List.getLast?_cons_cons
  fun_induction unifyLineEnds source generalizing unified with
  | case1 =>
      cases unified with
      | nil => rfl
      | cons point unified => simp at same
  | case2 point isBreak =>
      simp only [Bool.or_eq_true, decide_eq_true_eq] at isBreak
      have plain := noBreak point rfl
      exact (isBreak.elim plain.1 plain.2).elim
  | case3 point noEnd =>
      have split : [point] ++ [lineFeed] = unified ++ [lineFeed] := same
      rw [← List.append_cancel_right split]
  | case4 rest ih =>
      rw [List.getLast?_cons_cons] at noBreak ⊢
      exact ih noBreak same
  | case5 next rest noFeed ih =>
      rw [List.getLast?_cons_cons] at noBreak ⊢
      exact front (fun isLater => ih noBreak isLater) same
  | case6 point next rest noReturn ih =>
      rw [List.getLast?_cons_cons] at noBreak ⊢
      exact front (fun isLater => ih noBreak isLater) same

namespace IsExpressionText

/-- The lexemes of the expression stand inside its line. -/
theorem inline (read : (Inner.ofDepth (source.length + 4)).expression (found ++ [.lineEnd]) =
      some (value, [.lineEnd])) (isFound : Script.lexemes source = some (found ++ [.lineEnd])) :
    Inline found := by
  have fits := weight_lexemes isFound
  obtain ⟨taken, split, -, inline⟩ := ((Inner.near_ofDepth _ (source.length + 4)
    (source.length + 4) (by omega) (by omega)).expression _ fits (hasWords_lexemes isFound)).2 _ _ read
  rwa [List.append_cancel_right split]

/-- The call that writes the expression is one line. -/
theorem exists_isLogicalLine (isText : IsExpressionText source value)
    (ends : ∀ last ∈ source.getLast?, last.isBlank = false) :
    ∃ found content, Script.lexemes source = some (found ++ [.lineEnd]) ∧
      (Inner.ofDepth (source.length + 4)).expression (found ++ [.lineEnd]) =
        some (value, [.lineEnd]) ∧
      Unifies (appendCall (text "_str(" ++ source ++ text ")")) content ∧
      IsLogicalLine content (callLexemes found) := by
  obtain ⟨found, isFound, read⟩ := isText.single
  have noBreak : ∀ last ∈ source.getLast?, last ≠ carriageReturn ∧ last ≠ lineFeed := by
    intro last isLast
    have noBlank := ends last isLast
    constructor <;> rintro rfl <;> exact nomatch noBlank
  obtain ⟨unified, same, follows⟩ := exists_unifyLineEnds_append noBreak
  have closing : text "))" ≠ [] := by decide
  have unifiedClosing : unifyLineEnds (text "))") = text "))" ++ [lineFeed] := by decide
  -- The text in parentheses is scanned, so these are closed.
  have closed : (lexemesFrom [Column.zero] [.rightParen, .rightParen] false
      (unified ++ (text "))" ++ [lineFeed]))).isSome = true := by
    obtain ⟨program, isProgram⟩ := isText.closes
    obtain ⟨all, scanned, -⟩ := exists_lexemes_of_readProgram isProgram
    have start : lexemesFrom [Column.zero] [] true (text "((" ++ (unified ++ (text "))" ++ [lineFeed]))) =
        lexemesFrom [Column.zero] [] false (text "((" ++ (unified ++ (text "))" ++ [lineFeed]))) :=
      lexemesFrom_begins (by decide)
    rw [Script.lexemes, List.append_assoc, unifyLineEnds_append (by decide)
      (List.append_ne_nil_of_right_ne_nil _ closing), follows _ closing, unifiedClosing, start,
      lexemesFrom_parens] at scanned
    obtain ⟨later, isLater, -⟩ := Option.map_eq_some_iff.mp scanned
    rw [isLater]
    rfl
  have inside : EndsInside unified := by
    intro last isLast
    rw [getLast?_of_unifyLineEnds noBreak same] at isLast
    refine ⟨?_, (noBreak last isLast).2⟩
    have noBlank := ends last isLast
    cases isInner : isInnerBlank last with
    | false => rfl
    | true =>
        simp only [isInnerBlank, Bool.or_eq_true, beq_iff_eq] at isInner
        rcases isInner with (rfl | rfl) | rfl <;> cases noBlank
  have scanned := isFound
  rw [Script.lexemes, same] at scanned
  have held : unified ≠ [] := by
    rintro rfl
    have silent : stepAtLineStart [Column.zero] lineFeed [] =
        some ⟨[], [Column.zero], [], true, 0⟩ := rfl
    rw [List.nil_append, lexemesFrom_cons, if_pos rfl, silent, Option.bind_some, List.drop_nil,
      lexemesFrom] at scanned
    exact List.append_ne_nil_of_right_ne_nil _ (List.cons_ne_nil _ _)
      (Option.some.inj scanned).symm
  have enclosed := lexemesFrom_enclosed_text (List.cons_ne_nil _ _) (by decide) rfl held inside
    (inline read isFound) scanned closed
  have line : text "_append(_str(" ++ (source ++ text "))") =
      appendCall (text "_str(" ++ source ++ text ")") := by
    simp only [appendCall, List.append_assoc]
    rfl
  have unifies : unifyLineEnds (text "_append(_str(" ++ (source ++ text "))")) =
      text "_append(_str(" ++ (unified ++ text "))") ++ [lineFeed] := by
    rw [unifyLineEnds_append (by decide) (List.append_ne_nil_of_right_ne_nil _ closing),
      follows _ closing, unifiedClosing, List.append_assoc, List.append_assoc]
  have lone : IsLoneLine (text "_append(_str(" ++ (source ++ text "))")) (callLexemes found) := by
    refine ⟨rfl, ?_, ?_⟩
    · have plain := inline read isFound
      simp only [Inline, callLexemes, List.mem_cons, List.mem_append, List.not_mem_nil, or_false]
      rintro lexeme (rfl | rfl | rfl | rfl | member | rfl | rfl)
      · rfl
      · rfl
      · rfl
      · rfl
      · exact plain _ member
      · rfl
      · rfl
    · have start : lexemesFrom [Column.zero] [] true
          (text "_append(_str(" ++ (unified ++ (text "))" ++ [lineFeed]))) =
          lexemesFrom [Column.zero] [] false
            (text "_append(_str(" ++ (unified ++ (text "))" ++ [lineFeed]))) :=
        lexemesFrom_begins (by decide)
      rw [Script.lexemes, unifies, List.append_assoc, List.append_assoc, start, lexemesFrom_calls,
        enclosed, lexemesFrom_closing, lexemesFrom]
      simp only [List.isEmpty_nil, ↓reduceIte, Option.map_some, callLexemes, List.append_assoc,
        List.cons_append, List.nil_append]
      rfl
  refine ⟨found, text "_append(_str(" ++ (unified ++ text "))"), isFound, read, ?_,
    lone.isLogicalLine unifies⟩
  rw [← line]
  have front : Unifies (text "_append(_str(") (text "_append(_str(") := unifies_of_plain (by decide)
  have last : Unifies (text "))") (text "))") := unifies_of_plain (by decide)
  exact front.append (Unifies.append follows last)

end IsExpressionText

/-- The text of the value of an expression is written. -/
def textCall (value : Expr) : Expr := .call (.name (text "_str")) [value] []

/-- The call is read as the statement that writes the text of the expression. -/
theorem statement_call {depth : Nat}
    (read : (Inner.ofDepth (depth + 1)).expression (found ++ [.lineEnd]) = some (value, [.lineEnd])) :
    statement (Inner.ofDepth (depth + 3)) (callLexemes found ++ .lineEnd :: rest) =
      some ([writeStatement (textCall value)], rest) := by
  have inside : (Inner.ofDepth (depth + 2)).expression (.name (text "_str") :: .symbol .leftParen ::
      (found ++ .symbol .rightParen :: .symbol .rightParen :: .lineEnd :: rest)) =
      some (textCall value, .symbol .rightParen :: .lineEnd :: rest) :=
    Degree.expression_of_primary rfl rfl (primary_of_steps (atom_name rfl)
      (.more (trailStep_call (callArguments_of_line read _)) .none)
      (Nat.succ_le_succ (Nat.zero_le _)) rfl)
  have split : callLexemes found ++ .lineEnd :: rest =
      .name (text "_append") :: .symbol .leftParen :: .name (text "_str") :: .symbol .leftParen ::
        (found ++ .symbol .rightParen :: .symbol .rightParen :: .lineEnd :: rest) := by
    simp only [callLexemes, List.append_assoc, List.cons_append, List.nil_append]
  rw [split]
  exact statement_expression (by decide) (by decide) (expression_call rfl rfl
    (fun isHead => nomatch isHead) (fun isHead => nomatch isHead) rfl inside)

/-- **An expression directive writes the value of its expression.** -/
theorem emit_expression_value (raw : Text) (offset : Nat) (blocks : List OpenBlock)
    (isText : IsExpressionText raw.strip value) (room : blocks.length + 1 < indentLimit) :
    ∃ fragment, Source.emit ⟨.expression, normalize raw, offset⟩ blocks = .ok (fragment, blocks) ∧
      ReadsInBody blocks.length fragment [writeStatement (textCall value)] := by
  obtain ⟨found, content, isFound, read, unifies, isLine⟩ :=
    isText.exists_isLogicalLine not_isBlank_of_getLast?_stripEnd
  have emitted : Source.emit ⟨.expression, normalize raw, offset⟩ blocks =
      .ok (bodyLine blocks.length (appendCall (text "_str(" ++ raw.strip ++ text ")")), blocks) := by
    unfold Source.emit
    dsimp only
    rw [restore_normalize]
  refine ⟨_, emitted, ?_⟩
  have longer : raw.strip.length + 4 ≤
      (bodyLine blocks.length (appendCall (text "_str(" ++ raw.strip ++ text ")"))).length := by
    simp only [bodyLine, appendCall, List.length_append, List.length_singleton]
    have some : (text "_str(").length = 5 := rfl
    omega
  refine @readsInBody_of_lexemes _ (callLexemes found ++ [.lineEnd]) _ _ room ?_ ?_ ?_
  · have clean := clean_of_readProgram isText.program
    simp only [bodyLine, appendCall, indentAt_eq, List.forall_mem_append]
    refine ⟨⟨fun point member => ?_, ⟨by decide, ⟨by decide, clean⟩, by decide⟩, by decide⟩, by decide⟩
    rw [List.eq_of_mem_replicate member]
    decide
  · have unified : unifyLineEnds (bodyLine blocks.length
        (appendCall (text "_str(" ++ raw.strip ++ text ")"))) = lineAt (blocks.length + 1) content := by
      have indented : Unifies (indentAt blocks.length) (Text.spaces (4 * (blocks.length + 1))) := by
        rw [indentAt_eq]
        refine unifies_of_plain fun member => ?_
        cases List.eq_of_mem_replicate member
      exact (indented.append unifies) [lineFeed] (List.cons_ne_nil _ _)
    have scanned := @IsLogicalLine.lexemesBehind_leave [] (blocks.length + 1) _ _ isLine 0
    rw [List.append_nil, lexemesBehind_nil, Option.map_some] at scanned
    rw [unified, List.append_assoc]
    exact scanned
  · intro extra rest le
    have fits := weight_lexemes isFound
    have readHere : (Inner.ofDepth (extra + 2)).expression (found ++ [.lineEnd]) =
        some (value, [.lineEnd]) := by
      rw [← read]
      exact ((Inner.near_ofDepth _ (extra + 2) (raw.strip.length + 4) (by omega)
        (by omega)).expression _ (Nat.le_refl _) (hasWords_lexemes isFound)).1
    rw [List.append_assoc]
    exact .more_line rfl (statement_call readHere) (by rintro ⟨⟩) .none

/-- A name in parentheses, with a comment and a line end in them, is written in a block. -/
theorem emit_expression_value_lines :
    let raw := text " (x # note\n) "
    let blocks := [⟨text "for", text "for x in y:"⟩]
    IsExpressionText raw.strip (.name (text "x")) ∧
      ∃ fragment, Source.emit ⟨.expression, normalize raw, 0⟩ blocks = .ok (fragment, blocks) ∧
        ReadsInBody 1 fragment [writeStatement (textCall (.name (text "x")))] := by
  have clean : ∀ point ∈ strip (text " (x # note\n) "), point.isSurrogate = false ∧ point ≠ 0 := by
    decide
  have isFound : Script.lexemes (strip (text " (x # note\n) ")) =
      some ([.symbol .leftParen, .name (text "x"), .symbol .rightParen] ++ [.lineEnd]) := by
    rw [lexemes_eq_within]
    decide +kernel
  have closing : (parseWithin? (text "((" ++ strip (text " (x # note\n) ") ++ text "))")).isSome := by
    decide +kernel
  obtain ⟨program, parsed⟩ := Option.isSome_iff_exists.mp closing
  have isText : IsExpressionText (strip (text " (x # note\n) ")) (.name (text "x")) :=
    { program := readProgram_of_lexemes clean isFound rfl
      single := ⟨_, isFound, rfl⟩
      closes := ⟨program, readProgram_of_parseWithin? (by decide) (by decide) parsed⟩ }
  exact ⟨isText, emit_expression_value _ 0 [⟨text "for", text "for x in y:"⟩] isText (by decide)⟩

/-- A comment behind a name takes along the parentheses that are closed behind it, though the name is
a program of its own. -/
theorem emit_expression_note :
    let raw := text "x # note"
    readProgram raw = .ok [.expression (.name (text "x"))] ∧
      ∀ fragment, Source.emit ⟨.expression, normalize raw, 0⟩ [] = .ok (fragment, []) →
        ¬ReadsInBody 0 fragment [writeStatement (textCall (.name (text "x")))] := by
  refine ⟨?_, fun fragment emitted reads => ?_⟩
  · have isFound : Script.lexemes (text "x # note") = some ([.name (text "x")] ++ [.lineEnd]) := by
      rw [lexemes_eq_within]
      decide +kernel
    exact readProgram_of_lexemes (by decide) isFound rfl
  · have unread : parseWithin? (enclosed 0
        (bodyLine 0 (appendCall (text "_str(" ++ text "x # note" ++ text ")")))) = none :=
      Option.isNone_iff_eq_none.mp (by decide +kernel)
    have line : fragment = bodyLine 0 (appendCall (text "_str(" ++ text "x # note" ++ text ")")) := by
      cases emitted
      rfl
    subst line
    exact nomatch unread.symm.trans (parseWithin?_of_readProgram reads)

end Stencil
