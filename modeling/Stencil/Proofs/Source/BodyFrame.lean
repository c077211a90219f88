import Stencil.Proofs.Source.BoundProgram
import Stencil.Proofs.Tree.Lines

/-! # A fragment in the body

A fragment is looked at where it stands: in the body of the render function, inside as many blocks as
are open there (`Stencil.ReadsInBody`). Such a program is read as a function with these blocks and the
statements that the lexemes of the fragment spell (`Stencil.readsInBody_of_lexemes`).
-/

namespace Stencil

open Script Source CodePoint Text

/-- The header of a block that is entered when the context holds anything. -/
def RenderLine.condition : Line where
  content := text "if ctx:"
  lexemes := [.keyword .ifWord, .name (text "ctx"), .symbol .colon]
  spells := by
    change LineSpells [] (text "if" ++ space :: (text "ctx" ++ [58]))
      (wordLexeme (text "if") :: wordLexeme (text "ctx") :: _)
    exact .word (by decide) (by decide) (.blank (.word (by decide) (by decide)
      (.mark (by decide) (by decide) rfl .done)))
  begins := by decide
  clean := by decide

/-- The headers of blocks one inside the other, from a depth on, and the first line of the innermost. -/
def enclosingLines (depth : Nat) : Nat → Text
  | 0 => RenderLine.skip.text depth
  | count + 1 => RenderLine.condition.text depth ++ enclosingLines (depth + 1) count

/-- A program of one function in which some blocks are open, with a fragment in the innermost. -/
def enclosed (depth : Nat) (fragment : Text) : Text :=
  RenderLine.head.text 0 ++ enclosingLines 1 depth ++ fragment

/-- Statements in the innermost of some blocks. -/
def nested : Nat → List Stmt → List Stmt
  | 0, statements => .pass :: statements
  | depth + 1, statements => [.ifBlock (.name (text "ctx")) (nested depth statements) []]

/-- **A fragment is read as some statements** in a function body in which some blocks are open. -/
def ReadsInBody (depth : Nat) (fragment : Text) (statements : List Stmt) : Prop :=
  readProgram (enclosed depth fragment) = .ok [renderDefinition (nested depth statements)]

variable {depth count extra : Nat} {found rest : List Lexeme} {statements : List Stmt}
  {fragment tail : Text}

/-- The lexemes of the lines in front of a fragment, behind the mark of the first block. -/
def enclosingLexemes : Nat → List Lexeme
  | 0 => RenderLine.skip.lexemes ++ [.lineEnd]
  | count + 1 => RenderLine.condition.lexemes ++ .lineEnd :: .indent :: enclosingLexemes count

/-- The headers of the blocks are scanned, and then what stands in the innermost. -/
theorem lexemesBehind_enclosingLines (room : depth + count + 1 < indentLimit) :
    lexemesBehind depth (enclosingLines (depth + 1) count ++ tail) =
      (lexemesBehind (depth + count + 1) tail).map fun behind =>
        .indent :: (enclosingLexemes count ++ behind) := by
  induction count generalizing depth with
  | zero =>
      rw [enclosingLines, Line.lexemesBehind_enter room]
      rfl
  | succ count ih =>
      have deeper : depth + (count + 1) + 1 = depth + 1 + count + 1 := by omega
      rw [enclosingLines, List.append_assoc, Line.lexemesBehind_enter (by omega), deeper,
        ih (by omega), Option.map_map]
      refine congrArg (Option.map · _) (funext fun behind => ?_)
      simp only [Function.comp_apply, enclosingLexemes, List.append_assoc, List.cons_append]

/-- The blocks are read one inside the other, around the statements in the innermost. -/
theorem statements_nested (reads : ∀ rest, ReadsStatements (Inner.ofDepth (extra + 1))
      (found ++ .dedent :: rest) statements (.dedent :: rest)) (count : Nat) :
    ∀ rest, (Inner.ofDepth (extra + 1 + count + 1)).statements
      (enclosingLexemes count ++ (found ++ List.replicate count .dedent ++ .dedent :: rest)) =
        some (nested count statements, .dedent :: rest) := by
  induction count with
  | zero =>
      intro rest
      rw [List.replicate_zero, List.append_nil, enclosingLexemes, List.append_assoc]
      have skipped : ReadsStatements (Inner.ofDepth (extra + 1))
          (.keyword .passWord :: .lineEnd :: (found ++ .dedent :: rest)) ([.pass] ++ statements)
          (.dedent :: rest) :=
        .more statement_pass (fun same => nomatch same) (Nat.le_succ _) (reads rest)
      exact statements_of_reads skipped (List.cons_ne_nil _ _) (.inr rfl)
  | succ count ih =>
      intro rest
      have split : enclosingLexemes (count + 1) ++
          (found ++ List.replicate (count + 1) .dedent ++ .dedent :: rest) =
          .keyword .ifWord :: .name (text "ctx") :: .symbol .colon :: .lineEnd :: .indent ::
            (enclosingLexemes count ++ (found ++ List.replicate count .dedent ++
              .dedent :: .dedent :: rest)) := by
        simp only [enclosingLexemes, RenderLine.condition, List.replicate_succ', List.append_assoc,
          List.cons_append, List.nil_append]
      have branch := @choiceBranch_of_expression _ (.name (text "ctx")) _ _ _ _ _ (by simp)
        (expression_name rfl rfl) (colonBlock_deeper (ih (.dedent :: rest)))
      have choice := statement_choice branch .none (Nat.zero_le _) (by simp)
        (elseBlock_none (by simp)) rfl
      rw [split]
      refine statements_of_reads (.more choice (fun same => nomatch same) ?_ .none)
        (List.cons_ne_nil _ _) (.inr rfl)
      simp only [List.length_cons, List.length_append]
      omega

/-- The lines in front of a fragment are no shorter than what is open there. -/
theorem length_enclosingLines (depth count : Nat) : count ≤ (enclosingLines depth count).length := by
  induction count generalizing depth with
  | zero => exact Nat.zero_le _
  | succ count ih =>
      have further := ih (depth + 1)
      rw [enclosingLines, List.length_append]
      have held : 0 < (RenderLine.condition.text depth).length := by
        rw [Line.text, List.length_append, List.length_singleton]
        omega
      omega

theorem isClean_enclosingLines (depth count : Nat) :
    ∀ point ∈ enclosingLines depth count, IsClean point := by
  induction count generalizing depth with
  | zero => exact fun point member => Outline.isClean_of_mem_line member
  | succ count ih =>
      rw [enclosingLines, List.forall_mem_append]
      exact ⟨fun point member => Outline.isClean_of_mem_line member, ih (depth + 1)⟩

theorem isClean_frame (depth : Nat) :
    ∀ point ∈ RenderLine.head.text 0 ++ enclosingLines 1 depth, IsClean point := by
  rw [List.forall_mem_append]
  exact ⟨fun point member => Outline.isClean_of_mem_line member, isClean_enclosingLines 1 depth⟩

theorem getLast?_enclosingLines (depth count : Nat) :
    (enclosingLines depth count).getLast? = some lineFeed := by
  induction count generalizing depth with
  | zero => exact List.getLast?_concat
  | succ count ih => rw [enclosingLines, List.getLast?_append, ih, Option.some_or]

/-- The lexemes of a fragment stand behind those of the blocks around it. -/
theorem lexemes_enclosed (room : depth + 1 < indentLimit)
    (scanned : lexemesBehind (depth + 1) (unifyLineEnds fragment) = some found) :
    Script.lexemes (enclosed depth fragment) = some (RenderLine.head.lexemes ++ .lineEnd :: .indent ::
      (enclosingLexemes depth ++ found)) := by
  have clean := isClean_frame depth
  have frame : ∀ tail, lexemesBehind (depth + 1) tail = some found →
      lexemesBehind 0 (RenderLine.head.text 0 ++ (enclosingLines 1 depth ++ tail)) =
        some (RenderLine.head.lexemes ++ .lineEnd :: .indent :: (enclosingLexemes depth ++ found)) := by
    intro tail isTail
    rw [Line.lexemesBehind_text, lexemesBehind_enclosingLines (by omega), Nat.zero_add, isTail]
    rfl
  unfold enclosed Script.lexemes
  cases fragment with
  | nil =>
      -- An empty fragment is as good as an empty line.
      obtain ⟨front, split⟩ := List.getLast?_eq_some_iff.mp (getLast?_enclosingLines 1 depth)
      have silent : lexemesBehind (depth + 1) [lineFeed] = lexemesBehind (depth + 1) [] :=
        (@isMargin_spaces 0).lexemesFrom_lineFeed
      have unified : unifyLineEnds (RenderLine.head.text 0 ++ enclosingLines 1 depth) =
          RenderLine.head.text 0 ++ enclosingLines 1 depth := by
        rw [split, ← List.append_assoc] at clean ⊢
        exact Outline.unifyLineEnds_of_clean fun point member => clean point (List.mem_append_left _ member)
      rw [List.append_nil, unified, ← List.append_nil (enclosingLines 1 depth)]
      exact frame [] (silent.symm.trans scanned)
  | cons first rest =>
      rw [unifyLineEnds_append (fun member => (clean _ member).2.1 rfl) (List.cons_ne_nil _ _),
        List.append_assoc]
      exact frame _ scanned

/-- **What the lexemes of a fragment spell is read in the body.** -/
theorem readsInBody_of_lexemes (room : depth + 1 < indentLimit)
    (clean : ∀ point ∈ fragment, point.isSurrogate = false ∧ point ≠ 0)
    (scanned : lexemesBehind (depth + 1) (unifyLineEnds fragment) =
      some (found ++ List.replicate (depth + 1) .dedent))
    (reads : ∀ extra rest, fragment.length ≤ extra →
      ReadsStatements (Inner.ofDepth (extra + 4)) (found ++ .dedent :: rest) statements
        (.dedent :: rest)) :
    ReadsInBody depth fragment statements := by
  have cleanFrame := isClean_frame depth
  have longer : fragment.length + depth + 8 ≤ (enclosed depth fragment).length := by
    have headers := length_enclosingLines 1 depth
    have head : 8 ≤ (RenderLine.head.text 0).length := by decide
    unfold enclosed
    rw [List.length_append, List.length_append]
    omega
  refine @readProgram_of_lexemes _ _ (RenderLine.head.lexemes ++ .lineEnd :: .indent ::
    (enclosingLexemes depth ++ (found ++ List.replicate depth .dedent ++ [.dedent]))) ?_ ?_ ?_
  · unfold enclosed
    rw [List.forall_mem_append]
    exact ⟨fun point member => ⟨(cleanFrame point member).2.2, (cleanFrame point member).1⟩, clean⟩
  · rw [lexemes_enclosed room scanned, List.replicate_succ', List.append_assoc]
  · rw [programOf?_eq_some (List.append_ne_nil_of_right_ne_nil _ (List.cons_ne_nil _ _))]
    obtain ⟨extra, isExtra⟩ : ∃ extra, (enclosed depth fragment).length + 4 =
        extra + 4 + depth + 1 := ⟨(enclosed depth fragment).length - depth - 1, by omega⟩
    have block := @statements_nested (extra + 3) found statements
      (fun rest => reads extra rest (by omega)) depth []
    rw [isExtra]
    exact statements_of_reads (.more (statement_function rfl rfl (colonBlock_deeper block))
      (fun same => nomatch same) (Nat.zero_le _) .none) (List.cons_ne_nil _ _) (.inl rfl)

/-- **What the lexemes of a body spell stands in the program around it**, in front of the line that
gives back what has been written. -/
theorem readProgram_body_of_lexemes (lines : BodyLines fragment)
    (clean : ∀ point ∈ fragment, point.isSurrogate = false ∧ point ≠ 0)
    (scanned : lexemesBehind 1 (unifyLineEnds fragment) = some (found ++ [.dedent]))
    (reads : ∀ extra rest, fragment.length ≤ extra → ReadsStatements (Inner.ofDepth (extra + 4))
      (found ++ .keyword .returnWord :: rest) statements (.keyword .returnWord :: rest)) :
    readProgram (prologue ++ fragment ++ epilogue) = .ok [renderDefinition
      (bufferStatement :: appendStatement :: (statements ++ [finishStatement]))] := by
  have cleanAround : ∀ point ∈ prologue ++ epilogue, point.isSurrogate = false ∧ point ≠ 0 := by
    decide
  have isFound : Script.lexemes (prologue ++ fragment ++ epilogue) =
      some (frontLexemes (found ++ (RenderLine.finish.lexemes ++ [.lineEnd] ++ [.dedent]))) := by
    have whole := @lexemes_prologue fragment [] List.not_mem_nil
    rw [List.append_nil, List.nil_append, lexemesBehind_epilogue lines scanned] at whole
    exact whole
  refine readProgram_of_lexemes ?_ isFound ?_
  · simp only [List.forall_mem_append] at cleanAround ⊢
    exact ⟨⟨cleanAround.1, clean⟩, cleanAround.2⟩
  · obtain ⟨extra, isExtra⟩ : ∃ extra, (prologue ++ fragment ++ epilogue).length + 4 =
        extra + 3 + 2 := ⟨(prologue ++ fragment ++ epilogue).length - 1, by
          have held : 1 ≤ prologue.length := by decide
          simp only [List.length_append]
          omega⟩
    have room : fragment.length ≤ extra := by
      have held : 1 ≤ prologue.length := by decide
      simp only [List.length_append] at isExtra
      omega
    rw [isExtra]
    have readsAll : ReadsStatements (Inner.ofDepth (extra + 4))
        (found ++ (RenderLine.finish.lexemes ++ [.lineEnd] ++ [.dedent]))
        (statements ++ [finishStatement]) [.dedent] :=
      (reads extra _ room).append (.more_line rfl statement_finish (by rintro ⟨⟩) .none)
    exact programOf?_frontLexemes readsAll .none

end Stencil
