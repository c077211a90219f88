import Stencil.Proofs.Script.BlockReader
import Stencil.Proofs.Script.DeepLines
import Stencil.Proofs.Source.FrameLines

/-! # Reading the lines around a body

A program that begins with the lines before a body is the definition of the render function, and
what stands behind these lines is read statement by statement
(`Stencil.programOf?_frontLexemes_iff`). Where nothing leaves the body before its last line, the
definition is all of the program and that line is its last statement
(`Stencil.exists_renderDefinition`).
-/

namespace Stencil

open Script Script.Reader Source CodePoint Text

/-- The lexemes of the lines before a body, with those behind them. -/
def frontLexemes (rest : List Lexeme) : List Lexeme :=
  RenderLine.head.lexemes ++ .lineEnd :: .indent :: (RenderLine.buffer.lexemes ++ .lineEnd ::
    (RenderLine.append.lexemes ++ .lineEnd :: rest))

variable {depth : Nat} {lexemes rest behind : List Lexeme} {program : Program} {body : List Stmt}

/-- All readers that are deep enough for some lexemes are alike on them. -/
theorem alike_self (fits : weight lexemes < depth) :
    (Inner.ofDepth depth).Alike (weight lexemes) (Inner.ofDepth depth) :=
  Inner.alike_ofDepth _ _ _ fits fits

/-- One statement comes first. -/
theorem Script.ReadsStatements.exists_first {inner : Inner}
    (reads : ReadsStatements inner lexemes body rest) (longer : lexemes ≠ rest) :
    ∃ found others behind, body = found ++ others ∧
      statement inner lexemes = some (found, behind) ∧ ReadsStatements inner behind others rest := by
  cases reads with
  | none => exact (longer rfl).elim
  | more read _ _ reads => exact ⟨_, _, _, rfl, read, reads⟩

/-- A statement whose answer is known comes first. -/
theorem Script.ReadsStatements.exists_behind {inner : Inner} {found : List Stmt}
    (reads : ReadsStatements inner lexemes body rest) (longer : lexemes ≠ rest)
    (known : statement inner lexemes = some (found, behind)) :
    ∃ others, body = found ++ others ∧ ReadsStatements inner behind others rest := by
  obtain ⟨_, others, _, rfl, read, readsOthers⟩ := reads.exists_first longer
  rw [known] at read
  cases read
  exact ⟨others, rfl, readsOthers⟩

/-- The lines before a body are read as their statements. -/
theorem reads_front_iff :
    ReadsStatements (Inner.ofDepth (depth + 1)) (RenderLine.buffer.lexemes ++ .lineEnd ::
      (RenderLine.append.lexemes ++ .lineEnd :: rest)) body (.dedent :: behind) ↔
    ∃ others, body = bufferStatement :: appendStatement :: others ∧
      ReadsStatements (Inner.ofDepth (depth + 1)) rest others (.dedent :: behind) := by
  constructor
  · intro reads
    obtain ⟨_, rfl, behindFirst⟩ := reads.exists_behind (fun same => nomatch same) statement_buffer
    obtain ⟨others, rfl, behindSecond⟩ :=
      behindFirst.exists_behind (fun same => nomatch same) statement_append
    exact ⟨others, rfl, behindSecond⟩
  · rintro ⟨others, rfl, reads⟩
    exact .more_line rfl statement_buffer (fun same => nomatch same)
      (.more_line rfl statement_append (fun same => nomatch same) reads)

/-- The lines in the body of the function are part of the program. -/
theorem inside_frontLexemes (fits : weight (frontLexemes rest) < depth)
    (words : HasWords (frontLexemes rest)) :
    weight (RenderLine.buffer.lexemes ++ .lineEnd ::
      (RenderLine.append.lexemes ++ .lineEnd :: rest)) < depth ∧
    HasWords (RenderLine.buffer.lexemes ++ .lineEnd ::
      (RenderLine.append.lexemes ++ .lineEnd :: rest)) := by
  unfold frontLexemes at fits words
  rw [weight_append, weight_cons, weight_cons] at fits
  exact ⟨by omega, (hasWords_append.mp words).2.tail.tail⟩

/-- **A program that begins with the lines before a body is a render function** with the statements
behind those lines, and what stands behind the function. -/
theorem exists_of_frontLexemes (fits : weight (frontLexemes rest) < depth + 1)
    (words : HasWords (frontLexemes rest))
    (read : programOf? (depth + 2) (frontLexemes rest) = some program) :
    ∃ body others behind,
      program = renderDefinition (bufferStatement :: appendStatement :: body) :: others ∧
      ReadsStatements (Inner.ofDepth (depth + 1)) rest body (.dedent :: behind) ∧
      ReadsStatements (Inner.ofDepth (depth + 2)) behind others [] := by
  have isRead : Script.statements (Inner.ofDepth (depth + 2)) (frontLexemes rest) =
      some (program, []) := (programOf?_eq_some (List.cons_ne_nil _ _)).mp read
  obtain ⟨reads, -⟩ := ReadsStatements.of_statements (alike_self (Nat.lt_succ_of_lt fits))
    (Nat.le_refl _) words isRead
  obtain ⟨_, others, behind, rfl, readFirst, readsOthers⟩ :=
    reads.exists_first (fun same => nomatch same)
  have asBlock := readFirst.symm.trans (statement_function_eq rfl rfl)
  obtain ⟨⟨body, last⟩, inside, same⟩ := Option.map_eq_some_iff.mp asBlock.symm
  cases same
  have insideRead : Script.statements (Inner.ofDepth (depth + 1)) (RenderLine.buffer.lexemes ++
      .lineEnd :: (RenderLine.append.lexemes ++ .lineEnd :: rest)) = some (body, .dedent :: last) :=
    statements_of_colonBlock inside
  obtain ⟨fitsInside, wordsInside⟩ := inside_frontLexemes fits words
  obtain ⟨readsInside, -⟩ := ReadsStatements.of_statements (alike_self fitsInside)
    (Nat.le_refl _) wordsInside insideRead
  obtain ⟨behindFront, rfl, readsBehind⟩ := reads_front_iff.mp readsInside
  exact ⟨behindFront, others, last, rfl, readsBehind, readsOthers⟩

/-- A render function with more statements is read behind the lines before a body. -/
theorem programOf?_frontLexemes {others : List Stmt}
    (reads : ReadsStatements (Inner.ofDepth (depth + 1)) rest body (.dedent :: behind))
    (readsOthers : ReadsStatements (Inner.ofDepth (depth + 2)) behind others []) :
    programOf? (depth + 2) (frontLexemes rest) =
      some (renderDefinition (bufferStatement :: appendStatement :: body) :: others) := by
  have inside : (Inner.ofDepth (depth + 2)).statements (RenderLine.buffer.lexemes ++ .lineEnd ::
      (RenderLine.append.lexemes ++ .lineEnd :: rest)) =
      some (bufferStatement :: appendStatement :: body, .dedent :: behind) :=
    statements_of_reads (reads_front_iff.mpr ⟨body, rfl, reads⟩) (List.cons_ne_nil _ _) (.inr rfl)
  have whole : ReadsStatements (Inner.ofDepth (depth + 2)) (frontLexemes rest)
      ([renderDefinition (bufferStatement :: appendStatement :: body)] ++ others) [] := by
    refine .more (statement_function rfl rfl (colonBlock_deeper inside)) (fun same => nomatch same) ?_
      readsOthers
    have shorter := reads.length_le
    simp only [List.append_eq, List.length_append, List.length_cons] at shorter ⊢
    omega
  have isRead : Script.statements (Inner.ofDepth (depth + 2)) (frontLexemes rest) =
      some (renderDefinition (bufferStatement :: appendStatement :: body) :: others, []) :=
    statements_of_reads whole (List.cons_ne_nil _ _) (.inl rfl)
  exact (programOf?_eq_some (List.cons_ne_nil _ _)).mpr isRead

/-- **Where nothing leaves the body before its last line, the program is the render function**, and
that line is its last statement. -/
theorem exists_renderDefinition {front : List Lexeme} (fits : weight (frontLexemes lexemes) < depth + 1)
    (words : HasWords (frontLexemes lexemes))
    (split : lexemes = front ++ (RenderLine.finish.lexemes ++ [.lineEnd]) ++ [.dedent])
    (stays : level 0 front = some 0) (ends : ∀ last ∈ front.getLast?, last.endsPart)
    (read : programOf? (depth + 2) (frontLexemes lexemes) = some program) :
    ∃ body, program = [renderDefinition
      (bufferStatement :: appendStatement :: (body ++ [finishStatement]))] := by
  obtain ⟨body, others, behind, rfl, reads, readsOthers⟩ := exists_of_frontLexemes fits words read
  obtain ⟨fitsInside, wordsInside⟩ := inside_frontLexemes fits words
  have fitsLexemes : weight lexemes < depth + 1 := by
    rw [weight_append, weight_cons, weight_append, weight_cons] at fitsInside
    omega
  have wordsLexemes : HasWords lexemes :=
    (hasWords_append.mp (hasWords_append.mp wordsInside).2.tail).2.tail
  have alike := alike_self fitsLexemes
  obtain ⟨taken, splitTaken, block⟩ := reads.exists_laidBlock alike (Nat.le_refl _) wordsLexemes
  have finishInline : Inline RenderLine.finish.lexemes := by
    unfold Inline
    decide
  have whole : level 0 (front ++ (RenderLine.finish.lexemes ++ [.lineEnd])) = some 0 := by
    rw [level_append, stays, Option.bind_some, level_append, finishInline.level_eq,
      Option.bind_some]
    rfl
  obtain ⟨-, rfl⟩ := eq_of_level_eq whole block.level_eq (split ▸ splitTaken)
  obtain rfl := readsOthers.eq_nil_of_length_le (Nat.le_refl _)
  obtain ⟨earlier, last, rfl, readLast⟩ := reads.exists_last alike (Nat.le_refl _) wordsLexemes
    split finishInline rfl ends
  have deep : depth ≠ 0 := by
    rintro rfl
    unfold frontLexemes at fits
    rw [weight_append] at fits
    have heads : weight RenderLine.head.lexemes = 6 := rfl
    omega
  obtain ⟨extra, rfl⟩ := Nat.exists_eq_succ_of_ne_zero deep
  have known : statement (Inner.ofDepth (extra + 2))
      (RenderLine.finish.lexemes ++ .lineEnd :: [.dedent]) =
      some ([finishStatement], [.dedent]) := statement_finish
  have same := readLast.symm.trans known
  cases same
  exact ⟨earlier, rfl⟩

end Stencil
