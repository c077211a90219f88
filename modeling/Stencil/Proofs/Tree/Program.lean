import Stencil.Proofs.Script.StatementReader
import Stencil.Proofs.Script.WalkDepth
import Stencil.Proofs.Tree.Emission
import Stencil.Template.Compiled

/-! # The program that a block tree becomes

The lines of a block tree spell a program in which every loop and every choice of the tree is a
statement of its own (`Stencil.BlockTree.statements`). The render program stands around it: it
makes the list of what is written, takes variables from the context, and gives back what has
been written (`Stencil.RenderProgram.statements`).
-/

namespace Stencil

open Script Script.Reader Source CodePoint Text

/-- The statement that writes the value of an expression. -/
def writeStatement (written : Expr) : Stmt :=
  .expression (.call (.name (text "_append")) [written] [])

/-- The text of the value of a variable. -/
def writtenValue (shown : Variable) : Expr := .call (.name (text "_str")) [.name shown.name] []

mutual

/-- The statements of a tree. -/
def BlockTree.statements : BlockTree → List Stmt
  | .done => []
  | .literal content rest => writeStatement (.constant (.text content)) :: rest.statements
  | .output shown rest => writeStatement (writtenValue shown) :: rest.statements
  | .loop target source body rest =>
      .forLoop false (.name target.name) (.name source.name) (.pass :: body.statements) [] ::
        rest.statements
  | .choice test body others rest =>
      .ifBlock (.name test.name) (.pass :: body.statements) others.statements :: rest.statements

/-- The statements that the branches of a choice become, behind its first test. -/
def Branches.statements : Branches → List Stmt
  | .none => []
  | .otherwise body => .pass :: body.statements
  | .test test body others =>
      [.ifBlock (.name test.name) (.pass :: body.statements) others.statements]

end

section

variable {depth : Nat} {next : Lexeme} {rest : List Lexeme} {name : Name}

theorem statement_literal (content : Text) :
    statement (Inner.ofDepth (depth + 2))
        ((RenderLine.literal content).lexemes ++ .lineEnd :: rest) =
      some ([writeStatement (.constant (.text content))], rest) :=
  statement_expression (by decide) (by decide) (expression_call rfl rfl
    (fun isHead => nomatch isHead) (fun isHead => nomatch isHead) rfl
    (expression_text decodeText_quoted rfl))

theorem statement_output (shown : Variable) :
    statement (Inner.ofDepth (depth + 3))
        ((RenderLine.output shown).lexemes ++ .lineEnd :: rest) =
      some ([writeStatement (writtenValue shown)], rest) :=
  statement_expression (by decide) (by decide) (expression_call rfl rfl
    (fun isHead => nomatch isHead) (fun isHead => nomatch isHead) rfl (expression_call rfl rfl
      (fun isHead => nomatch isHead) (fun isHead => nomatch isHead) rfl
        (expression_name shown.spelledName_eq rfl)))

end

/-- No branch begins with the lines of a tree. -/
theorem BlockTree.endsChoice_lexemes (tree : BlockTree) {rest : List Lexeme}
    (ends : EndsChoice rest) : EndsChoice (tree.outline.lexemes ++ rest) := by
  cases tree with
  | done => exact ends
  | literal content below => exact endsChoice_cons (by decide)
  | output shown below => exact endsChoice_cons (by decide)
  | loop target source body below => exact endsChoice_cons (by decide)
  | choice test body others below => exact endsChoice_cons (by decide)

/-- The lexemes of a block that begins with an empty statement, and of what follows it. -/
def blockLexemes (body : BlockTree) (rest : List Lexeme) : List Lexeme :=
  RenderLine.skip.lexemes ++ .lineEnd :: (body.outline.lexemes ++ .dedent :: rest)

/-- The statements of a block that begins with an empty statement. -/
def blockStatements (body : BlockTree) : List Stmt := .pass :: body.statements

/-- A block is read when the statements in it are. -/
theorem statements_block {body : BlockTree} {depth : Nat} {rest : List Lexeme}
    (reads : ReadsStatements (Inner.ofDepth depth) (body.outline.lexemes ++ .dedent :: rest)
      body.statements (.dedent :: rest)) :
    (Inner.ofDepth (depth + 1)).statements (blockLexemes body rest) =
      some (blockStatements body, .dedent :: rest) := by
  have skipped : ReadsStatements (Inner.ofDepth depth) (blockLexemes body rest)
      ([.pass] ++ body.statements) (.dedent :: rest) :=
    .more statement_pass (fun same => nomatch same) (Nat.le_succ _) reads
  exact statements_of_reads skipped (List.cons_ne_nil _ _) (.inr rfl)

/-- What a further branch adds to the tests of a choice, as far as the reader is concerned: it
takes some steps, and the choice that results is the one with the branch's statements at its
end. -/
def ReadsBranches (depth : Nat) (others : Branches) (rest : List Lexeme) : Prop :=
  ∀ earlier : List (Expr × List Stmt), earlier ≠ [] → ∃ count found after otherwise,
    Steps (elifStep (Inner.ofDepth depth)) count earlier (others.outline.lexemes ++ rest) found
      after ∧
    count + rest.length ≤ (others.outline.lexemes ++ rest).length ∧
    after.head? ≠ some (.keyword .elifWord) ∧
    elseBlock (Inner.ofDepth depth) after = some (otherwise, rest) ∧
    nestedChoice found otherwise = nestedChoice earlier others.statements

mutual

/-- **The lexemes of a tree are read as its statements.** -/
theorem BlockTree.reads : ∀ (tree : BlockTree) (depth : Nat) (rest : List Lexeme),
    tree.levels + 3 ≤ depth → EndsChoice rest →
    ReadsStatements (Inner.ofDepth depth) (tree.outline.lexemes ++ rest) tree.statements rest
  | .done, _, _, _, _ => .none
  | .literal content below, depth, rest, room, ends => by
      obtain ⟨extra, rfl⟩ := Nat.exists_eq_add_of_le' (Nat.le_trans (Nat.le_add_left 3 _) room)
      have behind := below.reads (extra + 3) rest room ends
      rw [BlockTree.outline, Outline.lexemes, List.append_assoc, List.cons_append]
      exact .more_line rfl (statement_literal content) (fun same => nomatch same) behind
  | .output shown below, depth, rest, room, ends => by
      obtain ⟨extra, rfl⟩ := Nat.exists_eq_add_of_le' (Nat.le_trans (Nat.le_add_left 3 _) room)
      have behind := below.reads (extra + 3) rest room ends
      rw [BlockTree.outline, Outline.lexemes, List.append_assoc, List.cons_append]
      exact .more_line rfl (statement_output shown) (fun same => nomatch same) behind
  | .loop target source body below, depth, rest, room, ends => by
      rw [BlockTree.levels] at room
      -- The reader of a block is one level shallower than the one that reads its header.
      obtain ⟨extra, rfl⟩ : ∃ extra, depth = extra + 1 := ⟨depth - 1, by omega⟩
      obtain ⟨spare, rfl⟩ : ∃ spare, extra = spare + 1 := ⟨extra - 1, by omega⟩
      have behind := below.reads (spare + 1 + 1) rest (by omega) ends
      have inside := statements_block (body.reads (spare + 1) (.dedent ::
        (below.outline.lexemes ++ rest)) (by omega)
          (endsChoice_cons (by decide)))
      have whole : (BlockTree.loop target source body below).outline.lexemes ++ rest =
          (RenderLine.loop target source).lexemes ++ .lineEnd :: .indent ::
            blockLexemes body (below.outline.lexemes ++ rest) := by
        simp only [BlockTree.outline, Outline.lexemes, blockLexemes, List.append_assoc,
          List.cons_append]
      rw [whole]
      refine .more (forStatement_name ?_ (expression_name source.spelledName_eq rfl) (colonBlock_deeper inside)
        (elseBlock_none (below.endsChoice_lexemes ends).2)) (fun same => nomatch same) ?_ behind
      · exact primary_of_atom (atom_name target.spelledName_eq) rfl
      · simp only [blockLexemes, List.length_append, List.length_cons]
        omega
  | .choice test body others below, depth, rest, room, ends => by
      rw [BlockTree.levels] at room
      obtain ⟨extra, rfl⟩ : ∃ extra, depth = extra + 1 := ⟨depth - 1, by omega⟩
      obtain ⟨spare, rfl⟩ : ∃ spare, extra = spare + 1 := ⟨extra - 1, by omega⟩
      have behind := below.reads (spare + 1 + 1) rest (by omega) ends
      have inside := statements_block (body.reads (spare + 1) (.dedent ::
        (others.outline.lexemes ++ (below.outline.lexemes ++ rest))) (by omega)
          (endsChoice_cons (by decide)))
      obtain ⟨count, found, after, otherwise, steps, fits, noElif, readOtherwise, chosen⟩ :=
        others.reads (spare + 1 + 1) (below.outline.lexemes ++ rest) (by omega)
          (below.endsChoice_lexemes ends) [(.name test.name, blockStatements body)]
          (List.cons_ne_nil _ _)
      have whole : (BlockTree.choice test body others below).outline.lexemes ++ rest =
          (RenderLine.choice test).lexemes ++ .lineEnd :: .indent ::
            blockLexemes body (others.outline.lexemes ++ (below.outline.lexemes ++ rest)) := by
        simp only [BlockTree.outline, Outline.lexemes, Outline.lexemes_append, blockLexemes,
          List.append_assoc, List.cons_append]
      rw [whole]
      refine .more (statement_choice (choiceBranch_of_expression ?_ (expression_name test.spelledName_eq rfl)
        (colonBlock_deeper inside)) steps (Nat.le_of_add_right_le fits) noElif readOtherwise
        chosen) (fun same => nomatch same) ?_ behind
      · exact fun isHead => nomatch isHead
      · simp only [blockLexemes, List.length_append, List.length_cons]
        omega

theorem Branches.reads : ∀ (others : Branches) (depth : Nat) (rest : List Lexeme),
    others.levels + 3 ≤ depth → EndsChoice rest → ReadsBranches depth others rest
  | .none, depth, rest, _, ends => by
      intro earlier _
      exact ⟨0, earlier, rest, [], .none, Nat.le_of_eq (Nat.zero_add _), ends.1,
        elseBlock_none ends.2, rfl⟩
  | .otherwise body, depth, rest, room, ends => by
      intro earlier _
      rw [Branches.levels] at room
      obtain ⟨extra, rfl⟩ : ∃ extra, depth = extra + 1 := ⟨depth - 1, by omega⟩
      have inside := statements_block (body.reads extra (.dedent :: rest) (by omega)
        (endsChoice_cons (by decide)))
      have whole : (Branches.otherwise body).outline.lexemes ++ rest =
          RenderLine.otherwise.lexemes ++ .lineEnd :: .indent :: blockLexemes body rest := by
        simp only [Branches.outline, Outline.lexemes, blockLexemes, List.append_assoc,
          List.cons_append, List.nil_append]
      rw [whole]
      refine ⟨0, earlier, _, blockStatements body, .none, ?_, (fun isHead => nomatch isHead),
        elseBlock_deeper inside, rfl⟩
      simp only [blockLexemes, List.length_append, List.length_cons, RenderLine.otherwise]
      omega
  | .test test body others, depth, rest, room, ends => by
      intro earlier held
      rw [Branches.levels] at room
      obtain ⟨extra, rfl⟩ : ∃ extra, depth = extra + 1 := ⟨depth - 1, by omega⟩
      have inside := statements_block (body.reads extra (.dedent ::
        (others.outline.lexemes ++ rest)) (by omega)
          (endsChoice_cons (by decide)))
      obtain ⟨count, found, after, otherwise, steps, fits, noElif, readOtherwise, chosen⟩ :=
        others.reads (extra + 1) rest (by omega) ends
          ((.name test.name, blockStatements body) :: earlier) (List.cons_ne_nil _ _)
      have whole : (Branches.test test body others).outline.lexemes ++ rest =
          (RenderLine.branch test).lexemes ++ .lineEnd :: .indent ::
            blockLexemes body (others.outline.lexemes ++ rest) := by
        simp only [Branches.outline, Outline.lexemes, blockLexemes, List.append_assoc,
          List.cons_append]
      rw [whole]
      refine ⟨count + 1, found, after, otherwise, .more (elifStep_branch
        (choiceBranch_of_expression (fun isHead => nomatch isHead)
          (expression_name test.spelledName_eq rfl)
          (colonBlock_deeper inside))) steps, ?_, noElif, readOtherwise, ?_⟩
      · simp only [blockLexemes, List.length_append, List.length_cons, RenderLine.branch] at fits ⊢
        omega
      · rw [chosen, nestedChoice_cons held]
        rfl

end

mutual

/-- A walk over the statements of a tree takes two calls for each header that they stand below, and a
few in the innermost statement. -/
theorem BlockTree.stmtsDepth_statements : ∀ tree : BlockTree,
    2 * tree.nesting ≤ stmtsDepth tree.statements ∧
      stmtsDepth tree.statements ≤ 2 * tree.nesting + 9
  | .done => ⟨Nat.le_refl 0, Nat.zero_le _⟩
  | .literal content rest => by
      have line : (writeStatement (.constant (.text content))).walkDepth = 8 := rfl
      have ih := rest.stmtsDepth_statements
      simp only [BlockTree.nesting, BlockTree.statements, stmtsDepth, line]
      omega
  | .output shown rest => by
      have line : (writeStatement (writtenValue shown)).walkDepth = 9 := rfl
      have ih := rest.stmtsDepth_statements
      simp only [BlockTree.nesting, BlockTree.statements, stmtsDepth, line]
      omega
  | .loop target source body rest => by
      have ihBody := body.stmtsDepth_statements
      have ih := rest.stmtsDepth_statements
      simp only [BlockTree.nesting, BlockTree.statements, stmtsDepth, Stmt.walkDepth,
        Target.walkDepth, Expr.walkDepth, visit, leafDepth]
      omega
  | .choice test body others rest => by
      have ihBody := body.stmtsDepth_statements
      have ihOthers := others.stmtsDepth_statements
      have ih := rest.stmtsDepth_statements
      simp only [BlockTree.nesting, BlockTree.statements, stmtsDepth, Stmt.walkDepth,
        Expr.walkDepth, visit, leafDepth]
      omega

theorem Branches.stmtsDepth_statements : ∀ others : Branches,
    2 * others.nesting ≤ stmtsDepth others.statements ∧
      stmtsDepth others.statements ≤ 2 * others.nesting + 9
  | .none => ⟨Nat.le_refl 0, Nat.zero_le _⟩
  | .otherwise body => by
      have ih := body.stmtsDepth_statements
      simp only [Branches.nesting, Branches.statements, stmtsDepth, Stmt.walkDepth, leafDepth]
      omega
  | .test test body others => by
      have ihBody := body.stmtsDepth_statements
      have ihOthers := others.stmtsDepth_statements
      simp only [Branches.nesting, Branches.statements, stmtsDepth, Stmt.walkDepth,
        Expr.walkDepth, visit, leafDepth]
      omega

end

/-- The statement that takes the value of a variable from the context. -/
def bindStatement (bound : Variable) : Stmt :=
  .ifBlock (.compared (.constant (.text bound.name)) [.within] [.name (text "ctx")])
    [.assign [.name bound.name]
      (.subscript (.name (text "ctx")) (.constant (.text bound.name)))] []

theorem statement_binding {depth : Nat} {rest : List Lexeme} (bound : Variable)
    (ends : EndsChoice rest) :
    statement (Inner.ofDepth (depth + 2)) ((RenderLine.binding bound).lexemes ++
      .lineEnd :: rest) = some ([bindStatement bound], rest) := by
  have read := @statement_fetch bound.name depth rest bound.isName bound.ofText?_eq_none ends
  rw [show (RenderLine.fetch bound.isName).lexemes = (RenderLine.binding bound).lexemes by
    change RenderLine.fetchLexemes _ _ = RenderLine.fetchLexemes _ _
    rw [wordLexeme_name bound.ofText?_eq_none]] at read
  exact read

namespace RenderProgram

/-- The lines that take variables from the context, above other lines. -/
def bindingLines : List Variable → Outline → Outline
  | [], below => below
  | first :: others, below => .line (RenderLine.binding first) (bindingLines others below)

/-- The lines below the header and the first line of the render function. -/
def bodyOutline (bound : List Variable) (tree : BlockTree) : Outline :=
  .line RenderLine.append (bindingLines bound (tree.outline.append (.line RenderLine.finish .done)))

/-- The lines of a render program. -/
def outline (bound : List Variable) (tree : BlockTree) : Outline :=
  .block RenderLine.head RenderLine.buffer (bodyOutline bound tree) .done

/-- The statements of the render function. -/
def statements (bound : List Variable) (tree : BlockTree) : List Stmt :=
  .assign [.name (text "_buf")] (.list []) ::
    .assign [.name (text "_append")] (.attribute (.name (text "_buf")) (text "append")) ::
    (bound.map bindStatement ++ (tree.statements ++
      [.returnValue (some (.call (.attribute (.constant (.text [])) (text "join"))
        [.name (text "_buf")] []))]))

/-- The render program of a tree that takes some variables from the context. -/
def program (bound : List Variable) (tree : BlockTree) : Program :=
  [.functionDef false (text "render") [.mk .ordinary (text "ctx") none none] none []
    (statements bound tree)]

variable {bound : List Variable} {tree : BlockTree}

/-- The lines that take variables from the context stand at the depth of the lines below. -/
theorem text_bindingLines {below : Outline} : (bindingLines bound below).text 1 =
    (bound.map Variable.name).flatMap bindingLine ++ below.text 1 := by
  induction bound with
  | nil => rfl
  | cons first others ih =>
      have line : bindingLine first.name = (RenderLine.binding first).text 1 := by
        rw [← bodyLine_eq_text, bindingLine, first.isPublicName_eq_false]
        rfl
      rw [bindingLines, Outline.text, ih, List.map_cons, List.flatMap_cons, line,
        List.append_assoc]

theorem levels_bindingLines {below : Outline} :
    (bindingLines bound below).levels = below.levels := by
  induction bound with
  | nil => rfl
  | cons first others ih => rw [bindingLines, Outline.levels, ih]

/-- The lines of a render program are one level deeper than its tree. -/
theorem levels_outline : (outline bound tree).levels = tree.levels + 1 := by
  simp only [outline, bodyOutline, Outline.levels, levels_bindingLines, Outline.levels_append,
    tree.levels_outline, Nat.max_zero]

/-- **The render program is the text of its lines.** -/
theorem text_outline : prologue ++ (bound.map Variable.name).flatMap bindingLine ++
    tree.outline.text 1 ++ epilogue = (outline bound tree).text 0 := by
  simp only [outline, bodyOutline, Outline.text, text_bindingLines, Outline.text_append,
    prologue_eq, epilogue_eq, List.append_assoc, List.append_nil, Nat.zero_add]

/-- The statements behind those that take variables from the context. -/
theorem reads_bindingLines {depth : Nat} {below : Outline} {found : List Stmt}
    {rest : List Lexeme} (ends : EndsChoice (below.lexemes ++ rest))
    (reads : ReadsStatements (Inner.ofDepth (depth + 2)) (below.lexemes ++ rest) found rest) :
    ReadsStatements (Inner.ofDepth (depth + 2)) ((bindingLines bound below).lexemes ++ rest)
      (bound.map bindStatement ++ found) rest := by
  have both : EndsChoice ((bindingLines bound below).lexemes ++ rest) ∧
      ReadsStatements (Inner.ofDepth (depth + 2)) ((bindingLines bound below).lexemes ++ rest)
        (bound.map bindStatement ++ found) rest := by
    induction bound with
    | nil => exact ⟨ends, reads⟩
    | cons first others ih =>
        refine ⟨endsChoice_cons (by decide), ?_⟩
        rw [bindingLines, Outline.lexemes, List.append_assoc, List.cons_append]
        change ReadsStatements _ _ ([bindStatement first] ++
          (others.map bindStatement ++ found)) rest
        exact .more_line rfl (statement_binding first ih.1) (fun same => nomatch same) ih.2
  exact both.2

/-- The lexemes of the render function's body are read as its statements. -/
theorem statements_body {depth : Nat} {rest : List Lexeme} (room : tree.levels + 3 ≤ depth) :
    (Inner.ofDepth (depth + 1)).statements (RenderLine.buffer.lexemes ++ .lineEnd ::
      ((bodyOutline bound tree).lexemes ++ .dedent :: rest)) =
      some (statements bound tree, .dedent :: rest) := by
  obtain ⟨extra, rfl⟩ := Nat.exists_eq_add_of_le' (Nat.le_trans (Nat.le_add_left 3 _) room)
  have finish : ReadsStatements (Inner.ofDepth (extra + 3)) (RenderLine.finish.lexemes ++
      .lineEnd :: .dedent :: rest) ([finishStatement] ++ []) (.dedent :: rest) :=
    .more_line rfl statement_finish (fun same => nomatch same) .none
  have ends : EndsChoice (RenderLine.finish.lexemes ++ .lineEnd :: .dedent :: rest) :=
    endsChoice_cons (by decide)
  have inside : ReadsStatements (Inner.ofDepth (extra + 3))
      ((tree.outline.append (.line RenderLine.finish .done)).lexemes ++ .dedent :: rest)
      (tree.statements ++ ([finishStatement] ++ [])) (.dedent :: rest) := by
    rw [Outline.lexemes_append, List.append_assoc, Outline.lexemes, Outline.lexemes,
      List.append_assoc, List.cons_append, List.nil_append]
    exact (tree.reads _ _ room ends).append finish
  have endsInside : EndsChoice ((tree.outline.append (.line RenderLine.finish .done)).lexemes ++
      .dedent :: rest) := by
    rw [Outline.lexemes_append, List.append_assoc]
    exact tree.endsChoice_lexemes (endsChoice_cons (by decide))
  have behind : ReadsStatements (Inner.ofDepth (extra + 3))
      ((bodyOutline bound tree).lexemes ++ .dedent :: rest)
      ([appendStatement] ++ (bound.map bindStatement ++ (tree.statements ++
        ([finishStatement] ++ [])))) (.dedent :: rest) := by
    rw [bodyOutline, Outline.lexemes, List.append_assoc, List.cons_append]
    exact .more_line rfl statement_append (fun same => nomatch same)
      (reads_bindingLines endsInside inside)
  exact statements_of_reads (.more_line rfl statement_buffer (fun same => nomatch same) behind)
    (List.cons_ne_nil _ _) (.inr rfl)

/-- An outline has no more levels than its text has code points. -/
theorem levels_le_length {below : Outline} {depth : Nat} :
    below.levels ≤ (below.text depth).length := by
  induction below generalizing depth with
  | done => exact Nat.zero_le _
  | line content rest ih =>
      rw [Outline.levels, Outline.text, List.length_append]
      exact Nat.le_trans ih (Nat.le_add_left _ _)
  | block header first body rest ihBody ihRest =>
      have deeper : body.levels ≤ (body.text (depth + 1)).length := ihBody
      have below : rest.levels ≤ (rest.text depth).length := ihRest
      rw [Outline.levels, Outline.text]
      simp only [List.length_append, Line.text, List.length_singleton]
      omega

/-- The walk over the render program of a tree goes as deep as the walk over its statements, or a
little deeper for the statement that gives back what has been written. -/
theorem programDepth_program : 2 * tree.nesting ≤ programDepth (program [] tree) ∧
    programDepth (program [] tree) ≤ 2 * tree.nesting + 10 := by
  have bounds := tree.stmtsDepth_statements
  have whole : programDepth (program [] tree) =
      max (max 7 (max 7 (stmtsDepth (tree.statements ++ [finishStatement])))) 0 := by
    change max (max 6 (max 7 (max 7 (stmtsDepth (tree.statements ++ [finishStatement]))))) 0 = _
    omega
  have finish : stmtsDepth [finishStatement] = 10 := rfl
  rw [whole, stmtsDepth_append, finish]
  omega

/-- **The text of a render program is read as the program.** -/
theorem readProgram_outline (room : tree.levels + 1 < indentLimit) :
    readProgram ((outline bound tree).text 0) = .ok (program bound tree) := by
  have deep : tree.levels + 1 ≤ ((outline bound tree).text 0).length := by
    rw [← levels_outline]
    exact levels_le_length
  refine Outline.readProgram_text (fun same => nomatch same) (levels_outline ▸ room) ?_
  generalize ((outline bound tree).text 0).length = length at deep
  have defined : ReadsStatements (Inner.ofDepth (length + 4)) (outline bound tree).lexemes
      (program bound tree ++ []) [] := by
    have body : (Inner.ofDepth (length + 4)).statements (RenderLine.buffer.lexemes ++
        .lineEnd :: ((bodyOutline bound tree).lexemes ++ .dedent :: [])) =
        some (statements bound tree, .dedent :: []) := statements_body (by omega)
    refine .more (statement_function rfl rfl (colonBlock_deeper body)) (fun same => nomatch same)
      (Nat.zero_le _) .none
  have read : Script.statements (Inner.ofDepth (length + 4)) (outline bound tree).lexemes =
      some (program bound tree ++ [], []) :=
    statements_of_reads defined (List.cons_ne_nil _ _) (.inl rfl)
  rw [List.append_nil] at read
  exact (programOf?_eq_some (List.cons_ne_nil _ _)).mpr read

end RenderProgram

end Stencil
