import Stencil.Proofs.Script.LoneLine
import Stencil.Proofs.Source.BodyLines
import Stencil.Proofs.Source.FragmentLines
import Stencil.Proofs.Source.FrameReader

/-! # The shape of a render program

The lines of a body leave no string, no bracket and no line open that the line behind them would
close or go on with. So the scanner reads the lines before the body, then lexemes that leave the
body of the function open, and then the line that gives back what has been written
(`Stencil.exists_of_lexemes`). Hence a program whose body is made of such lines is one definition of
the render function, and its last statement gives back what has been written
(`Stencil.exists_program_eq`). The names that a program reads are words
(`Stencil.isName_of_mem_referenced`), so the lines that take them from the context are lines of the
body as well (`Stencil.bodyLines_bindings`).
-/

namespace Stencil

open Script Script.Reader Source CodePoint Text

variable {kept : List Column} {rest body : Text} {line : Line} {found : List Lexeme}
  {source : Text} {program : Program} {name : Name}

/-- A line of the body leaves the blocks inside the body. -/
theorem leaveBlocks_deeper (deeper : AllDeeper kept) :
    leaveBlocks ⟨4, 4⟩ (kept ++ levelStack 1) = some (kept.length, levelStack 1) := by
  induction kept with
  | nil => rfl
  | cons innermost kept ih =>
      obtain ⟨first, others⟩ := List.forall_mem_cons.mp deeper
      rw [List.cons_append, leaveBlocks, if_pos (by exact first), ih others]
      rfl

theorem changeBlocks_deeper (deeper : AllDeeper kept) :
    changeBlocks ⟨4, 4⟩ (kept ++ levelStack 1) =
      some (List.replicate kept.length .dedent, levelStack 1) := by
  have left := leaveBlocks_deeper deeper
  cases kept with
  | nil => rfl
  | cons innermost kept =>
      have shallow : ¬ innermost.wide < 4 := by
        have deep := deeper innermost List.mem_cons_self
        omega
      rw [List.cons_append] at left ⊢
      rw [changeBlocks]
      dsimp only
      rw [if_neg shallow, left]
      rfl

/-- A line of the body leaves the blocks inside the body, and then its lexemes are read. -/
theorem lexemesFrom_deeper (deeper : AllDeeper kept) :
    lexemesFrom (kept ++ levelStack 1) [] true (line.text 1 ++ rest) =
      (lexemesBehind 1 rest).map fun behind =>
        List.replicate kept.length .dedent ++ (line.lexemes ++ .lineEnd :: behind) := by
  have whole : line.text 1 = lineAt 1 line.content := rfl
  rw [whole, line.isLogicalLine.lexemesFrom_lineAt, changeBlocks_deeper deeper, Option.bind_some]
  rfl

/-- The line behind the body ends nothing that is open in front of it. -/
theorem withholds_epilogue : Withholds epilogue where
  noLong := by
    intro mark quotes
    simp only [isQuotationMark, Bool.or_eq_true, beq_iff_eq] at quotes
    rcases quotes with rfl | rfl <;> decide
  noBracket := by
    intro blocks awaited held
    have spells : LineSpells [] (RenderLine.finish.content) RenderLine.finish.lexemes :=
      RenderLine.finish.spells
    have open_ := spells.blank.blank.blank.blank.lexemesFrom_eq_none held blocks
    exact open_

theorem deepLines_epilogue : DeepLines epilogue := by
  unfold epilogue bodyLine
  exact deepLines_of_plain (isDeep_indentAt (by decide)) (by decide)

theorem lexemesFrom_epilogue (deeper : AllDeeper kept) :
    lexemesFrom (kept ++ levelStack 1) [] true epilogue =
      some (List.replicate kept.length .dedent ++
        (RenderLine.finish.lexemes ++ [.lineEnd] ++ [.dedent])) := by
  have whole : epilogue = RenderLine.finish.text 1 ++ [] := by rw [epilogue_eq, List.append_nil]
  rw [whole, lexemesFrom_deeper deeper, lexemesBehind_nil, Option.map_some, List.append_assoc _ [_]]
  rfl

/-- **The line that gives back what has been written is scanned behind the lines of a body** that are
scanned by themselves. -/
theorem lexemesBehind_epilogue (lines : BodyLines body)
    (scanned : lexemesBehind 1 (unifyLineEnds body) = some (found ++ [.dedent])) :
    lexemesBehind 1 (unifyLineEnds (body ++ epilogue)) =
      some (found ++ (RenderLine.finish.lexemes ++ [.lineEnd] ++ [.dedent])) := by
  have none : AllDeeper [] := fun _ member => nomatch member
  have held : epilogue ≠ [] := by decide
  have last : unifyLineEnds epilogue = epilogue := by decide
  rcases lines with rfl | ⟨isLast, deep, ends⟩
  · have silent : lexemesBehind 1 [lineFeed] = lexemesBehind 1 [] :=
      (@isMargin_spaces 0).lexemesFrom_lineFeed
    have empty : found ++ [.dedent] = [] ++ [.dedent] :=
      Option.some.inj (scanned.symm.trans (silent.trans lexemesBehind_nil))
    rw [List.append_cancel_right empty, List.nil_append, last]
    exact lexemesFrom_epilogue none
  · obtain ⟨lines, rfl⟩ := List.getLast?_eq_some_iff.mp isLast
    obtain ⟨front, kept, split, deeper, reads⟩ :=
      exists_lexemesFrom_append ends deep.later none (fun _ => deep.starts) scanned
    have isFound : found = front ++ List.replicate kept.length .dedent := by
      rw [List.replicate_succ', ← List.append_assoc] at split
      exact List.append_cancel_right split
    have both : unifyLineEnds (lines ++ [lineFeed] ++ epilogue) =
        unifyLineEnds (lines ++ [lineFeed]) ++ epilogue := by
      rw [List.append_assoc, List.singleton_append, unifyLineEnds_lineFeed held, last]
    have whole := reads epilogue
    rw [lexemesFrom_epilogue deeper, Option.map_some, ← List.append_assoc, ← isFound] at whole
    rw [both]
    exact whole

theorem lexemesBehind_prologue :
    lexemesBehind 0 (prologue ++ rest) = (lexemesBehind 1 rest).map frontLexemes := by
  rw [prologue_eq, List.append_assoc, List.append_assoc, Line.lexemesBehind_text,
    Line.lexemesBehind_enter (by decide), Line.lexemesBehind_text, Option.map_map, Option.map_map]
  rfl

/-- The lines of a body, with the line ends that the scanner sees. -/
theorem exists_unifyLineEnds_body (lines : BodyLines body) :
    ∃ unified, unifyLineEnds (prologue ++ body ++ epilogue) = prologue ++ (unified ++ epilogue) ∧
      (unified = [] ∨ DeepLines unified ∧ EndsLine unified) := by
  have plain : carriageReturn ∉ prologue := by decide
  have held : epilogue ≠ [] := by decide
  have last : unifyLineEnds epilogue = epilogue := by decide
  rw [List.append_assoc, unifyLineEnds_append plain (List.append_ne_nil_of_right_ne_nil body held)]
  rcases lines with rfl | ⟨isLast, deep, ends⟩
  · exact ⟨[], by rw [List.nil_append, last], .inl rfl⟩
  · obtain ⟨front, rfl⟩ := List.getLast?_eq_some_iff.mp isLast
    refine ⟨_, ?_, .inr ⟨deep, ends⟩⟩
    rw [List.append_assoc front, List.singleton_append, unifyLineEnds_lineFeed held, last]

/-- **The lines of a body are read between those of the function**: behind the lexemes of the body,
none of which leaves the function, come those of the line that gives back what has been written. -/
theorem exists_of_lexemes (lines : BodyLines body)
    (read : lexemes (prologue ++ body ++ epilogue) = some found) :
    ∃ front, found = frontLexemes (front ++ (RenderLine.finish.lexemes ++ [.lineEnd]) ++ [.dedent]) ∧
      level 0 front = some 0 ∧ ∀ last ∈ front.getLast?, last.endsPart := by
  obtain ⟨unified, same, shape⟩ := exists_unifyLineEnds_body lines
  have behind : lexemesBehind 0 (prologue ++ (unified ++ epilogue)) = some found := same ▸ read
  rw [lexemesBehind_prologue] at behind
  obtain ⟨inside, readInside, rfl⟩ := Option.map_eq_some_iff.mp behind
  rcases shape with rfl | ⟨deep, ends⟩
  · have none : AllDeeper [] := fun _ member => nomatch member
    have whole := (lexemesFrom_epilogue none).symm.trans readInside
    exact ⟨[], congrArg frontLexemes (Option.some.inj whole).symm, rfl, fun _ isLast => nomatch isLast⟩
  · have none : AllDeeper [] := fun _ member => nomatch member
    have linesDeep := (deep.append deepLines_epilogue)
    obtain ⟨front, tail, kept, rfl, deepLexemes, readTail⟩ := exists_lexemesFrom_eq
      withholds_epilogue ends linesDeep.later none (fun _ => linesDeep.starts) readInside
    rw [lexemesFrom_epilogue deepLexemes.deeper] at readTail
    obtain rfl := Option.some.inj readTail
    refine ⟨front ++ List.replicate kept.length .dedent, ?_, ?_, ?_⟩
    · simp only [List.append_assoc]
    · have marks : level 0 front = some kept.length := deepLexemes.level_eq
      rw [level_append, marks, Option.bind_some]
      exact level_replicate_dedent kept.length 0
    · intro last isLast
      rw [List.getLast?_append, List.getLast?_replicate] at isLast
      split at isLast
      · rw [Option.none_or] at isLast
        rcases deepLexemes.ended with isEnd | ⟨-, rfl⟩
        · rw [isEnd] at isLast
          exact .inl (Option.some.inj isLast).symm
        · cases isLast
      · exact .inr (Option.some.inj isLast).symm

/-- A source text that is a program falls into lexemes that spell it. -/
theorem exists_lexemes_of_readProgram (read : readProgram source = .ok program) :
    ∃ found, lexemes source = some found ∧
      programOf? (source.length + 4) found = some program := by
  unfold readProgram at read
  split at read
  · cases read
  split at read
  · cases read
  split at read
  · next found parsed =>
      cases read
      exact Option.bind_eq_some_iff.mp parsed
  · cases read

/-- The names that a program reads can be spelled. -/
theorem spells_of_readProgram (read : readProgram source = .ok program) : Spells program := by
  obtain ⟨found, isFound, spelled⟩ := exists_lexemes_of_readProgram read
  have fits : weight found < source.length + 4 := by
    have room := weight_lexemes isFound
    omega
  unfold programOf? at spelled
  split at spelled
  · cases spelled
    exact spells_nil
  · split at spelled
    · next statements parsed =>
        cases spelled
        obtain ⟨reads, -⟩ := ReadsStatements.of_statements (alike_self fits) (Nat.le_refl _)
          (hasWords_lexemes isFound) parsed
        exact reads.spells (alike_self fits) (Nat.le_refl _) (hasWords_lexemes isFound)
    · cases spelled

/-- A name that a program refers to is read by one of its statements, inside when this defines a
function. -/
theorem read_mem_of_mem_referenced (member : name ∈ (NameUse.ofProgram program).referenced) :
    Mention.read name ∈ program.flatMap fun statement =>
      match statement with
      | .functionDef false _ parameters _ _ body =>
          parametersMentions parameters ++ stmtsMentions body
      | statement => statement.mentions := by
  obtain ⟨mention, inside, isRead⟩ := List.mem_filterMap.mp (List.mem_of_mem_filter member)
  cases mention with
  | read other => cases isRead; exact inside
  | bind other => cases isRead
  | declare other => cases isRead

theorem isName_of_mem_referenced (read : readProgram source = .ok program)
    (member : name ∈ (NameUse.ofProgram program).referenced) : IsName name := by
  have spelled := spells_of_readProgram read
  obtain ⟨statement, inProgram, inside⟩ := List.mem_flatMap.mp (read_mem_of_mem_referenced member)
  have spelledStatement : AllSpelled statement.mentions := spelled statement inProgram
  refine spelledStatement name ?_
  split at inside
  · -- What a function reads is what its definition mentions, but for its hints and decorators.
    rw [Stmt.mentions]
    rcases List.mem_append.mp inside with inParameters | inBody
    · simp only [List.mem_cons, List.mem_append, inParameters, true_or, or_true]
    · simp only [List.mem_cons, List.mem_append, inBody, or_true]
  · exact inside

/-- The lines that take the names of a program from the context are lines of the body. -/
theorem bodyLines_bindings (read : readProgram source = .ok program) :
    BodyLines ((Text.sortedSet (NameUse.ofProgram program).referenced).flatMap bindingLine) := by
  refine BodyLines.flatten fun line member => ?_
  obtain ⟨name, isBound, rfl⟩ := List.mem_map.mp member
  refine bodyLines_bindingLine (isName_of_mem_referenced read ?_)
  unfold sortedSet at isBound
  rw [List.mem_mergeSort, List.mem_eraseDups] at isBound
  exact isBound

/-- **A program around lines of the body is the definition of its render function**, whose last
statement gives back what has been written. -/
theorem exists_program_eq (lines : BodyLines body)
    (read : readProgram (prologue ++ body ++ epilogue) = .ok program) :
    ∃ inside, program = [renderDefinition
      (bufferStatement :: appendStatement :: (inside ++ [finishStatement]))] := by
  obtain ⟨found, isFound, spelled⟩ := exists_lexemes_of_readProgram read
  have room := weight_lexemes isFound
  have words := hasWords_lexemes isFound
  obtain ⟨front, rfl, stays, ends⟩ := exists_of_lexemes lines isFound
  exact exists_renderDefinition (by omega) words rfl stays ends spelled

end Stencil
