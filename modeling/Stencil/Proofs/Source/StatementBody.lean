import Stencil.Proofs.Script.BlockEnd
import Stencil.Proofs.Script.LexemeBound
import Stencil.Proofs.Script.MovedLines
import Stencil.Proofs.Source.BodyFrame
import Stencil.Proofs.Source.Classification
import Stencil.Proofs.Source.InsertedLiteral

/-! # Statements that keep their meaning

The lines of complete statements are written one by one, each behind the indentation of the body. A
program whose lines may be moved (`Stencil.KeepsLayout`) is read there as the same statements
(`Stencil.MayMove.readsInBody`), at any depth, so that such a directive means in the body what it
means by itself (`Stencil.emit_statements`).
-/

namespace Stencil

open Script Source CodePoint Text

/-- The lines of a text may be moved to the right. -/
structure KeepsLayout (source : Text) : Prop where
  breaks : ∀ point ∈ source, point.isLineBreak = true → point = carriageReturn ∨ point = lineFeed
  ends : ∀ line ∈ splitLines source, stripEnd line = dropEndWhile isSpaceOrTab line
  margins : ∀ line ∈ splitLines source,
    (indentation line).IsChain fun before behind => before = space → behind = space
  begins : ∀ line ∈ splitLines source, (line.dropWhile isSpaceOrTab).head? ≠ some backslash
  joins : (splitLines source).IsChain fun line next =>
    (stripEnd line).getLast? = some backslash → isHeld next = true

/-- The lexemes of a program may be moved into some blocks. -/
structure FitsBelow (depth : Nat) (found : List Lexeme) : Prop where
  room : nesting found + depth + 2 ≤ indentLimit
  short : ∀ string, .string string ∈ found → lineFeed ∉ string.body

/-- The string that a lexeme is. -/
def Script.Lexeme.string? : Lexeme → Option StringLiteral
  | .string literal => some literal
  | _ => none

instance (depth : Nat) (found : List Lexeme) : Decidable (FitsBelow depth found) :=
  decidable_of_iff (nesting found + depth + 2 ≤ indentLimit ∧
      ∀ lexeme ∈ found, ∀ string ∈ lexeme.string?, lineFeed ∉ string.body)
    ⟨fun ⟨room, short⟩ => ⟨room, fun string member => short _ member string rfl⟩,
      fun fits => ⟨fits.room, fun lexeme member string isString => by
        cases lexeme with
        | string other =>
            cases isString
            exact fits.short _ member
        | _ => cases isString⟩⟩

variable {source raw line : Text} {lines : List Text} {depth : Nat} {statements : List Stmt}
  {found : List Lexeme} {blocks : List OpenBlock}

theorem linesText_cons : linesText (line :: lines) = line ++ lineFeed :: linesText lines := by
  unfold linesText
  rw [List.flatMap_cons, List.append_assoc, List.singleton_append]

/-- A text with its line ends unified is its lines one below the other. -/
theorem unifyLineEnds_eq_linesText (held : source ≠ [])
    (breaks : ∀ point ∈ source, point.isLineBreak = true → point = carriageReturn ∨ point = lineFeed) :
    unifyLineEnds source = linesText (splitLines source) := by
  -- A line end in front of other lines.
  have behind : ∀ {rest : Text}, (rest ≠ [] → unifyLineEnds rest = linesText (splitLines rest)) →
      unifyLineEnds (lineFeed :: rest) = lineFeed :: linesText (splitLines rest) := by
    intro rest later
    cases rest with
    | nil => rfl
    | cons next rest => exact congrArg (lineFeed :: ·) (later (List.cons_ne_nil _ _))
  fun_induction splitLines source with
  | case1 => exact (held rfl).elim
  | case2 rest ih =>
      have breaksRest := (List.forall_mem_cons.mp (List.forall_mem_cons.mp breaks).2).2
      exact behind fun heldRest => ih heldRest breaksRest
  | case3 first rest noPair isBreak ih =>
      obtain ⟨either, breaksRest⟩ := List.forall_mem_cons.mp breaks
      rcases either isBreak with rfl | rfl
      · cases rest with
        | nil => rfl
        | cons next rest =>
            have noFeed : next ≠ lineFeed := fun isFeed => noPair rest rfl (by rw [isFeed])
            rw [unifyLineEnds, if_pos rfl, if_neg noFeed, ih (List.cons_ne_nil _ _) breaksRest]
            rfl
      · exact behind fun heldRest => ih heldRest breaksRest
  | case4 first rest noPair noBreak none ih =>
      obtain rfl : rest = [] := by
        cases rest with
        | nil => rfl
        | cons next rest => exact (splitLines_ne_nil (List.cons_ne_nil _ _) none).elim
      have noEnd : ¬(first = carriageReturn || first = lineFeed) = true := by
        simp only [Bool.or_eq_true, decide_eq_true_eq]
        rintro (rfl | rfl) <;> exact noBreak rfl
      exact if_neg noEnd
  | case5 first rest noPair noBreak innermost lines isRest ih =>
      have breaksRest := (List.forall_mem_cons.mp breaks).2
      cases rest with
      | nil => cases isRest
      | cons next rest =>
          have noReturn : first ≠ carriageReturn := by
            rintro rfl
            exact noBreak rfl
          rw [unifyLineEnds, if_neg noReturn, ih (List.cons_ne_nil _ _) breaksRest, isRest,
            linesText_cons, linesText_cons]
          rfl

/-- The blanks of a margin are tabulators with spaces behind them. -/
theorem exists_indentation {margin : Text} (blank : ∀ point ∈ margin, point.isSpaceOrTab = true)
    (sorted : margin.IsChain fun before behind => before = space → behind = space) :
    ∃ indentation : Indentation, margin = indentation.text := by
  induction margin with
  | nil => exact ⟨⟨0, 0⟩, rfl⟩
  | cons first rest ih =>
      obtain ⟨isBlank, blank⟩ := List.forall_mem_cons.mp blank
      obtain ⟨next, sorted⟩ := List.isChain_cons.mp sorted
      obtain ⟨⟨tabs, count⟩, rfl⟩ := ih blank sorted
      simp only [isSpaceOrTab, Bool.or_eq_true, beq_iff_eq] at isBlank
      rcases isBlank with rfl | rfl
      · cases tabs with
        | zero => exact ⟨⟨0, count + 1⟩, rfl⟩
        | succ tabs => cases next tab rfl rfl
      · exact ⟨⟨tabs + 1, count⟩, rfl⟩

/-- The lines of a text that may be moved. -/
theorem KeepsLayout.isMovable (layout : KeepsLayout source) : ∀ line ∈ splitLines source, IsMovable line := by
  intro line isLine
  obtain ⟨blanks, split, blank⟩ := exists_dropEndWhile_append isSpaceOrTab line
  rw [← layout.ends line isLine] at split
  have plain : ∀ point ∈ line, point.isLineBreak = false := fun point member =>
    not_isLineBreak_of_mem_splitLines isLine member
  refine ⟨fun member => ?_, ⟨blanks, split, blank⟩, fun held => ?_⟩
  · cases plain _ member
  have margin : line = indentation line ++ line.dropWhile isSpaceOrTab :=
    List.takeWhile_append_dropWhile.symm
  have isMargin : ∀ point ∈ indentation line, point.isSpaceOrTab = true :=
    fun point member => List.mem_takeWhile_imp member
  have noBackslash := layout.begins line isLine
  have stops := List.head?_dropWhile_not isSpaceOrTab line
  cases isCode : line.dropWhile isSpaceOrTab with
  | nil =>
      rw [isCode, List.append_nil] at margin
      have none : strip line = [] := by
        have around := @strip_append_blanks [] line [] (fun point member =>
          isBlank_of_isSpaceOrTab (isMargin point (margin ▸ member))) (fun _ member => nomatch member)
        rwa [List.append_nil, List.append_nil] at around
      rw [isHeld, none] at held
      cases held
  | cons point more =>
      rw [isCode] at margin noBackslash stops
      have noBlank : point.isSpaceOrTab = false := by simpa using stops
      have noFormFeed : point ≠ formFeed := by
        rintro rfl
        cases plain formFeed (margin ▸ List.mem_append_right _ List.mem_cons_self)
      have isInner : isInnerBlank point = false := by
        simp only [isSpaceOrTab] at noBlank
        simp only [isInnerBlank, noBlank, Bool.false_or, beq_eq_false_iff_ne]
        exact noFormFeed
      -- The code of a line is not among the blanks at its end.
      have notBlank : point ∉ blanks := by
        intro member
        rw [blank point member] at noBlank
        cases noBlank
      obtain ⟨indented, isIndented⟩ := exists_indentation isMargin (layout.margins line isLine)
      rcases List.append_eq_append_iff.mp (margin.symm.trans split) with
        ⟨code, isStripped, isRest⟩ | ⟨others, -, isBlanks⟩
      · cases code with
        | nil => exact (notBlank ((List.nil_append blanks ▸ isRest) ▸ List.mem_cons_self)).elim
        | cons first code =>
            obtain ⟨rfl, -⟩ := List.cons.inj isRest
            exact ⟨indented, point, code, isIndented ▸ isStripped, isInner,
              fun isBackslash => noBackslash (congrArg some isBackslash)⟩
      · exact (notBlank (isBlanks ▸ List.mem_append_right _ List.mem_cons_self)).elim

/-- The lines of a statement are moved to the indentation of the body. -/
theorem flatMap_codeLines : (codeLines (normalize raw)).flatMap (bodyLine depth) =
    movedText (4 * (depth + 1)) (splitLines (dedent raw)) := by
  unfold codeLines movedText
  rw [restore_normalize, List.flatMap_map]
  refine List.flatMap_congr fun line member => ?_
  rw [bodyLine, indentAt_eq]

theorem mem_of_mem_splitLines (isLine : line ∈ splitLines source) : ∀ point ∈ line, point ∈ source := by
  fun_induction splitLines source generalizing line with
  | case1 => cases isLine
  | case2 rest ih =>
      intro point member
      rcases List.mem_cons.mp isLine with rfl | later
      · cases member
      · exact List.mem_cons_of_mem _ (List.mem_cons_of_mem _ (ih later point member))
  | case3 first rest noPair isBreak ih =>
      intro point member
      rcases List.mem_cons.mp isLine with rfl | later
      · cases member
      · exact List.mem_cons_of_mem _ (ih later point member)
  | case4 first rest noPair noBreak none ih =>
      intro point member
      rw [List.mem_singleton.mp isLine, List.mem_singleton] at member
      exact member ▸ List.mem_cons_self
  | case5 first rest noPair noBreak innermost lines isRest ih =>
      intro point member
      rw [isRest] at ih
      rcases List.mem_cons.mp isLine with rfl | later
      · rcases List.mem_cons.mp member with rfl | inside
        · exact List.mem_cons_self
        · exact List.mem_cons_of_mem _ (ih List.mem_cons_self point inside)
      · exact List.mem_cons_of_mem _ (ih (List.mem_cons_of_mem _ later) point member)

/-- The line ends of lines one below the other are unified already. -/
theorem lexemesFrom_linesText {columns : List Column} (noReturn : ∀ line ∈ lines, carriageReturn ∉ line) :
    lexemesFrom columns [] true (unifyLineEnds (linesText lines)) =
      lexemesFrom columns [] true (linesText lines) := by
  have plain : carriageReturn ∉ linesText lines := by
    intro member
    obtain ⟨line, isLine, inLine⟩ := List.mem_flatMap.mp member
    rcases List.mem_append.mp inLine with inside | isEnd
    · exact noReturn line isLine inside
    · cases List.mem_singleton.mp isEnd
  rcases List.eq_nil_or_concat lines with rfl | ⟨front, last, rfl⟩
  · exact (@isMargin_spaces 0).lexemesFrom_lineFeed
  · have split : linesText (front.concat last) = linesText front ++ last ++ [lineFeed] := by
      rw [List.concat_eq_append, linesText, List.flatMap_append, List.flatMap_singleton,
        ← List.append_assoc]
      rfl
    rw [split] at plain ⊢
    rw [unifyLineEnds_append (fun member => plain (List.mem_append_left _ member))
      (List.cons_ne_nil _ _)]
    rfl

theorem carriageReturn_notMem_splitLines : ∀ line ∈ splitLines source, carriageReturn ∉ line :=
  fun _ isLine member => nomatch not_isLineBreak_of_mem_splitLines isLine member

theorem KeepsLayout.lexemes_eq (layout : KeepsLayout source) :
    Script.lexemes (linesText (splitLines source)) = Script.lexemes source := by
  unfold Script.lexemes
  rw [lexemesFrom_linesText carriageReturn_notMem_splitLines]
  by_cases held : source = []
  · subst held
    exact (@isMargin_spaces 0).lexemesFrom_lineFeed.symm
  · rw [unifyLineEnds_eq_linesText held layout.breaks]

/-- A program is the same with its line ends unified. -/
theorem KeepsLayout.readProgram_eq (layout : KeepsLayout source)
    (read : readProgram source = .ok statements) :
    readProgram (linesText (splitLines source)) = .ok statements := by
  obtain ⟨found, isFound, spelled⟩ := exists_lexemes_of_readProgram read
  have isSame := layout.lexemes_eq.trans isFound
  have fits := weight_lexemes isFound
  have fitsSame := weight_lexemes isSame
  have clean := clean_of_readProgram read
  refine readProgram_of_lexemes (fun point member => ?_) isSame
    (programOf?_congr (by omega) (by omega) (hasWords_lexemes isFound) spelled)
  obtain ⟨line, isLine, inLine⟩ := List.mem_flatMap.mp member
  rcases List.mem_append.mp inLine with inside | isEnd
  · exact clean point (mem_of_mem_splitLines isLine point inside)
  · rw [List.mem_singleton.mp isEnd]
    decide

theorem movedText_eq_linesText {offset : Nat} : movedText offset lines =
    linesText ((lines.filter isHeld).map fun line => Text.spaces offset ++ stripEnd line) := by
  unfold movedText linesText
  rw [List.flatMap_map]

/-- Lines that are moved hold what they held, and spaces. -/
theorem eq_or_exists_of_mem_moved {offset : Nat} {point : CodePoint}
    (isLine : line ∈ (lines.filter isHeld).map fun line => Text.spaces offset ++ stripEnd line)
    (member : point ∈ line) : point = space ∨ ∃ whole ∈ lines, point ∈ whole := by
  obtain ⟨whole, isWhole, rfl⟩ := List.mem_map.mp isLine
  rcases List.mem_append.mp member with inMargin | inCode
  · exact .inl (List.eq_of_mem_replicate inMargin)
  · obtain ⟨blanks, split, -⟩ := exists_dropEndWhile_append isBlank whole
    exact .inr ⟨whole, List.mem_of_mem_filter isWhole, split ▸ List.mem_append_left _ inCode⟩

/-- Lines that are moved are as clean as they were. -/
theorem clean_movedText {offset : Nat} (read : readProgram (linesText lines) = .ok statements) :
    ∀ point ∈ movedText offset lines, point.isSurrogate = false ∧ point ≠ 0 := by
  have clean := clean_of_readProgram read
  intro point member
  rw [movedText_eq_linesText] at member
  obtain ⟨line, isLine, inLine⟩ := List.mem_flatMap.mp member
  rcases List.mem_append.mp inLine with inside | isEnd
  · rcases eq_or_exists_of_mem_moved isLine inside with rfl | ⟨whole, isWhole, inWhole⟩
    · decide
    · exact clean point (List.mem_flatMap.mpr ⟨whole, isWhole, List.mem_append_left _ inWhole⟩)
  · rw [List.mem_singleton.mp isEnd]
    decide

/-- The line ends of lines that are moved are unified already. -/
theorem lexemesFrom_movedText {offset : Nat} {columns : List Column}
    (noReturn : ∀ line ∈ lines, carriageReturn ∉ line) :
    lexemesFrom columns [] true (unifyLineEnds (movedText offset lines)) =
      lexemesFrom columns [] true (movedText offset lines) := by
  rw [movedText_eq_linesText]
  refine lexemesFrom_linesText fun line isLine member => ?_
  rcases eq_or_exists_of_mem_moved isLine member with isSpace | ⟨whole, isWhole, inWhole⟩
  · cases isSpace
  · exact noReturn whole isWhole inWhole

/-- A program is read in front of an edge, by the readers of all depths that are great enough. -/
theorem reads_before_edge {bound deeper : Nat} {edge : Lexeme}
    (spelled : programOf? bound found = some statements) (fits : weight found < bound)
    (fitsDeeper : weight found < deeper) (words : HasWords found) (ends : EndsStatement edge)
    (rest : List Lexeme) :
    ReadsStatements (Inner.ofDepth deeper) (found ++ edge :: rest) statements (edge :: rest) := by
  by_cases held : found = []
  · subst held
    cases spelled
    exact .none
  have alike := Inner.alike_ofDepth _ _ _ fits fitsDeeper
  have whole := (programOf?_eq_some held).mp spelled
  obtain ⟨reads, -⟩ := ReadsStatements.of_statements (alike_self fits) (Nat.le_refl _) words whole
  obtain ⟨taken, split, block⟩ := reads.exists_laidBlock (alike_self fits) (Nat.le_refl _) words
  rw [List.append_nil] at split
  have lines : WholeLines found := split ▸ block.wholeLines
  exact (reads.congr alike (alike_self fits) (Nat.le_refl _) words).carry ends lines rest

/-- The lines of a program may be moved into some blocks of the body. -/
structure MayMove (depth : Nat) (lines : List Text) (statements : List Stmt) : Prop where
  movable : ∀ line ∈ lines, IsMovable line
  joins : lines.IsChain fun line next =>
    (stripEnd line).getLast? = some backslash → isHeld next = true
  noReturn : ∀ line ∈ lines, carriageReturn ∉ line
  read : readProgram (linesText lines) = .ok statements
  fits : ∀ found, Script.lexemes (linesText lines) = some found → FitsBelow depth found

/-- The lexemes of a program are those of its lines when these are moved to the right, and they
spell its statements in front of every edge. -/
theorem MayMove.exists_lexemes (mayMove : MayMove depth lines statements) : ∃ found,
    lexemesBehind (depth + 1) (unifyLineEnds (movedText (4 * (depth + 1)) lines)) =
        some (found ++ List.replicate (depth + 1) .dedent) ∧
      ∀ edge, EndsStatement edge → ∀ extra rest,
        (movedText (4 * (depth + 1)) lines).length ≤ extra →
          ReadsStatements (Inner.ofDepth (extra + 4)) (found ++ edge :: rest) statements
            (edge :: rest) := by
  obtain ⟨movable, joins, noReturn, read, fits⟩ := mayMove
  obtain ⟨found, isFound, spelled⟩ := exists_lexemes_of_readProgram read
  obtain ⟨room, short⟩ := fits found isFound
  have fitsBelow : Fits (levelStack depth) [⟨0, 0⟩] found :=
    { nested := List.pairwise_singleton _ _
      held := List.cons_ne_nil _ _
      room := by
        rw [length_levelStack, List.length_singleton]
        omega
      short := short }
  have scanned : lexemesFrom [Column.zero] [] true (linesText lines) = some found :=
    (lexemesFrom_linesText noReturn).symm.trans isFound
  have moved : lexemesBehind (depth + 1) (movedText (4 * (depth + 1)) lines) =
      some (found ++ List.replicate (levelStack depth).length .dedent) :=
    (@moves_lines (levelStack depth) (4 * (depth + 1)) _ movable joins).1 [⟨0, 0⟩] found fitsBelow scanned
  have weightSource := weight_lexemes isFound
  have weightMoved := (fitting_lexemesFrom moved).1
  rw [weight_append] at weightMoved
  rw [length_levelStack] at moved
  exact ⟨found, (lexemesFrom_movedText noReturn).trans moved, fun edge ends extra rest le =>
    reads_before_edge spelled (by omega) (by omega) (hasWords_lexemes isFound) ends rest⟩

/-- **A program that is moved to the right is read in the body** as the same statements. -/
theorem MayMove.readsInBody (mayMove : MayMove depth lines statements) :
    ReadsInBody depth (movedText (4 * (depth + 1)) lines) statements := by
  obtain ⟨found, scanned, reads⟩ := mayMove.exists_lexemes
  have room : depth + 1 < indentLimit := by
    obtain ⟨found, isFound, -⟩ := exists_lexemes_of_readProgram mayMove.read
    have room := (mayMove.fits found isFound).room
    omega
  exact readsInBody_of_lexemes room (clean_movedText mayMove.read) scanned (reads .dedent (.inl rfl))

/-- **A program that is moved to the right is all of a body** when its lines are lines of one. -/
theorem MayMove.readProgram (mayMove : MayMove 0 lines statements)
    (body : BodyLines (movedText 4 lines)) :
    Script.readProgram (prologue ++ movedText 4 lines ++ epilogue) = .ok [renderDefinition
      (bufferStatement :: appendStatement :: (statements ++ [finishStatement]))] := by
  obtain ⟨found, scanned, reads⟩ := mayMove.exists_lexemes
  exact readProgram_body_of_lexemes body (clean_movedText mayMove.read) scanned
    (reads _ (.inr rfl))

/-- A directive leaves no block: it does not end one, and it does not go on with one. -/
structure StaysInside (lines : List Text) : Prop where
  noEnd : ∀ first ∈ lines.head?, stripComment first.strip ≠ endWord
  noContinuation : ∀ first ∈ lines.head?, leadingWord first ∉ continuationWords

/-- What leaves no block is written line by line where it stands. -/
theorem StaysInside.emitControl_eq {content : Text} (stays : StaysInside (codeLines content))
    (noCase : topWord blocks ≠ some (text "case")) :
    emitControl content blocks = .ok (emitLines (codeLines content) blocks) := by
  obtain ⟨noEnd, noContinuation⟩ := stays
  unfold emitControl
  cases isCode : codeLines content with
  | nil => rfl
  | cons first rest =>
      rw [isCode] at noEnd noContinuation
      have remains : leaveContinued first blocks = .ok blocks := by
        unfold leaveContinued
        simp only [List.contains_eq_mem, noContinuation first rfl, noCase, decide_false,
          Bool.and_false, Bool.or_false, Bool.false_eq_true, ↓reduceIte]
        rfl
      dsimp only
      rw [if_neg (noEnd first rfl), remains]
      rfl

/-- Lines that open no block are all that is written. -/
theorem emitLines_of_noHeader {lines : List Text} (noHeader : endsIn (text ":") (lastCode lines) = false) :
    emitLines lines blocks = (lines.flatMap (bodyLine blocks.length), blocks) := by
  unfold emitLines
  dsimp only
  rw [noHeader]
  rfl

/-- **Complete statements keep their meaning.** A directive whose text is a program of its own is
written by a fragment that is read as the same statements, in the body as deep as it stands, and
the open blocks stay as they are. -/
theorem emit_statements (raw : Text) (offset : Nat) (blocks : List OpenBlock)
    (read : readProgram (dedent raw) = .ok statements) (layout : KeepsLayout (dedent raw))
    (fits : ∀ found, Script.lexemes (dedent raw) = some found → FitsBelow blocks.length found)
    (stays : StaysInside (codeLines (normalize raw))) (noCase : topWord blocks ≠ some (text "case"))
    (noHeader : endsIn (text ":") (lastCode (codeLines (normalize raw))) = false) :
    ∃ fragment, Source.emit ⟨.control, normalize raw, offset⟩ blocks = .ok (fragment, blocks) ∧
      ReadsInBody blocks.length fragment statements := by
  have emitted : Source.emit ⟨.control, normalize raw, offset⟩ blocks =
      .ok (movedText (4 * (blocks.length + 1)) (splitLines (dedent raw)), blocks) := by
    change emitControl (normalize raw) blocks = _
    rw [stays.emitControl_eq noCase, emitLines_of_noHeader noHeader, flatMap_codeLines]
  have mayMove : MayMove blocks.length (splitLines (dedent raw)) statements :=
    { movable := layout.isMovable
      joins := layout.joins
      noReturn := carriageReturn_notMem_splitLines
      read := layout.readProgram_eq read
      fits := fun found isFound => fits found (layout.lexemes_eq ▸ isFound) }
  exact ⟨_, emitted, mayMove.readsInBody⟩

/-- A loop with a note, and parentheses over two lines behind it, are written in another loop. -/
theorem emit_statements_loop :
    let raw := text "\n  while x:\n  \ty = '#' # c\n\n  (f\n  )\n"
    let blocks := [⟨text "for", text "for x in s:"⟩]
    let statements := [.whileLoop (.name (text "x"))
        [.assign [.name (text "y")] (.constant (.text (text "#")))] [],
      .expression (.name (text "f"))]
    readProgram (dedent raw) = .ok statements ∧ KeepsLayout (dedent raw) ∧
      StaysInside (codeLines (normalize raw)) ∧
      endsIn (text ":") (lastCode (codeLines (normalize raw))) = false ∧
      ∃ fragment, Source.emit ⟨.control, normalize raw, 0⟩ blocks = .ok (fragment, blocks) ∧
        ReadsInBody 1 fragment statements := by
  intro raw blocks statements
  have isFound : Script.lexemes (dedent raw) = some [.keyword .whileWord, .name (text "x"),
      .symbol .colon, .lineEnd, .indent, .name (text "y"), .symbol .equal,
      .string ⟨false, false, false, text "#"⟩, .lineEnd, .dedent, .symbol .leftParen, .name (text "f"),
      .symbol .rightParen, .lineEnd] := by
    rw [lexemes_eq_within]
    decide +kernel
  have length : (dedent raw).length = 29 := by decide +kernel
  have read : readProgram (dedent raw) = .ok statements :=
    readProgram_of_lexemes (by decide +kernel) isFound (by rw [length]; rfl)
  have layout : KeepsLayout (dedent raw) :=
    ⟨by decide +kernel, by decide +kernel, by decide +kernel, by decide +kernel, by decide +kernel⟩
  have stays : StaysInside (codeLines (normalize raw)) := ⟨by decide, by decide⟩
  refine ⟨read, layout, stays, by decide, ?_⟩
  refine emit_statements raw 0 blocks read layout (fun found same => ?_) stays (by decide) (by decide)
  cases isFound.symm.trans same
  decide

/-- A string that holds a line separator is cut in two, though it is a program of its own. -/
theorem emit_separator :
    let raw := text "x = 'a" ++ 8232 :: text "b'"
    let statements := [.assign [.name (text "x")] (.constant (.text (text "a" ++ 8232 :: text "b")))]
    readProgram (dedent raw) = .ok statements ∧
      ∀ fragment, Source.emit ⟨.control, normalize raw, 0⟩ [] = .ok (fragment, []) →
        ¬ReadsInBody 0 fragment statements := by
  refine ⟨?_, fun fragment emitted reads => ?_⟩
  · have isFound : Script.lexemes (dedent (text "x = 'a" ++ 8232 :: text "b'")) =
        some [.name (text "x"), .symbol .equal,
          .string ⟨false, false, false, text "a" ++ 8232 :: text "b"⟩, .lineEnd] := by
      rw [lexemes_eq_within]
      decide +kernel
    exact readProgram_of_lexemes (by decide) isFound rfl
  · have unread : parseWithin? (enclosed 0 (bodyLine 0 (text "x = 'a") ++ bodyLine 0 (text "b'"))) = none :=
      Option.isNone_iff_eq_none.mp (by decide +kernel)
    have lines : fragment = bodyLine 0 (text "x = 'a") ++ bodyLine 0 (text "b'") := by
      have same : Source.emit ⟨.control, normalize (text "x = 'a" ++ 8232 :: text "b'"), 0⟩ [] =
          .ok (bodyLine 0 (text "x = 'a") ++ bodyLine 0 (text "b'"), []) := by decide
      cases same.symm.trans emitted
      rfl
    subst lines
    exact nomatch unread.symm.trans (parseWithin?_of_readProgram reads)

end Stencil
