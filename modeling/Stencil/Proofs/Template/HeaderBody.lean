import Stencil.Proofs.Source.FragmentLines
import Stencil.Proofs.Source.StatementBody
import Stencil.Proofs.Template.AssembledProgram
import Stencil.Proofs.Template.NormalScan

/-! # Headers that open a block

A directive may end with the header of a block. What is written for it, for the literal text behind it
and for the end of the block is read in the body as the lines of the directive with the lines of the
block below them, four columns deeper than its first line. So the text is written in the block of the
last header, if that header stands in the column of the first line, and the template is compiled to a
function of these statements (`Stencil.emitAll_header`). The header of a choice by shape takes a case
and its block in the same way, as long as it stands on one line (`Stencil.emitAll_choice`).
-/

namespace Stencil

open Script Source CodePoint Text

/-- The lines of a directive with those of the block that its last header opens: one that does nothing
and one that writes literal text. -/
def headedLines (raw written : Text) : List Text :=
  splitLines (dedent raw) ++
    [Text.spaces 4 ++ RenderLine.skip.content, Text.spaces 4 ++ (RenderLine.literal written).content]

/-- The lines of a directive with those of a case below its last header, and of the block of the
case. -/
def choiceLines (raw case written : Text) : List Text :=
  splitLines (dedent raw) ++ [Text.spaces 4 ++ case,
    Text.spaces 8 ++ RenderLine.skip.content, Text.spaces 8 ++ (RenderLine.literal written).content]

/-- The last line of code is a header, and its block is one that may hold any statements. -/
structure OpensBlock (lines : List Text) : Prop where
  header : endsIn (text ":") (lastCode lines) = true
  noChoice : leadingWord (lastCode lines) ≠ text "match"
  noCase : leadingWord (lastCode lines) ≠ text "case"

/-- The last line of code is the header of a choice by shape, whose block holds cases. -/
structure OpensChoice (lines : List Text) : Prop where
  header : endsIn (text ":") (lastCode lines) = true
  choice : leadingWord (lastCode lines) = text "match"

variable {raw written line case : Text} {lines below others : List Text} {depth width offset : Nat}
  {statements : List Stmt} {found : List Lexeme} {blocks after : List OpenBlock}

/-- A line of a block, without its indentation. -/
structure IsBlockLine (line : Text) : Prop where
  plain : IsPlainLine line
  begins : ∃ first ∈ line.head?, first.isBlank = false ∧ isInnerBlank first = false ∧ first ≠ backslash
  ends : ∀ last ∈ line.getLast?, last.isBlank = false

/-- A directive holds the header of a case and nothing else. -/
structure IsCase (content case : Text) : Prop where
  only : codeLines content = [case]
  line : IsBlockLine case
  stays : StaysInside [case]
  header : endsIn (text ":") (lastCode [case]) = true
  word : leadingWord (lastCode [case]) = text "case"

theorem isBlockLine_skip : IsBlockLine RenderLine.skip.content where
  plain := by decide
  begins := by decide
  ends := by decide

theorem isBlockLine_literal (written : Text) : IsBlockLine (RenderLine.literal written).content where
  plain := (IsPlainLine.append (by decide) (isPlainLine_quoteLiteral fun member =>
    ne_lineFeed_of_mem_normalize member rfl)).append (by decide)
  begins := ⟨95, rfl, by decide⟩
  ends := by
    intro last isLast
    obtain rfl : 41 = last :=
      Option.some.inj ((List.getLast?_append_of_ne_nil _ (by decide)).symm.trans isLast)
    decide

namespace IsBlockLine

theorem stripEnd_eq (isLine : IsBlockLine line) :
    stripEnd (Text.spaces width ++ line) = Text.spaces width ++ line := by
  obtain ⟨first, isFirst, -⟩ := isLine.begins
  obtain ⟨rest, rfl⟩ := List.head?_eq_some_iff.mp isFirst
  refine stripEnd_eq_self fun last isLast => isLine.ends last ?_
  rwa [List.getLast?_append_of_ne_nil _ (List.cons_ne_nil _ _)] at isLast

theorem isHeld (isLine : IsBlockLine line) : isHeld (Text.spaces width ++ line) = true := by
  obtain ⟨first, isFirst, noBlank, -⟩ := isLine.begins
  have held : strip (Text.spaces width ++ line) ≠ [] := by
    intro none
    rw [← stripStart_stripEnd, isLine.stripEnd_eq, stripStart, List.dropWhile_eq_nil_iff] at none
    have blank := none first (List.mem_append_right _ (List.mem_of_mem_head? isFirst))
    rw [noBlank] at blank
    cases blank
  unfold Script.isHeld
  rw [List.isEmpty_eq_false_iff.mpr held]
  rfl

theorem isMovable (isLine : IsBlockLine line) : IsMovable (Text.spaces width ++ line) where
  plain member := by
    rcases List.mem_append.mp member with inMargin | inLine
    · cases List.eq_of_mem_replicate inMargin
    · exact isLine.plain.1 inLine
  ends := ⟨[], by rw [isLine.stripEnd_eq, List.append_nil], fun _ member => nomatch member⟩
  begins _ := by
    obtain ⟨first, isFirst, -, noBlank, noBackslash⟩ := isLine.begins
    obtain ⟨rest, rfl⟩ := List.head?_eq_some_iff.mp isFirst
    exact ⟨⟨0, width⟩, first, rest, isLine.stripEnd_eq, noBlank, noBackslash⟩

/-- A line of a block is written as deep as the block stands. -/
theorem movedText_cons (isLine : IsBlockLine line) {deeper : Nat}
    (stands : offset + width = 4 * (deeper + 1)) :
    movedText offset ((Text.spaces width ++ line) :: lines) =
      bodyLine deeper line ++ movedText offset lines := by
  have margin : Text.spaces offset ++ Text.spaces width = indentAt deeper := by
    rw [indentAt_eq, Text.spaces, Text.spaces, List.replicate_append_replicate, stands]
    rfl
  unfold movedText
  rw [List.filter_cons_of_pos isLine.isHeld, List.flatMap_cons, isLine.stripEnd_eq,
    ← List.append_assoc, margin]
  rfl

end IsBlockLine

/-- All lines are lines of blocks behind some spaces. -/
def AreBlockLines (lines : List Text) : Prop :=
  ∀ line ∈ lines, ∃ width content, IsBlockLine content ∧ line = Text.spaces width ++ content

theorem areBlockLines_headed : AreBlockLines [Text.spaces 4 ++ RenderLine.skip.content,
    Text.spaces 4 ++ (RenderLine.literal written).content] := by
  unfold AreBlockLines
  simp only [List.forall_mem_cons]
  exact ⟨⟨_, _, isBlockLine_skip, rfl⟩, ⟨_, _, isBlockLine_literal written, rfl⟩,
    fun _ member => nomatch member⟩

theorem areBlockLines_choice (isLine : IsBlockLine case) : AreBlockLines [Text.spaces 4 ++ case,
    Text.spaces 8 ++ RenderLine.skip.content,
    Text.spaces 8 ++ (RenderLine.literal written).content] := by
  unfold AreBlockLines
  simp only [List.forall_mem_cons]
  exact ⟨⟨_, _, isLine, rfl⟩, ⟨_, _, isBlockLine_skip, rfl⟩, ⟨_, _, isBlockLine_literal written, rfl⟩,
    fun _ member => nomatch member⟩

/-- The lines of a directive may be moved together with the lines of blocks below them. -/
theorem KeepsLayout.mayMove (layout : KeepsLayout (dedent raw)) (areLines : AreBlockLines below)
    (read : readProgram (linesText (splitLines (dedent raw) ++ below)) = .ok statements)
    (fits : ∀ found, Script.lexemes (linesText (splitLines (dedent raw) ++ below)) = some found →
      FitsBelow depth found) :
    MayMove depth (splitLines (dedent raw) ++ below) statements where
  movable := by
    rw [List.forall_mem_append]
    refine ⟨layout.isMovable, fun line member => ?_⟩
    obtain ⟨_, _, isLine, rfl⟩ := areLines line member
    exact isLine.isMovable
  joins := by
    have held : ∀ line ∈ below, isHeld line = true := by
      intro line member
      obtain ⟨_, _, isLine, rfl⟩ := areLines line member
      exact isLine.isHeld
    have each : below.Pairwise fun line next =>
        (stripEnd line).getLast? = some backslash → isHeld next = true :=
      List.pairwise_of_forall_mem_list fun _ _ next member _ => held next member
    exact List.isChain_append.mpr ⟨layout.joins, each.isChain,
      fun _ _ next isNext _ => held next (List.mem_of_mem_head? isNext)⟩
  noReturn := by
    rw [List.forall_mem_append]
    refine ⟨carriageReturn_notMem_splitLines, fun line member => ?_⟩
    obtain ⟨_, _, isLine, rfl⟩ := areLines line member
    exact ((isPlainLine_spaces _).append isLine.plain).2.1
  read := read
  fits := fits

theorem FitsBelow.start (fits : FitsBelow depth found) : FitsBelow 0 found where
  room := by
    have room := fits.room
    omega
  short := fits.short

theorem movedText_append :
    movedText offset (lines ++ others) = movedText offset lines ++ movedText offset others := by
  unfold movedText
  rw [List.filter_append, List.flatMap_append]

/-- The lines of a directive and of its block are those that are written. -/
theorem movedText_headedLines : movedText (4 * (depth + 1)) (headedLines raw written) =
    (codeLines (normalize raw)).flatMap (bodyLine depth) ++ bodyLine (depth + 1) (text "pass") ++
      literalFragment (depth + 1) written := by
  have stands : 4 * (depth + 1) + 4 = 4 * (depth + 1 + 1) := rfl
  rw [headedLines, movedText_append, isBlockLine_skip.movedText_cons stands,
    (isBlockLine_literal written).movedText_cons stands, flatMap_codeLines]
  simp only [movedText, List.filter_nil, List.flatMap_nil, List.append_nil, List.append_assoc]
  rfl

/-- The lines of a choice, of its case and of the block of the case are those that are written. -/
theorem movedText_choiceLines (isLine : IsBlockLine case) :
    movedText (4 * (depth + 1)) (choiceLines raw case written) =
      (codeLines (normalize raw)).flatMap (bodyLine depth) ++ (bodyLine (depth + 1) case ++
        bodyLine (depth + 2) (text "pass") ++ literalFragment (depth + 2) written) := by
  have stands : 4 * (depth + 1) + 4 = 4 * (depth + 1 + 1) := rfl
  have standsDeeper : 4 * (depth + 1) + 8 = 4 * (depth + 2 + 1) := rfl
  rw [choiceLines, movedText_append, isLine.movedText_cons stands,
    isBlockLine_skip.movedText_cons standsDeeper,
    (isBlockLine_literal written).movedText_cons standsDeeper, flatMap_codeLines]
  simp only [movedText, List.filter_nil, List.flatMap_nil, List.append_nil, List.append_assoc]
  rfl

/-- What is written in a block is lines of the body. -/
theorem bodyLines_written (written : Text) : BodyLines (bodyLine depth (text "pass") ++
    literalFragment depth written) := by
  have closed : (RenderLine.literal written).content.getLast? = some 41 :=
    List.getLast?_append_of_ne_nil _ (by decide)
  have literal : BodyLines (literalFragment depth written) :=
    bodyLines_bodyLine (isBlockLine_literal written).plain (by rw [closed]; decide)
  exact literal.cons (List.append_ne_nil_of_right_ne_nil _ (List.cons_ne_nil _ _)) (by decide)

theorem bodyLines_headedLines : BodyLines (movedText 4 (headedLines raw written)) := by
  have isText := @movedText_headedLines raw written 0
  rw [List.append_assoc] at isText
  rw [isText]
  exact (bodyLines_written written).flatMap_append
    (List.append_ne_nil_of_right_ne_nil _ (List.append_ne_nil_of_right_ne_nil _ (List.cons_ne_nil _ _)))
    fun _ => isPlainLine_of_mem_codeLines

theorem bodyLines_choiceLines (isLine : IsBlockLine case) :
    BodyLines (movedText 4 (choiceLines raw case written)) := by
  have isText := @movedText_choiceLines raw written case 0 isLine
  rw [List.append_assoc (bodyLine (0 + 1) case)] at isText
  rw [isText]
  have held : bodyLine (0 + 2) (text "pass") ++ literalFragment (0 + 2) written ≠ [] :=
    List.append_ne_nil_of_right_ne_nil _ (List.append_ne_nil_of_right_ne_nil _ (List.cons_ne_nil _ _))
  exact ((bodyLines_written written).cons held isLine.plain).flatMap_append
    (List.append_ne_nil_of_right_ne_nil _ held) fun _ => isPlainLine_of_mem_codeLines

/-- The block that the header in the last line of code opens. -/
def openedBy (lines : List Text) : OpenBlock :=
  ⟨leadingWord (lastCode lines), (lastCode lines).strip⟩

/-- A header opens its block, which begins with a statement that does nothing. -/
theorem emitLines_of_header (header : endsIn (text ":") (lastCode lines) = true)
    (noChoice : leadingWord (lastCode lines) ≠ text "match") : emitLines lines blocks =
      (lines.flatMap (bodyLine blocks.length) ++ bodyLine (blocks.length + 1) (text "pass"),
        openedBy lines :: blocks) := by
  unfold emitLines
  dsimp only
  rw [if_pos header, if_neg noChoice]
  rfl

/-- The header of a choice opens a block that begins with its first case. -/
theorem OpensChoice.emitLines_eq (opens : OpensChoice lines) : emitLines lines blocks =
    (lines.flatMap (bodyLine blocks.length), openedBy lines :: blocks) := by
  unfold emitLines
  dsimp only
  rw [if_pos opens.header, if_pos opens.choice]
  rfl

theorem OpensBlock.closeBlock_eq (opens : OpensBlock lines) :
    closeBlock (openedBy lines :: blocks) = .ok blocks :=
  closeBlock_of_noCase opens.noCase

/-- The end of a case closes its choice as well. -/
theorem OpensChoice.closeBlock_eq (opens : OpensChoice lines)
    (word : leadingWord (lastCode others) = text "case") :
    closeBlock (openedBy others :: openedBy lines :: blocks) = .ok blocks :=
  closeBlock_of_case word opens.choice

/-- A case does not stand behind another one when it is the first of its choice. -/
theorem OpensChoice.topWord_ne (opens : OpensChoice lines) :
    topWord (openedBy lines :: blocks) ≠ some (text "case") := by
  have inChoice : topWord (openedBy lines :: blocks) = some (text "match") := congrArg some opens.choice
  rw [inChoice]
  decide

/-- Literal text and the end of a block behind it are written in the block. -/
theorem prints_written (written : Text) (place finish : Nat) (closes : closeBlock blocks = .ok after) :
    Prints blocks [⟨.literal, normalize written, place⟩, ⟨.control, text " end ", finish⟩]
      (literalFragment blocks.length written) after := by
  have literal : Source.emit ⟨.literal, normalize written, place⟩ blocks =
      .ok (literalFragment blocks.length written, blocks) := rfl
  have closed : Source.emit ⟨.control, text " end ", finish⟩ blocks = .ok ([], after) := by
    let padding : Padding := ⟨[space], [space], by decide, by decide⟩
    have isEnd : text " end " = padding.around (normalize endWord) := rfl
    change emitControl (text " end ") blocks = _
    rw [isEnd, padding.emitControl_end, closes]
    rfl
  have printed := Prints.cons literal (Prints.single closed)
  rwa [List.append_nil] at printed

/-- The block of a directive that ends in a header is written below the lines of the directive. -/
theorem OpensBlock.prints (opens : OpensBlock (codeLines (normalize raw)))
    (stays : StaysInside (codeLines (normalize raw))) (noCase : topWord blocks ≠ some (text "case"))
    (written : Text) (offset place finish : Nat) :
    Prints blocks [⟨.control, normalize raw, offset⟩, ⟨.literal, normalize written, place⟩,
        ⟨.control, text " end ", finish⟩]
      (movedText (4 * (blocks.length + 1)) (headedLines raw written)) blocks := by
  have header : Source.emit ⟨.control, normalize raw, offset⟩ blocks =
      .ok ((codeLines (normalize raw)).flatMap (bodyLine blocks.length) ++
        bodyLine (blocks.length + 1) (text "pass"), openedBy (codeLines (normalize raw)) :: blocks) := by
    change emitControl (normalize raw) blocks = _
    rw [stays.emitControl_eq noCase, emitLines_of_header opens.header opens.noChoice]
  rw [movedText_headedLines]
  exact .cons header (prints_written written place finish opens.closeBlock_eq)

/-- The block of a case is written below the case, and the case below the header of its choice. -/
theorem OpensChoice.prints {content : Text} (opens : OpensChoice (codeLines (normalize raw)))
    (stays : StaysInside (codeLines (normalize raw))) (noCase : topWord blocks ≠ some (text "case"))
    (isCase : IsCase content case) (written : Text) (offset next place finish : Nat) :
    Prints blocks [⟨.control, normalize raw, offset⟩, ⟨.control, content, next⟩,
        ⟨.literal, normalize written, place⟩, ⟨.control, text " end ", finish⟩]
      (movedText (4 * (blocks.length + 1)) (choiceLines raw case written)) blocks := by
  have header : Source.emit ⟨.control, normalize raw, offset⟩ blocks =
      .ok ((codeLines (normalize raw)).flatMap (bodyLine blocks.length),
        openedBy (codeLines (normalize raw)) :: blocks) := by
    change emitControl (normalize raw) blocks = _
    rw [stays.emitControl_eq noCase, opens.emitLines_eq]
  have first : Source.emit ⟨.control, content, next⟩ (openedBy (codeLines (normalize raw)) :: blocks) =
      .ok (bodyLine (blocks.length + 1) case ++ bodyLine (blocks.length + 2) (text "pass"),
        openedBy [case] :: openedBy (codeLines (normalize raw)) :: blocks) := by
    have noChoice : leadingWord (lastCode [case]) ≠ text "match" := by
      rw [isCase.word]
      decide
    have inside : StaysInside (codeLines content) := isCase.only ▸ isCase.stays
    change emitControl content (openedBy (codeLines (normalize raw)) :: blocks) = _
    rw [inside.emitControl_eq opens.topWord_ne, isCase.only,
      emitLines_of_header isCase.header noChoice, List.flatMap_singleton]
    rfl
  rw [movedText_choiceLines isCase.line]
  exact .cons header (.cons first
    (prints_written written place finish (opens.closeBlock_eq isCase.word)))

/-- The render program whose directives are some statements, without the lines of its context. -/
def bareProgram (statements : List Stmt) : Program :=
  [renderDefinition (bufferStatement :: appendStatement :: (statements ++ [finishStatement]))]

/-- The names that such a program takes from its context, in order. -/
def bareNames (statements : List Stmt) : List Name :=
  sortedSet (NameUse.ofProgram (bareProgram statements)).referenced

/-- Statements may be all that a render function does. -/
structure MayFill (statements : List Stmt) : Prop where
  executable : isExecutable (bareProgram statements) = true
  shallow : programDepth (bareProgram statements) ≤ walkLimit
  bindable : AreBindable (bareNames statements) (statements ++ [finishStatement])

/-- **Lines that may be moved are the body of a compiled template**, whose tokens are written as these
lines: its program is a render function of their statements, with a line for each name that they
take from the context. -/
theorem MayMove.exists_compile {source : Text} {name : Option Text} {tokens : List Token}
    (mayMove : MayMove 0 lines statements) (body : BodyLines (movedText 4 lines))
    (fills : MayFill statements) (tokenized : tokenize .standard name (normalize source) = .ok tokens)
    (prints : Prints [] tokens (movedText 4 lines) []) :
    ∃ compiled, compile .standard name source = .ok compiled ∧
      compiled.program = [renderDefinition (bufferStatement :: appendStatement ::
        ((bareNames statements).map bindingStatement ++ (statements ++ [finishStatement])))] := by
  obtain ⟨fragments, emitted, isBody⟩ := prints []
  have read : Script.readProgram (prologue ++ fragments.flatten ++ epilogue) =
      .ok (bareProgram statements) := isBody ▸ mayMove.readProgram body
  obtain ⟨inside, others, isUnbound, executes, -⟩ :=
    executableProgram_boundProgram (executableProgram_of_readProgram read fills.executable)
  obtain ⟨rfl, rfl⟩ : statements ++ [finishStatement] = inside ∧ [] = others := by
    simpa [bareProgram, renderDefinition] using isUnbound
  exact ⟨_, compile_of_steps tokenized emitted read fills.shallow (executes fills.bindable), rfl⟩

/-- The pieces of a template whose directive opens a block with literal text in it. -/
def headedPieces (raw written : Text) : List Piece :=
  [.directive raw, .literal written, .directive (text " end ")]

/-- The pieces of a template with a choice by shape and one case with literal text in it. -/
def choicePieces (raw next written : Text) : List Piece :=
  [.directive raw, .directive next, .literal written, .directive (text " end ")]

/-- **What stands behind the last header of a directive is written in its block.** The fragments of the
directive, of literal text and of the end of the block are read as the lines of the directive with
the lines of a block below them, and all blocks are open that were open before. The template of these
pieces is compiled to a render function of the statements that are read, if they may be all that a
function does. -/
theorem emitAll_header (generator : Generator) (raw written : Text) (offset place finish : Nat)
    (read : readProgram (linesText (headedLines raw written)) = .ok statements)
    (layout : KeepsLayout (dedent raw))
    (fits : ∀ found, Script.lexemes (linesText (headedLines raw written)) = some found →
      FitsBelow generator.blocks.length found)
    (stays : StaysInside (codeLines (normalize raw)))
    (noCase : topWord generator.blocks ≠ some (text "case"))
    (opens : OpensBlock (codeLines (normalize raw))) :
    (∃ fragments, generator.emitAll [⟨.control, normalize raw, offset⟩,
        ⟨.literal, normalize written, place⟩, ⟨.control, text " end ", finish⟩] =
          .ok (fragments, generator) ∧
      ReadsInBody generator.blocks.length fragments.flatten statements) ∧
    ((∀ piece ∈ headedPieces raw written, piece.IsPlain ∧ piece.isExpression = false) →
      MayFill statements → ∀ name, ∃ compiled,
        compile .standard name ((headedPieces raw written).flatMap Piece.source) = .ok compiled ∧
        compiled.program = [renderDefinition (bufferStatement :: appendStatement ::
          ((bareNames statements).map bindingStatement ++ (statements ++ [finishStatement])))]) := by
  refine ⟨?_, fun pieces fills name => ?_⟩
  · obtain ⟨fragments, emitted, isBody⟩ :=
      opens.prints stays noCase written offset place finish generator.names
    refine ⟨fragments, emitted, ?_⟩
    rw [isBody]
    exact (layout.mayMove areBlockLines_headed read fits).readsInBody
  · obtain ⟨tokens, tokenized, spelled⟩ := Piece.exists_tokenize_statements
      (fun piece member => (pieces piece member).1) (by simp [headedPieces, Piece.isLiteral])
      (fun piece member => (pieces piece member).2) name
    obtain _ | ⟨⟨offset, rfl⟩, _ | ⟨⟨place, rfl⟩, _ | ⟨⟨finish, rfl⟩, _ | _⟩⟩⟩ := spelled
    have mayMove := layout.mayMove areBlockLines_headed read fun found isFound =>
      (fits found isFound).start
    exact mayMove.exists_compile bodyLines_headedLines fills tokenized
      (opens.prints stays (by decide) written offset place finish)

/-- A statement and a header over two lines, with a note in it, have literal text in their block, and
their template is compiled. -/
theorem emitAll_header_lines :
    let raw := text "\n  x\n  if (y # c\n  ):\n"
    let statements := [.expression (.name (text "x")),
      .ifBlock (.name (text "y")) [.pass, .expression (literalCall (text "t"))] []]
    readProgram (linesText (headedLines raw (text "t"))) = .ok statements ∧
      KeepsLayout (dedent raw) ∧ StaysInside (codeLines (normalize raw)) ∧
      OpensBlock (codeLines (normalize raw)) ∧ MayFill statements ∧
      (∃ fragments, Generator.start.emitAll [⟨.control, normalize raw, 0⟩,
          ⟨.literal, normalize (text "t"), 0⟩, ⟨.control, text " end ", 0⟩] =
            .ok (fragments, Generator.start) ∧
        ReadsInBody 0 fragments.flatten statements) ∧
      ∃ compiled, compile .standard none (text "<%\n  x\n  if (y # c\n  ):\n%>t<% end %>") =
          .ok compiled ∧
        compiled.program = [renderDefinition (bufferStatement :: appendStatement ::
          ((bareNames statements).map bindingStatement ++ (statements ++ [finishStatement])))] := by
  intro raw statements
  have isFound : Script.lexemes (linesText (headedLines raw (text "t"))) =
      some ([.name (text "x"), .lineEnd, .keyword .ifWord, .symbol .leftParen, .name (text "y"),
        .symbol .rightParen, .symbol .colon, .lineEnd, .indent, .keyword .passWord, .lineEnd] ++
          ((RenderLine.literal (text "t")).lexemes ++ [.lineEnd, .dedent])) := by
    rw [lexemes_eq_within]
    decide +kernel
  have read : readProgram (linesText (headedLines raw (text "t"))) = .ok statements := by
    refine readProgram_of_lexemes (by decide +kernel) isFound
      ((programOf?_eq_some (List.cons_ne_nil _ _)).mpr ?_)
    generalize (linesText (headedLines raw (text "t"))).length = count
    have block : (Inner.ofDepth (count + 4)).statements (.keyword .passWord :: .lineEnd ::
        ((RenderLine.literal (text "t")).lexemes ++ [.lineEnd, .dedent])) =
          some ([.pass, .expression (literalCall (text "t"))], [.dedent]) :=
      statements_of_reads (.more statement_pass (by rintro ⟨⟩) (by decide)
        (.more (statement_literal (text "t")) (by rintro ⟨⟩) (by decide) .none))
        (List.cons_ne_nil _ _) (.inr rfl)
    have test : (Inner.ofDepth (count + 4)).expression (.symbol .leftParen :: .name (text "y") ::
        .symbol .rightParen :: .symbol .colon :: .lineEnd :: .indent :: .keyword .passWord :: .lineEnd ::
          ((RenderLine.literal (text "t")).lexemes ++ [.lineEnd, .dedent])) =
        some (.name (text "y"), .symbol .colon :: .lineEnd :: .indent :: .keyword .passWord ::
          .lineEnd :: ((RenderLine.literal (text "t")).lexemes ++ [.lineEnd, .dedent])) := rfl
    have branch := statement_choice (choiceBranch_of_expression (by decide) test
      (colonBlock_deeper block)) .none (Nat.zero_le _) (by decide) (elseBlock_none (by decide)) rfl
    have first : ∀ rest, statement (Inner.ofDepth (count + 4)) (.name (text "x") :: .lineEnd :: rest) =
        some ([.expression (.name (text "x"))], rest) := fun _ =>
      statement_expression (by decide) (by decide) (expression_name rfl rfl)
    exact statements_of_reads (.more (first _) (by rintro ⟨⟩) (by decide)
      (.more branch (by rintro ⟨⟩) (by decide) .none)) (List.cons_ne_nil _ _) (.inl rfl)
  have layout : KeepsLayout (dedent raw) :=
    ⟨by decide +kernel, by decide +kernel, by decide +kernel, by decide +kernel, by decide +kernel⟩
  have stays : StaysInside (codeLines (normalize raw)) := ⟨by decide, by decide⟩
  have opens : OpensBlock (codeLines (normalize raw)) := ⟨by decide, by decide, by decide⟩
  have bindable : AreBindable (bareNames statements) (statements ++ [finishStatement]) := by
    refine ⟨?_, ?_, fun _ => by decide⟩
    · simp only [bareNames, mem_sortedSet]
      decide +kernel
    · rw [bareNames, mem_sortedSet]
      decide +kernel
  have fills : MayFill statements := ⟨by decide +kernel, by decide +kernel, bindable⟩
  have pieces : ∀ piece ∈ headedPieces raw (text "t"),
      piece.IsPlain ∧ piece.isExpression = false := by
    decide
  have fits : ∀ found, Script.lexemes (linesText (headedLines raw (text "t"))) = some found →
      FitsBelow 0 found := by
    intro found same
    cases isFound.symm.trans same
    decide
  obtain ⟨emitted, compiles⟩ := emitAll_header .start raw (text "t") 0 0 0 read layout fits stays
    (by decide) opens
  exact ⟨read, layout, stays, opens, fills, emitted, compiles pieces fills none⟩

/-- **A case takes its block below the header of a choice that stands on one line.** The fragments of a
directive that ends in such a header, of a case, of literal text and of the end are read as the lines
of the directive with the case and its block below them, and the template is compiled. -/
theorem emitAll_choice (generator : Generator) (raw next written : Text)
    (offset place within finish : Nat)
    (read : readProgram (linesText (choiceLines raw case written)) = .ok statements)
    (layout : KeepsLayout (dedent raw))
    (fits : ∀ found, Script.lexemes (linesText (choiceLines raw case written)) = some found →
      FitsBelow generator.blocks.length found)
    (stays : StaysInside (codeLines (normalize raw)))
    (noCase : topWord generator.blocks ≠ some (text "case"))
    (opens : OpensChoice (codeLines (normalize raw))) (isCase : IsCase (normalize next) case) :
    (∃ fragments, generator.emitAll [⟨.control, normalize raw, offset⟩,
        ⟨.control, normalize next, place⟩, ⟨.literal, normalize written, within⟩,
        ⟨.control, text " end ", finish⟩] = .ok (fragments, generator) ∧
      ReadsInBody generator.blocks.length fragments.flatten statements) ∧
    ((∀ piece ∈ choicePieces raw next written, piece.IsPlain ∧ piece.isExpression = false) →
      MayFill statements → ∀ name, ∃ compiled,
        compile .standard name ((choicePieces raw next written).flatMap Piece.source) =
          .ok compiled ∧
        compiled.program = [renderDefinition (bufferStatement :: appendStatement ::
          ((bareNames statements).map bindingStatement ++ (statements ++ [finishStatement])))]) := by
  have areLines := @areBlockLines_choice written _ isCase.line
  refine ⟨?_, fun pieces fills name => ?_⟩
  · obtain ⟨fragments, emitted, isBody⟩ :=
      opens.prints stays noCase isCase written offset place within finish generator.names
    refine ⟨fragments, emitted, ?_⟩
    rw [isBody]
    exact (layout.mayMove areLines read fits).readsInBody
  · obtain ⟨tokens, tokenized, spelled⟩ := Piece.exists_tokenize_statements
      (fun piece member => (pieces piece member).1) (by simp [choicePieces, Piece.isLiteral])
      (fun piece member => (pieces piece member).2) name
    obtain _ | ⟨⟨offset, rfl⟩, _ | ⟨⟨place, rfl⟩, _ | ⟨⟨within, rfl⟩, _ | ⟨⟨finish, rfl⟩, _ | _⟩⟩⟩⟩ :=
      spelled
    have mayMove := layout.mayMove areLines read fun found isFound => (fits found isFound).start
    exact mayMove.exists_compile (bodyLines_choiceLines isCase.line) fills tokenized
      (opens.prints stays (by decide) isCase written offset place within finish)

/-- A choice and its case, each on one line, have literal text in the block of the case. -/
theorem emitAll_choice_lines :
    let whole := text "match x: \n    case 1:\n        pass\n        _append('t')\n"
    linesText (choiceLines (text " match x: ") (text "case 1:") (text "t")) = whole ∧
      ∃ statements, readProgram whole = .ok statements ∧
        ∃ compiled, compile .standard none (text "<% match x: %><% case 1: %>t<% end %>") =
            .ok compiled ∧
          compiled.program = [renderDefinition (bufferStatement :: appendStatement ::
            ((bareNames statements).map bindingStatement ++ (statements ++ [finishStatement])))] := by
  intro whole
  have isWhole : linesText (choiceLines (text " match x: ") (text "case 1:") (text "t")) = whole := by
    decide +kernel
  have isFound : Script.lexemes whole = some [.name (text "match"), .name (text "x"), .symbol .colon,
      .lineEnd, .indent, .name (text "case"), .number (.whole 1), .symbol .colon, .lineEnd, .indent,
      .keyword .passWord, .lineEnd, .name (text "_append"), .symbol .leftParen,
      .string ⟨false, false, false, text "t"⟩, .symbol .rightParen, .lineEnd, .dedent, .dedent] := by
    rw [lexemes_eq_within]
    decide +kernel
  have parsed : (parseWithin? whole).any fun statements => isExecutable (bareProgram statements) &&
      decide (programDepth (bareProgram statements) ≤ walkLimit) &&
      (NameUse.ofProgram (bareProgram statements)).referenced.all fun name =>
        (Keyword.ofText? name).isNone && name != fixedName && !isPublicName name := by
    decide +kernel
  obtain ⟨statements, isProgram, checked⟩ := (Option.any_eq_true _ _).mp parsed
  simp only [Bool.and_eq_true, decide_eq_true_eq, List.all_eq_true, Option.isNone_iff_eq_none,
    bne_iff_ne, Bool.not_eq_true'] at checked
  obtain ⟨⟨executable, shallow⟩, names⟩ := checked
  have bindable : AreBindable (bareNames statements) (statements ++ [finishStatement]) := by
    refine ⟨fun name member => (names name (mem_sortedSet.mp member)).1.1, fun member =>
      (names _ (mem_sortedSet.mp member)).1.2 rfl, ?_⟩
    rintro ⟨name, member, isPublic⟩
    cases (names name (mem_sortedSet.mp member)).2.symm.trans isPublic
  have read : readProgram whole = .ok statements :=
    readProgram_of_parseWithin? (by decide) (by decide) isProgram
  have fits : ∀ found, Script.lexemes whole = some found → FitsBelow 0 found := by
    intro found same
    cases isFound.symm.trans same
    decide
  have layout : KeepsLayout (dedent (text " match x: ")) :=
    ⟨by decide +kernel, by decide +kernel, by decide +kernel, by decide +kernel, by decide +kernel⟩
  have isCase : IsCase (normalize (text " case 1: ")) (text "case 1:") :=
    ⟨by decide, ⟨by decide, by decide, by decide⟩, ⟨by decide, by decide⟩, by decide, by decide⟩
  have pieces : ∀ piece ∈ choicePieces (text " match x: ") (text " case 1: ") (text "t"),
      piece.IsPlain ∧ piece.isExpression = false := by
    decide
  obtain ⟨-, compiles⟩ := emitAll_choice .start (text " match x: ") (text " case 1: ") (text "t") 0 0 0 0
    (isWhole ▸ read) layout (isWhole ▸ fits) ⟨by decide, by decide⟩ (by decide)
    ⟨by decide, by decide⟩ isCase
  exact ⟨isWhole, statements, read, compiles pieces ⟨executable, shallow, bindable⟩ none⟩

/-- A header inside the block of another one gets no block of its own, though a deeper line may stand
below it. A choice by shape with a line break in its subject takes no case, though it does when it
stands on one line. -/
theorem not_compile_inner_header :
    (∃ program, readProgram (text "if x:\n    if y:\n        pass") = .ok program) ∧
    (∀ compiled, compile .standard none (text "<%\nif x:\n    if y:\n%>t<% end %>") ≠
      .ok compiled) ∧
    (∃ compiled, compile .standard none (text "<% match (1, 2): %><% case 1: %>t<% end %>") =
      .ok compiled) ∧
    ∀ compiled, compile .standard none (text "<%\nmatch (1,\n  2):\n%><% case 1: %>t<% end %>") ≠
      .ok compiled := by
  let nested : List Token := [⟨.control, text "\\nif x:\\n    if y:\\n", 0⟩, ⟨.literal, text "t", 24⟩,
    ⟨.control, text " end ", 25⟩]
  let choice : List Token := [⟨.control, text " match (1, 2): ", 0⟩, ⟨.control, text " case 1: ", 19⟩,
    ⟨.literal, text "t", 32⟩, ⟨.control, text " end ", 33⟩]
  let longChoice : List Token := [⟨.control, text "\\nmatch (1,\\n  2):\\n", 0⟩,
    ⟨.control, text " case 1: ", 24⟩, ⟨.literal, text "t", 37⟩, ⟨.control, text " end ", 38⟩]
  refine ⟨?_, ?_, ?_, ?_⟩
  · have parsed : (parseWithin? (text "if x:\n    if y:\n        pass")).isSome := by decide +kernel
    obtain ⟨program, isProgram⟩ := Option.isSome_iff_exists.mp parsed
    exact ⟨program, readProgram_of_parseWithin? (by decide) (by decide) isProgram⟩
  · have tokenized : tokenize .standard none (normalize
        (text "<%\nif x:\n    if y:\n%>t<% end %>")) = .ok nested := by cbv
    have emitted : Generator.start.emitAll nested = .ok ([
        text "    if x:\n        if y:\n        pass\n", text "        _append('t')\n", []],
        ⟨[], []⟩) := by rfl
    exact compile_ne_ok_of_unread tokenized emitted (by decide +kernel)
  · have tokenized : tokenize .standard none (normalize
        (text "<% match (1, 2): %><% case 1: %>t<% end %>")) = .ok choice := by cbv
    have emitted : Generator.start.emitAll choice = .ok ([text "    match (1, 2):\n",
        text "        case 1:\n            pass\n", text "            _append('t')\n", []],
        ⟨[], []⟩) := by rfl
    obtain ⟨compiled, isCompiled, -⟩ :=
      exists_compile_of_unread tokenized emitted (by decide +kernel) (by decide +kernel)
    exact ⟨compiled, isCompiled⟩
  · intro compiled isCompiled
    have tokenized : tokenize .standard none (normalize
        (text "<%\nmatch (1,\n  2):\n%><% case 1: %>t<% end %>")) = .ok longChoice := by cbv
    have emitted : Generator.start.emitAll longChoice = .ok ([
        text "    match (1,\n      2):\n        pass\n", text "        case 1:\n            pass\n",
        text "            _append('t')\n", []], ⟨[⟨[], text "2):"⟩], []⟩) := by rfl
    obtain ⟨_, _, _, _, tokenizedAgain, emittedAgain, -⟩ := exists_of_compile isCompiled
    cases tokenized.symm.trans tokenizedAgain
    cases emitted.symm.trans emittedAgain

end Stencil
