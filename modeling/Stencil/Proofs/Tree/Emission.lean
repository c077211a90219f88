import Stencil.Proofs.Source.CodeLine
import Stencil.Proofs.Source.Fragments
import Stencil.Proofs.Tree.Lines
import Stencil.Proofs.Tree.Tokens

/-! # The text that a block tree becomes

The fragments of a block tree's tokens are the lines of an outline: every directive becomes a
line, and every header opens a block that begins with an empty statement
(`Stencil.BlockTree.outline`). A tree leaves the stack of open blocks as it finds it, so the
depth of a line is the number of blocks around it (`Stencil.BlockTree.emits`).
-/

namespace Stencil

open Script Source CodePoint Text

mutual

/-- The lines of a tree. -/
def BlockTree.outline : BlockTree → Outline
  | .done => .done
  | .literal content rest => .line (RenderLine.literal content) rest.outline
  | .output shown rest => .line (RenderLine.output shown) rest.outline
  | .loop target source body rest =>
      .block (RenderLine.loop target source) RenderLine.skip body.outline rest.outline
  | .choice test body others rest =>
      .block (RenderLine.choice test) RenderLine.skip body.outline
        (others.outline.append rest.outline)

/-- The lines of the branches of a choice. -/
def Branches.outline : Branches → Outline
  | .none => .done
  | .otherwise body => .block RenderLine.otherwise RenderLine.skip body.outline .done
  | .test test body others =>
      .block (RenderLine.branch test) RenderLine.skip body.outline others.outline

end

mutual

/-- The lines of a tree are as deep as its blocks. -/
theorem BlockTree.levels_outline : ∀ tree : BlockTree, tree.outline.levels = tree.levels
  | .done => rfl
  | .literal _ rest => rest.levels_outline
  | .output _ rest => rest.levels_outline
  | .loop _ _ body rest => by
      simp only [BlockTree.outline, Outline.levels, BlockTree.levels, body.levels_outline,
        rest.levels_outline]
  | .choice _ body others rest => by
      simp only [BlockTree.outline, Outline.levels, Outline.levels_append, BlockTree.levels,
        body.levels_outline, others.levels_outline, rest.levels_outline, Nat.max_assoc]

theorem Branches.levels_outline : ∀ others : Branches, others.outline.levels = others.levels
  | .none => rfl
  | .otherwise body => by
      simp only [Branches.outline, Outline.levels, Branches.levels, body.levels_outline,
        Nat.max_zero]
  | .test _ body others => by
      simp only [Branches.outline, Outline.levels, Branches.levels, body.levels_outline,
        others.levels_outline]

end

/-- The fragment of a part, and the stack of open blocks behind it. -/
def Part.emit (part : Part) (blocks : List OpenBlock) :
    Except BlockFault (Text × List OpenBlock) :=
  match part with
  | .literal content => .ok (bodyLine blocks.length (RenderLine.literal content).content, blocks)
  | .output shown => .ok (bodyLine blocks.length (RenderLine.output shown).content, blocks)
  | .statement content => emitControl (text " " ++ content.source ++ text " ") blocks

theorem Statement.normalize_source (content : Statement) :
    normalize content.source = content.source := by
  refine normalize_of_not_escaped (List.any_eq_false.mpr fun point member escaped => ?_)
  have plain : ∀ other : Nat, IsWordPoint other ∨ other = 32 ∨ other = 58 →
      other ≠ 92 ∧ other ≠ 13 ∧ other ≠ 10 := by
    unfold IsWordPoint
    omega
  obtain ⟨noBackslash, noReturn, noFeed⟩ := plain point (Statement.mem_source member)
  simp only [isEscaped, Bool.or_eq_true, beq_iff_eq] at escaped
  rcases escaped with (isBackslash | isReturn) | isFeed
  · exact noBackslash isBackslash
  · exact noReturn isReturn
  · exact noFeed isFeed

theorem Statement.normalize_spaced (content : Statement) :
    normalize (text " " ++ content.source ++ text " ") =
      text " " ++ content.source ++ text " " := by
  rw [normalize_append, normalize_append, normalize_source]
  rfl

/-- The token that stands for a part in the normal form has the fragment of the part. -/
theorem Part.emit_eq {raw : Text} {part : Part} {normal plain : Token}
    {blocks : List OpenBlock} (spelled : part.Spelled plain) (twin : NormalTwin raw normal plain) :
    Source.emit normal blocks = part.emit blocks := by
  obtain ⟨kind, content, offset⟩ := normal
  obtain ⟨kind_eq, -, content_eq, expression_eq⟩ := twin
  cases spelled with
  | literal written place =>
      have content_is := content_eq (fun isExpression => nomatch isExpression)
      dsimp only at kind_eq content_is
      subst kind_eq content_is
      rfl
  | output shown place =>
      have content_is := expression_eq rfl
      dsimp only at kind_eq content_is
      subst kind_eq
      have written : Source.emit ⟨.expression, content, offset⟩ blocks =
          .ok (bodyLine blocks.length (appendCall (text "_str(" ++ strip (restore content) ++
            text ")")), blocks) := rfl
      rw [written, content_is]
      rfl
  | statement written place =>
      have content_is := content_eq (fun isExpression => nomatch isExpression)
      dsimp only at kind_eq content_is
      rw [Statement.normalize_spaced] at content_is
      subst kind_eq content_is
      rfl

namespace Statement

variable {content : Statement}

theorem exists_head (content : Statement) :
    ∃ first, content.source.head? = some first ∧ IsWordPoint first := by
  have letter : ∀ point ∈ [102, 105, 101], IsWordPoint point := by
    unfold IsWordPoint
    decide
  cases content with
  | loop target source => exact ⟨102, rfl, letter _ (by decide)⟩
  | choice test => exact ⟨105, rfl, letter _ (by decide)⟩
  | branch test => exact ⟨101, rfl, letter _ (by decide)⟩
  | otherwise => exact ⟨101, rfl, letter _ (by decide)⟩
  | finish => exact ⟨101, rfl, letter _ (by decide)⟩

theorem getLast?_header (header : content ≠ .finish) : content.source.getLast? = some 58 := by
  cases content with
  | loop target source => exact List.getLast?_concat
  | choice test => exact List.getLast?_concat
  | branch test => exact List.getLast?_concat
  | otherwise => rfl
  | finish => exact (header rfl).elim

/-- A statement stays when it is stripped. -/
theorem strip_source (content : Statement) : strip content.source = content.source := by
  obtain ⟨first, isFirst, isWord⟩ := content.exists_head
  by_cases header : content = .finish
  · subst header
    decide
  · exact strip_of_ends isFirst (getLast?_header header) isWord.not_isBlank rfl

/-- No comment and no line break stands in a statement. -/
theorem plain_of_mem {point : Nat} (member : point ∈ content.source) :
    point ≠ hash ∧ CodePoint.isLineBreak point = false := by
  have ranges : ∀ other : Nat, IsWordPoint other ∨ other = 32 ∨ other = 58 →
      other ≠ 35 ∧ (¬ 10 ≤ other ∨ ¬ other ≤ 13) ∧ (¬ 28 ≤ other ∨ ¬ other ≤ 30) ∧
        other ≠ 133 ∧ other ≠ 8232 ∧ other ≠ 8233 := by
    unfold IsWordPoint
    omega
  obtain ⟨noHash, noFeed, noSeparator, noNext, noLine, noParagraph⟩ :=
    ranges point (mem_source member)
  refine ⟨noHash, ?_⟩
  simp only [CodePoint.isLineBreak, Bool.or_eq_false_iff, Bool.and_eq_false_iff,
    decide_eq_false_iff_not, beq_eq_false_iff_ne]
  exact ⟨⟨⟨⟨noFeed, noSeparator⟩, noNext⟩, noLine⟩, noParagraph⟩

/-- A statement as a line of code. -/
def line (content : Statement) : CodeLine where
  content := content.source
  nonempty empty := by
    obtain ⟨first, isFirst, -⟩ := content.exists_head
    rw [empty] at isFirst
    cases isFirst
  stripped := content.strip_source
  unbroken _ member := (plain_of_mem member).2
  uncommented member := (plain_of_mem member).1 rfl

/-- The spaces between the markers of a directive and its statement. -/
def spaces : Padding where
  front := text " "
  back := text " "
  front_isSpaceOrTab := by decide
  back_isSpaceOrTab := by decide

theorem emit_eq (content : Statement) (blocks : List OpenBlock) :
    (Part.statement content).emit blocks =
      emitControl (spaces.around (normalize content.source)) blocks := by
  rw [normalize_source]
  rfl

/-- The word that a statement begins with. -/
def keyword : Statement → Text
  | .loop _ _ => text "for"
  | .choice _ => text "if"
  | .branch _ => text "elif"
  | .otherwise => text "else"
  | .finish => text "end"

/-- The block that a header opens. -/
def opened (content : Statement) : OpenBlock := ⟨content.keyword, content.source⟩

/-- A statement begins with its word. -/
theorem leadingWord_source (content : Statement) : leadingWord content.source = content.keyword := by
  cases content with
  | loop target source =>
      simp only [Statement.source, List.append_assoc]
      rfl
  | choice test =>
      simp only [Statement.source, List.append_assoc]
      rfl
  | branch test =>
      simp only [Statement.source, List.append_assoc]
      rfl
  | otherwise => decide
  | finish => decide

/-- A header is emitted behind the block that it leaves, if it leaves one. -/
theorem emit_header {blocks outer : List OpenBlock} (header : content ≠ .finish)
    (left : leaveContinued content.source blocks = .ok outer) :
    (Part.statement content).emit blocks =
      .ok (bodyLine outer.length content.source ++ bodyLine (outer.length + 1) (text "pass"),
        content.opened :: outer) := by
  have noEnd : content.source ≠ endWord := by
    intro isEnd
    have last := getLast?_header header
    rw [isEnd] at last
    exact absurd last (by decide)
  have ends : endsIn (text ":") content.source = true := by
    obtain ⟨front, split⟩ := List.getLast?_eq_some_iff.mp (getLast?_header header)
    rw [split]
    exact List.isSuffixOf_iff_suffix.mpr (List.suffix_append _ _)
  have noChoice : leadingWord content.source ≠ text "match" := by
    rw [leadingWord_source]
    cases content <;> simp only [keyword] <;> decide
  have opens : content.line.opened = content.opened :=
    congrArg (OpenBlock.mk · content.source) (leadingWord_source content)
  have written : emitLines [content.source] outer =
      (bodyLine outer.length content.source ++ bodyLine (outer.length + 1) (text "pass"),
        content.opened :: outer) := opens ▸ content.line.emitLines_header ends noChoice
  have emitted : emitControl (spaces.around (normalize content.source)) blocks =
      (leaveContinued content.source blocks).map (emitLines [content.source]) :=
    content.line.emitControl_around spaces noEnd
  rw [emit_eq, emitted, left]
  exact congrArg Except.ok written

/-- The header of a loop opens a block inside the others. -/
theorem emit_loop (target source : Variable) (blocks : List OpenBlock) :
    (Part.statement (.loop target source)).emit blocks =
      .ok (bodyLine blocks.length (RenderLine.loop target source).content ++
        bodyLine (blocks.length + 1) (text "pass"), (loop target source).opened :: blocks) := by
  refine emit_header (fun isFinish => nomatch isFinish) ?_
  unfold leaveContinued
  rw [leadingWord_source]
  rfl

theorem emit_choice (test : Variable) (blocks : List OpenBlock) :
    (Part.statement (.choice test)).emit blocks =
      .ok (bodyLine blocks.length (RenderLine.choice test).content ++
        bodyLine (blocks.length + 1) (text "pass"), (choice test).opened :: blocks) := by
  refine emit_header (fun isFinish => nomatch isFinish) ?_
  unfold leaveContinued
  rw [leadingWord_source]
  rfl

theorem emit_branch (test : Variable) (innermost : OpenBlock) (outer : List OpenBlock) :
    (Part.statement (.branch test)).emit (innermost :: outer) =
      .ok (bodyLine outer.length (RenderLine.branch test).content ++
        bodyLine (outer.length + 1) (text "pass"), (branch test).opened :: outer) := by
  refine emit_header (fun isFinish => nomatch isFinish) ?_
  unfold leaveContinued
  rw [leadingWord_source]
  rfl

theorem emit_otherwise (innermost : OpenBlock) (outer : List OpenBlock) :
    (Part.statement .otherwise).emit (innermost :: outer) =
      .ok (bodyLine outer.length RenderLine.otherwise.content ++
        bodyLine (outer.length + 1) (text "pass"), otherwise.opened :: outer) := by
  refine emit_header (fun isFinish => nomatch isFinish) ?_
  unfold leaveContinued
  rw [leadingWord_source]
  rfl

/-- The end of a block leaves the block and writes nothing. -/
theorem emit_finish (content : Statement) (outer : List OpenBlock) :
    (Part.statement .finish).emit (content.opened :: outer) = .ok ([], outer) := by
  have noCase : content.opened.keyword ≠ text "case" := by
    cases content <;> simp only [opened, keyword] <;> decide
  rw [emit_eq]
  exact (spaces.emitControl_end).trans (congrArg _ (closeBlock_of_noCase noCase))

end Statement

/-- Parts become a text and change the stack of open blocks. -/
inductive Emits : List OpenBlock → List Part → Text → List OpenBlock → Prop
  | nil {blocks : List OpenBlock} : Emits blocks [] [] blocks
  | cons {blocks between after : List OpenBlock} {part : Part} {rest : List Part}
      {fragment written : Text} (first : part.emit blocks = .ok (fragment, between))
      (others : Emits between rest written after) :
      Emits blocks (part :: rest) (fragment ++ written) after

theorem Emits.append {before between after : List OpenBlock} {upper lower : List Part}
    {written others : Text} (first : Emits before upper written between)
    (second : Emits between lower others after) :
    Emits before (upper ++ lower) (written ++ others) after := by
  induction first with
  | nil => exact second
  | cons emitted _ ih =>
      rw [List.append_assoc]
      exact .cons emitted (ih second)

mutual

/-- **A tree becomes the text of its lines** and leaves the stack of open blocks as it was. -/
theorem BlockTree.emits : ∀ (tree : BlockTree) (blocks : List OpenBlock),
    Emits blocks tree.parts (tree.outline.text (blocks.length + 1)) blocks
  | .done, _ => .nil
  | .literal content rest, blocks => by
      rw [BlockTree.outline, Outline.text, ← bodyLine_eq_text]
      exact .cons rfl (rest.emits blocks)
  | .output shown rest, blocks => by
      rw [BlockTree.outline, Outline.text, ← bodyLine_eq_text]
      exact .cons rfl (rest.emits blocks)
  | .loop target source body rest, blocks => by
      have closing := Statement.emit_finish (.loop target source) blocks
      have inside := body.emits ((Statement.loop target source).opened :: blocks)
      rw [BlockTree.outline, Outline.text, ← bodyLine_eq_text, ← bodyLine_eq_text,
        List.append_assoc]
      exact .cons (Statement.emit_loop target source blocks)
        (inside.append (.cons closing (rest.emits blocks)))
  | .choice test body others rest, blocks => by
      have inside := body.emits ((Statement.choice test).opened :: blocks)
      -- The end closes the block of the last branch, whichever it is.
      obtain ⟨last, branches⟩ := others.emits (.choice test) blocks
      have closing := Statement.emit_finish last blocks
      rw [BlockTree.outline, Outline.text, Outline.text_append, ← bodyLine_eq_text,
        ← bodyLine_eq_text, List.append_assoc]
      exact .cons (Statement.emit_choice test blocks)
        (inside.append (branches.append (.cons closing (rest.emits blocks))))

/-- The branches of a choice become the text of their lines, and the block of the last one is
left open. -/
theorem Branches.emits : ∀ (others : Branches) (before : Statement) (blocks : List OpenBlock),
    ∃ last : Statement, Emits (before.opened :: blocks) others.parts
      (others.outline.text (blocks.length + 1)) (last.opened :: blocks)
  | .none, before, _ => ⟨before, .nil⟩
  | .otherwise body, before, blocks => by
      have inside := body.emits (Statement.otherwise.opened :: blocks)
      refine ⟨.otherwise, ?_⟩
      rw [Branches.outline, Outline.text, ← bodyLine_eq_text, ← bodyLine_eq_text, Outline.text,
        List.append_nil]
      exact .cons (Statement.emit_otherwise before.opened blocks) inside
  | .test test body others, before, blocks => by
      have inside := body.emits ((Statement.branch test).opened :: blocks)
      obtain ⟨last, branches⟩ := others.emits (.branch test) blocks
      refine ⟨last, ?_⟩
      rw [Branches.outline, Outline.text, ← bodyLine_eq_text, ← bodyLine_eq_text,
        List.append_assoc]
      exact .cons (Statement.emit_branch test before.opened blocks) (inside.append branches)

end

/-- A token that has the fragment of a part, whatever blocks are open. -/
def Part.IsEmittedBy (part : Part) (token : Token) : Prop :=
  ∀ blocks, Source.emit token blocks = part.emit blocks

/-- Tokens that have the fragments of parts are emitted like the parts. -/
theorem Emits.emitAll {before after : List OpenBlock} {parts : List Part} {written : Text}
    {tokens : List Token} {names : List Name} (emits : Emits before parts written after)
    (same : List.Forall₂ Part.IsEmittedBy parts tokens) :
    ∃ fragments, (Generator.mk before names).emitAll tokens =
      .ok (fragments, ⟨after, names⟩) ∧ fragments.flatten = written := by
  induction emits generalizing tokens with
  | nil =>
      cases same
      exact ⟨[], rfl, rfl⟩
  | cons first others ih =>
      cases same with
      | cons sameFirst sameOthers =>
          obtain ⟨fragments, emitted, flat⟩ := ih sameOthers
          refine ⟨_ :: fragments, ?_, by rw [List.flatten_cons, flat]⟩
          exact emitAll_cons.mpr ⟨_, _, _, (sameFirst _).trans first, emitted, rfl⟩

end Stencil
