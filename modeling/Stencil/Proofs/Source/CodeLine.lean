import Stencil.Proofs.Text.Lines
import Stencil.Proofs.Text.Strip
import Stencil.Source.Block

/-! # Directives of one line

A directive may hold one line of code with spaces and tabulators around it. That line is all that is
read of it (`Stencil.CodeLine.codeLines_around`), so it decides alone what is emitted: `end` closes
a block (`Stencil.Padding.emitControl_end`), and any other line is written down where the block is
left that it goes on with (`Stencil.CodeLine.emitControl_around`).
-/

namespace Stencil

open Script Source CodePoint Text

/-- A line of code without blanks at its ends and without a comment. -/
structure CodeLine where
  content : Text
  nonempty : content ≠ []
  stripped : strip content = content
  unbroken : ∀ point ∈ content, point.isLineBreak = false
  uncommented : hash ∉ content

/-- Spaces and tabulators in front of a text and behind it. -/
structure Padding where
  front : Text
  back : Text
  front_isSpaceOrTab : ∀ point ∈ front, point.isSpaceOrTab = true
  back_isSpaceOrTab : ∀ point ∈ back, point.isSpaceOrTab = true

/-- A text between its spaces and tabulators. -/
def Padding.around (padding : Padding) (content : Text) : Text :=
  padding.front ++ content ++ padding.back

variable {blocks outer : List OpenBlock} {innermost : OpenBlock}
  {line whole front content : Text}

/-- The margin of a single line is what stands in front of its code. -/
theorem dedent_line (margin : ∀ point ∈ front, point.isSpaceOrTab = true)
    (begins : ∃ first ∈ content.head?, first.isSpaceOrTab = false)
    (noFeed : lineFeed ∉ front ++ content) : dedent (front ++ content) = content := by
  obtain ⟨first, isFirst, stops⟩ := begins
  obtain ⟨rest, rfl⟩ := List.head?_eq_some_iff.mp isFirst
  have kept : clearIfBlank (front ++ first :: rest) = front ++ first :: rest := by
    have held : (front ++ first :: rest).all CodePoint.isSpaceOrTab = false := by
      simp [stops]
    rw [clearIfBlank, held]
    rfl
  have indented : indentation (front ++ first :: rest) = front := by
    rw [indentation, List.takeWhile_append_of_pos margin,
      List.takeWhile_cons_of_neg (by simp [stops]), List.append_nil]
  have isMargin : Text.margin [front ++ first :: rest] = front := by
    simp [Text.margin, indented]
  unfold dedent
  rw [splitOn_of_not_mem noFeed, List.map_singleton, kept]
  simp only [isMargin, List.map_singleton, List.drop_left]
  rfl

theorem CodePoint.not_isLineBreak_of_isSpaceOrTab {point : CodePoint}
    (margin : point.isSpaceOrTab = true) : point.isLineBreak = false := by
  simp only [CodePoint.isSpaceOrTab, Bool.or_eq_true, beq_iff_eq] at margin
  rcases margin with rfl | rfl <;> rfl

namespace Padding

variable (padding : Padding)

/-- Spaces and tabulators stay what they are in the normal form. -/
theorem restore_around : restore (padding.around (normalize content)) = padding.around content := by
  have plain {side : Text} (isPlain : ∀ point ∈ side, point.isSpaceOrTab = true) :
      normalize side = side := by
    refine normalize_of_not_escaped (List.any_eq_false.mpr fun point member => ?_)
    have either := isPlain point member
    simp only [CodePoint.isSpaceOrTab, Bool.or_eq_true, beq_iff_eq] at either
    rcases either with rfl | rfl <;> decide
  have whole : padding.around (normalize content) = normalize (padding.around content) := by
    rw [around, around, normalize_append, normalize_append, plain padding.front_isSpaceOrTab,
      plain padding.back_isSpaceOrTab]
  rw [whole, restore_normalize]

theorem isBlank_of_mem_front : ∀ point ∈ padding.front, point.isBlank = true :=
  fun point member => isBlank_of_isSpaceOrTab (padding.front_isSpaceOrTab point member)

theorem isBlank_of_mem_back : ∀ point ∈ padding.back, point.isBlank = true :=
  fun point member => isBlank_of_isSpaceOrTab (padding.back_isSpaceOrTab point member)

theorem strip_around : strip (padding.around content) = strip content :=
  strip_append_blanks padding.isBlank_of_mem_front padding.isBlank_of_mem_back

end Padding

/-- A line between spaces and tabulators is the only line of its directive. -/
theorem codeLines_line (padding : Padding) (begins : ∃ first ∈ line.head?, first.isBlank = false)
    (plain : ∀ point ∈ line, point.isLineBreak = false) :
    codeLines (padding.around (normalize line)) = [stripEnd line] := by
  obtain ⟨first, isFirst, noBlank⟩ := begins
  obtain ⟨rest, rfl⟩ := List.head?_eq_some_iff.mp isFirst
  have unbroken : ∀ point ∈ padding.front ++ (first :: rest ++ padding.back),
      point.isLineBreak = false := by
    intro point member
    rcases List.mem_append.mp member with before | member
    · exact not_isLineBreak_of_isSpaceOrTab (padding.front_isSpaceOrTab point before)
    rcases List.mem_append.mp member with inside | behind
    · exact plain point inside
    · exact not_isLineBreak_of_isSpaceOrTab (padding.back_isSpaceOrTab point behind)
  have dedented : dedent (padding.around (first :: rest)) = first :: rest ++ padding.back := by
    rw [Padding.around, List.append_assoc]
    apply dedent_line padding.front_isSpaceOrTab
    · exact ⟨first, rfl, Bool.eq_false_iff.mpr fun margin => by
        simp [isBlank_of_isSpaceOrTab margin] at noBlank⟩
    · exact fun member => absurd (unbroken _ member) (by decide)
  have held : strip (first :: rest ++ padding.back) ≠ [] := by
    rw [strip_of_head ⟨first, rfl, noBlank⟩, List.cons_append, stripEnd_cons noBlank]
    exact List.cons_ne_nil _ _
  unfold codeLines
  rw [padding.restore_around, dedented, splitLines_of_plain
    (List.append_ne_nil_of_left_ne_nil (List.cons_ne_nil _ _) _)
    fun point member => unbroken point (List.mem_append_right _ member), List.filter_singleton,
    List.isEmpty_eq_false_iff.mpr held, Bool.not_false, cond_true, List.map_singleton,
    stripEnd_append_blanks padding.isBlank_of_mem_back]

theorem stripComment_of_not_mem (absent : hash ∉ line) : stripComment line = line := by
  have none : ∀ (rest : Text) (pending : Nat), hash ∉ rest → beforeComment pending rest = none := by
    intro rest
    induction rest with
    | nil => exact fun _ _ => rfl
    | cons point rest ih =>
        intro pending absent
        obtain ⟨differs, absentBehind⟩ := not_or.mp (List.mem_cons.not.mp absent)
        unfold beforeComment
        simp only [ih _ absentBehind, Ne.symm differs, ↓reduceIte]
        split
        · rfl
        · split
          · cases stringExtent point rest <;> rfl
          · rfl
  unfold stripComment
  rw [none line 0 absent]

namespace CodeLine

variable (code : CodeLine) (padding : Padding)

theorem codeLines_around : codeLines (padding.around (normalize code.content)) = [code.content] := by
  rw [codeLines_line padding (exists_head_of_stripped code.nonempty code.stripped) code.unbroken,
    stripEnd_of_stripped code.stripped]

theorem stripComment_content : stripComment code.content = code.content :=
  stripComment_of_not_mem code.uncommented

theorem lastCode_content : lastCode [code.content] = code.content := by
  simp [lastCode, code.stripComment_content, code.stripped, code.nonempty]

/-- The block that a line opens. -/
def opened : OpenBlock := ⟨leadingWord code.content, code.content⟩

/-- A line is written down where the block is left that it goes on with. -/
theorem emitControl_around (noEnd : code.content ≠ endWord) :
    emitControl (padding.around (normalize code.content)) blocks =
      (leaveContinued code.content blocks).map (emitLines [code.content]) := by
  unfold emitControl
  rw [code.codeLines_around padding]
  dsimp only
  rw [code.stripped, code.stripComment_content, if_neg noEnd]

theorem emitLines_statement (noHeader : endsIn (text ":") code.content = false) :
    emitLines [code.content] blocks = (bodyLine blocks.length code.content, blocks) := by
  simp [emitLines, code.lastCode_content, noHeader]

/-- A header opens its block, which begins with a statement that does nothing. -/
theorem emitLines_header (header : endsIn (text ":") code.content = true)
    (noChoice : leadingWord code.content ≠ text "match") :
    emitLines [code.content] blocks =
      (bodyLine blocks.length code.content ++ bodyLine (blocks.length + 1) (text "pass"),
        code.opened :: blocks) := by
  simp [emitLines, code.lastCode_content, code.stripped, header, noChoice, opened]

/-- A choice by shape opens a block that nothing stands in but its cases. -/
theorem emitLines_choice (header : endsIn (text ":") code.content = true)
    (isChoice : leadingWord code.content = text "match") :
    emitLines [code.content] blocks =
      (bodyLine blocks.length code.content, code.opened :: blocks) := by
  simp [emitLines, code.lastCode_content, code.stripped, header, isChoice, opened]

end CodeLine

/-- The line that closes a block. -/
def CodeLine.finish : CodeLine where
  content := endWord
  nonempty := by decide
  stripped := by decide
  unbroken := by decide
  uncommented := by decide

theorem Padding.emitControl_end (padding : Padding) :
    emitControl (padding.around (normalize endWord)) blocks =
      (closeBlock blocks).map fun left => ([], left) := by
  have isLine : codeLines (padding.around (normalize endWord)) = [endWord] :=
    CodeLine.finish.codeLines_around padding
  unfold emitControl
  rw [isLine]
  rfl

/-- A line that goes on with no block leaves none. -/
theorem leaveContinued_of_first (noContinuation : leadingWord line ∉ continuationWords)
    (noCase : leadingWord line ≠ text "case") : leaveContinued line blocks = .ok blocks := by
  unfold leaveContinued
  simp only [List.contains_eq_mem, noContinuation, noCase, decide_false, Bool.false_and,
    Bool.or_false, Bool.false_eq_true, ↓reduceIte]
  rfl

theorem leaveContinued_of_continuation (isContinuation : leadingWord line ∈ continuationWords) :
    leaveContinued line (innermost :: outer) = .ok outer := by
  unfold leaveContinued
  simp only [List.contains_eq_mem, isContinuation, decide_true, Bool.true_or, ↓reduceIte]
  rfl

/-- A case stands inside its choice and leaves the case in front of it. -/
theorem leaveContinued_of_case (isCase : leadingWord line = text "case") :
    leaveContinued line (innermost :: outer) =
      .ok (if innermost.keyword = text "case" then outer else innermost :: outer) := by
  have noContinuation : text "case" ∉ continuationWords := by decide
  unfold leaveContinued
  simp only [List.contains_eq_mem, isCase, noContinuation, topWord, List.head?_cons,
    Option.map_some, Option.some.injEq, decide_false, decide_true, Bool.true_and, Bool.false_or,
    decide_eq_true_eq]
  split <;> rfl

theorem closeBlock_cons : closeBlock (innermost :: outer) =
    .ok (if innermost.keyword = text "case" && topWord outer = some (text "match") then outer.drop 1
      else outer) := by
  unfold closeBlock popBlock
  simp only [bind, Except.bind]
  split <;> rfl

/-- The innermost block can be closed when there is one. -/
theorem closeBlock_cases (blocks : List OpenBlock) :
    (∃ left, closeBlock blocks = .ok left) ∨
      blocks = [] ∧ closeBlock blocks = .error (.outside endWord) := by
  cases blocks with
  | nil => exact .inr ⟨rfl, rfl⟩
  | cons innermost outer => exact .inl ⟨_, closeBlock_cons⟩

theorem closeBlock_of_noCase (noCase : innermost.keyword ≠ text "case") :
    closeBlock (innermost :: outer) = .ok outer := by
  rw [closeBlock_cons, decide_eq_false noCase]
  rfl

/-- The end of a case is the end of its choice. -/
theorem closeBlock_of_case {choice : OpenBlock} (isCase : innermost.keyword = text "case")
    (isChoice : choice.keyword = text "match") :
    closeBlock (innermost :: choice :: outer) = .ok outer := by
  have isTop : topWord (choice :: outer) = some (text "match") := congrArg some isChoice
  rw [closeBlock_cons, decide_eq_true isCase, decide_eq_true isTop]
  rfl

end Stencil
