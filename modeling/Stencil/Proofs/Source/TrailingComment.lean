import Stencil.Proofs.Source.CodeLine
import Stencil.Proofs.Source.LineTokens
import Stencil.Proofs.Text.WrittenLines
import Stencil.Source.Assembly

/-! # A comment behind a statement

A comment may be put behind a statement of one line. The code of the line stays what it is
(`Stencil.StatementLine.stripComment_noted`), and so does the word that it begins with, so the
statement is treated as before. Only the line that is written down has the comment behind it
(`Stencil.StatementLine.emit_noted`).
-/

namespace Stencil

open Script Source CodePoint Text

variable {content line other tail note fragment : Text} {blocks : List OpenBlock}

/-- A statement of one line that falls into tokens, none of them a comment, without blanks at its
ends. -/
structure StatementLine where
  content : Text
  nonempty : content ≠ []
  stripped : strip content = content
  unbroken : ∀ point ∈ content, point.isLineBreak = false
  tokens : FallsIntoTokens content

/-- A comment and the spaces in front of it. -/
def trailingComment (note : Text) : Text := text "  # " ++ note

/-- What becomes of a statement, and what becomes of it with a comment behind its line: both fail
for want of an open block, both close a block, or both are written down and leave the same state, and
the fragments differ by the comment alone. Only the word that closes a block is not written down, and
it is blamed without the comment. -/
inductive DiffersByNote (line note : Text) :
    Except SourceError (Text × Generator) → Except SourceError (Text × Generator) → Prop
  | fault : DiffersByNote line note (.error (.block (.outside line)))
      (.error (.block (.outside (if line = endWord then line else line ++ note))))
  | closed {after : Generator} (closes : line = endWord) :
      DiffersByNote line note (.ok ([], after)) (.ok ([], after))
  | written {depth : Nat} {behind : Text} {after : Generator} (other : line ≠ endWord) :
      DiffersByNote line note (.ok (bodyLine depth line ++ behind, after))
        (.ok (bodyLine depth (line ++ note) ++ behind, after))

theorem Generator.emit_of_ok {generator : Generator} {offset : Nat}
    (emitted : emitControl content generator.blocks = .ok (fragment, blocks)) :
    generator.emit ⟨.control, content, offset⟩ = .ok (fragment, { generator with blocks := blocks }) := by
  unfold Generator.emit Source.emit
  dsimp only
  rw [emitted]

theorem Generator.emit_of_error {generator : Generator} {offset : Nat} {fault : BlockFault}
    (emitted : emitControl content generator.blocks = .error fault) :
    generator.emit ⟨.control, content, offset⟩ = .error (.block fault) := by
  unfold Generator.emit Source.emit
  dsimp only
  rw [emitted]

/-- What is no part of a word does not change the word that a line begins with. -/
theorem leadingWord_append_of_head (begins : ∃ first ∈ line.head?, first.isBlank = false)
    (apart : ∀ first ∈ tail.head?, isWordCharacter first = false) :
    leadingWord (line ++ tail) = leadingWord line := by
  obtain ⟨first, isFirst, noBlank⟩ := begins
  obtain ⟨rest, rfl⟩ := List.head?_eq_some_iff.mp isFirst
  have starts (others : Text) : stripStart (first :: others) = first :: others :=
    List.dropWhile_cons_of_neg (by simp [noBlank])
  have none : tail.takeWhile isWordCharacter = [] := by
    cases tail with
    | nil => rfl
    | cons next others => exact List.takeWhile_cons_of_neg (by simp [apart next rfl])
  have same : (first :: rest ++ tail).takeWhile isWordCharacter =
      (first :: rest).takeWhile isWordCharacter := by
    rw [List.takeWhile_append, none, List.append_nil]
    split
    · next whole => exact ((List.takeWhile_prefix _).eq_of_length whole).symm
    · rfl
  unfold leadingWord
  rw [List.cons_append, starts, starts]
  dsimp only
  rw [← List.cons_append, same]

/-- A statement of one line is treated as this line says. -/
theorem emitControl_of_line (isLine : codeLines content = [line]) (stripped : strip line = line) :
    emitControl content blocks =
      if stripComment line = endWord then (closeBlock blocks).map fun left => ([], left)
      else (leaveContinued line blocks).map (emitLines [line]) := by
  unfold emitControl
  rw [isLine]
  dsimp only
  rw [stripped]

/-- Lines that begin with the same word leave the same block, or they fail for want of one. -/
theorem leaveContinued_congr (same : leadingWord other = leadingWord line) :
    (∃ left, leaveContinued line blocks = .ok left ∧ leaveContinued other blocks = .ok left) ∨
      leaveContinued line blocks = .error (.outside (strip line)) ∧
        leaveContinued other blocks = .error (.outside (strip other)) := by
  unfold leaveContinued
  rw [same]
  dsimp only
  split
  · cases blocks with
    | nil => exact .inr ⟨rfl, rfl⟩
    | cons innermost outer => exact .inl ⟨outer, rfl, rfl⟩
  · exact .inl ⟨blocks, rfl, rfl⟩

/-- What is written behind a line, and the blocks that are open then, depend on its code alone. -/
theorem exists_emitLines_congr (same : lastCode [other] = lastCode [line]) :
    ∃ behind after, emitLines [line] blocks = (bodyLine blocks.length line ++ behind, after) ∧
      emitLines [other] blocks = (bodyLine blocks.length other ++ behind, after) := by
  unfold emitLines
  simp only [same, List.flatMap_singleton]
  split
  · split
    · exact ⟨[], _, by rw [List.append_nil], by rw [List.append_nil]⟩
    · exact ⟨_, _, rfl, rfl⟩
  · exact ⟨[], _, by rw [List.append_nil], by rw [List.append_nil]⟩

theorem strip_trailingComment_ne_nil (note : Text) : strip (trailingComment note) ≠ [] := by
  change stripEnd (hash :: (text " " ++ note)) ≠ []
  rw [stripEnd_cons rfl]
  exact List.cons_ne_nil _ _

/-- The spaces in front of a comment and its number sign are no blanks at its end. -/
theorem exists_stripEnd_trailingComment (note : Text) :
    ∃ kept, stripEnd (trailingComment note) = text "  " ++ hash :: kept := by
  have held : strip (hash :: (text " " ++ note)) ≠ [] := by
    rw [strip_of_head ⟨hash, rfl, rfl⟩, stripEnd_cons rfl]
    exact List.cons_ne_nil _ _
  have split : trailingComment note = text "  " ++ hash :: (text " " ++ note) := rfl
  rw [split, stripEnd_append_of_held held, stripEnd_cons rfl]
  exact ⟨_, rfl⟩

namespace StatementLine

variable (statement : StatementLine) (padding wider : Padding)

theorem stripComment_content : stripComment statement.content = statement.content := by
  have none := @FallsIntoTokens.beforeComment_append statement.content [] statement.tokens
    (fun _ isHead => nomatch isHead)
  rw [List.append_nil] at none
  rw [stripComment, none]
  rfl

/-- A statement with a comment behind it, as it is written down. -/
def noted (note : Text) : Text := statement.content ++ stripEnd (trailingComment note)

/-- The code of a line stays what it is when a comment is put behind it. -/
theorem stripComment_noted (note : Text) :
    stripComment (statement.noted note) = statement.content := by
  obtain ⟨kept, isKept⟩ := exists_stripEnd_trailingComment note
  have blanks : ∀ point ∈ text "  ", point.isBlank = true := by decide
  have begins : beforeComment 0 (text "  " ++ hash :: kept) = some (text "  ") := rfl
  have apart : ∀ first ∈ (text "  " ++ hash :: kept).head?, isQuotationMark first = false := by
    intro first isFirst
    cases isFirst
    rfl
  rw [noted, isKept, stripComment, statement.tokens.beforeComment_append apart, begins]
  exact (stripEnd_append_blanks blanks).trans (stripEnd_of_stripped statement.stripped)

theorem exists_head_append (tail : Text) :
    ∃ first ∈ (statement.content ++ tail).head?, first.isBlank = false := by
  obtain ⟨first, isFirst, noBlank⟩ := exists_head_of_stripped statement.nonempty statement.stripped
  exact ⟨first, List.mem_head?_append_of_mem_head? isFirst, noBlank⟩

theorem stripEnd_noted (note : Text) :
    stripEnd (statement.content ++ trailingComment note) = statement.noted note :=
  stripEnd_append_of_held (strip_trailingComment_ne_nil note)

theorem strip_noted (note : Text) : strip (statement.noted note) = statement.noted note := by
  have starts := statement.exists_head_append (stripEnd (trailingComment note))
  rw [← noted, ← stripEnd_noted] at starts
  rw [← stripEnd_noted, strip_of_head starts]
  exact stripEnd_eq_self not_isBlank_of_getLast?_stripEnd

/-- The word that a line begins with stays what it is when a comment is put behind it. -/
theorem leadingWord_noted (note : Text) :
    leadingWord (statement.noted note) = leadingWord statement.content := by
  obtain ⟨kept, isKept⟩ := exists_stripEnd_trailingComment note
  rw [noted, isKept]
  apply leadingWord_append_of_head
  · exact exists_head_of_stripped statement.nonempty statement.stripped
  · intro first isFirst
    cases isFirst
    rfl

theorem lastCode_noted (note : Text) :
    lastCode [statement.noted note] = lastCode [statement.content] := by
  unfold lastCode
  simp only [List.reverse_singleton, List.map_singleton, statement.stripComment_noted,
    statement.stripComment_content]

theorem codeLines_content :
    codeLines (padding.around (normalize statement.content)) = [statement.content] := by
  rw [codeLines_line padding (exists_head_of_stripped statement.nonempty statement.stripped)
    statement.unbroken, stripEnd_of_stripped statement.stripped]

theorem codeLines_noted (plain : ∀ point ∈ note, point.isLineBreak = false) :
    codeLines (padding.around (normalize (statement.content ++ trailingComment note))) =
      [statement.noted note] := by
  have unbroken : ∀ point ∈ statement.content ++ trailingComment note,
      point.isLineBreak = false := by
    have front : ∀ point ∈ text "  # ", point.isLineBreak = false := by decide
    exact List.forall_mem_append.mpr
      ⟨statement.unbroken, List.forall_mem_append.mpr ⟨front, plain⟩⟩
  rw [codeLines_line padding (statement.exists_head_append _) unbroken, stripEnd_noted]

/-- **A comment behind a statement of one line changes nothing but this line.** In any state of the
generator, the statement is treated as it is without the comment. -/
theorem emit_noted (generator : Generator) (offset place : Nat)
    (plain : ∀ point ∈ note, point.isLineBreak = false) :
    DiffersByNote statement.content (stripEnd (trailingComment note))
      (generator.emit ⟨.control, padding.around (normalize statement.content), offset⟩)
      (generator.emit
        ⟨.control, wider.around (normalize (statement.content ++ trailingComment note)), place⟩) := by
  have emitted := @emitControl_of_line _ _ generator.blocks (statement.codeLines_content padding)
    statement.stripped
  have emittedNoted := @emitControl_of_line _ _ generator.blocks
    (statement.codeLines_noted wider plain) (statement.strip_noted note)
  rw [statement.stripComment_content] at emitted
  rw [statement.stripComment_noted] at emittedNoted
  by_cases isEnd : statement.content = endWord
  · rw [if_pos isEnd] at emitted emittedNoted
    rcases closeBlock_cases generator.blocks with ⟨left, closes⟩ | ⟨-, fails⟩
    · rw [closes] at emitted emittedNoted
      rw [Generator.emit_of_ok emitted, Generator.emit_of_ok emittedNoted]
      exact .closed isEnd
    · have blamed := @DiffersByNote.fault statement.content (stripEnd (trailingComment note))
      rw [fails, ← isEnd] at emitted emittedNoted
      rw [Generator.emit_of_error emitted, Generator.emit_of_error emittedNoted]
      rwa [if_pos isEnd] at blamed
  · rw [if_neg isEnd] at emitted emittedNoted
    rcases @leaveContinued_congr _ _ generator.blocks (statement.leadingWord_noted note) with
      ⟨left, leaves, leavesNoted⟩ | ⟨fails, failsNoted⟩
    · obtain ⟨behind, after, writes, writesNoted⟩ :=
        @exists_emitLines_congr _ _ left (statement.lastCode_noted note)
      rw [leaves, Except.map, writes] at emitted
      rw [leavesNoted, Except.map, writesNoted] at emittedNoted
      rw [Generator.emit_of_ok emitted, Generator.emit_of_ok emittedNoted]
      exact .written isEnd
    · have blamed := @DiffersByNote.fault statement.content (stripEnd (trailingComment note))
      rw [fails, statement.stripped] at emitted
      rw [failsNoted, statement.strip_noted] at emittedNoted
      rw [Generator.emit_of_error emitted, Generator.emit_of_error emittedNoted]
      rwa [if_neg isEnd] at blamed

theorem emit_noted_quotes :
    (∀ point ∈ text "it's \"open\": end ", point.isLineBreak = false) ∧
      DiffersByNote (text "if x == '#':") (text "  # it's \"open\": end")
        (Generator.start.emit ⟨.control, text " if x == '#': ", 0⟩)
        (Generator.start.emit ⟨.control, text "if x == '#':  # it's \"open\": end ", 0⟩) := by
  have tokens : FallsIntoTokens (text "if x == " ++ apostrophe :: ([hash] ++ apostrophe :: text ":")) :=
    .append_plain (by decide) (.short rfl (.plain (by decide) (by decide) (by decide) .nil)
      (fun none => nomatch none) (.plain (by decide) rfl .nil))
  let header : StatementLine :=
    ⟨text "if x == '#':", by decide, by decide, by decide, tokens⟩
  have plain : ∀ point ∈ text "it's \"open\": end ", point.isLineBreak = false := by decide
  exact ⟨plain, emit_noted header ⟨text " ", text " ", by decide, by decide⟩
    ⟨[], [], by decide, by decide⟩ Generator.start 0 0 plain⟩

end StatementLine

end Stencil
