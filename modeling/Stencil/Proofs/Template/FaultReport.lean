import Stencil.Proofs.Template.UnterminatedPlace
import Stencil.Proofs.Text.Lines
import Stencil.Proofs.Text.Occurrence
import Stencil.Template.Compiled
import Stencil.Template.Fault

/-! # The report of a fault

Both forms of a report end in the quoted line and the line with the caret, and the compact form in an
empty gutter below them (`Stencil.TemplateFault.Shows`). The gutter of the quoted line is as wide as
its number, and at least six columns, while the caret always stands behind five: it is never under
the code point of the reported column, but at least one column before it
(`Stencil.TemplateFault.caret_before_column`).

The line of an unterminated directive is counted by the line feeds in front of it, and a report
quotes the line of this number among those that end at any line break. It is the line of the
directive, up to its first other line break, when every line break in front of the directive is a
line feed or the carriage return in front of one; otherwise it is a line that has ended before the
directive (`Stencil.compile_quoted_line`).
-/

namespace Stencil

open Text CodePoint

variable {name : Option Text} {source message content : Text} {code : Option FaultCode}
  {line column : Nat} {point : CodePoint}

theorem le_of_mem_digitsOnto {base fuel value : Nat} {tail : Text}
    (each : ∀ point ∈ tail, 45 ≤ point) (member : point ∈ digitsOnto base fuel value tail) :
    45 ≤ point := by
  induction fuel generalizing value tail with
  | zero => exact each point member
  | succ fuel ih =>
      have digit : 45 ≤ CodePoint.ofDigitValue (value % base) := by
        unfold CodePoint.ofDigitValue
        split <;> exact Nat.le_add_right_of_le (by decide)
      have extended := List.forall_mem_cons.mpr ⟨digit, each⟩
      rw [digitsOnto] at member
      split at member
      · exact extended point member
      · exact ih extended member

/-- A number holds no line feed. -/
theorem lineFeed_notMem_intText (value : Int) : lineFeed ∉ intText value := by
  have digits : ∀ point ∈ natText 10 value.natAbs, 45 ≤ point := fun point member =>
    le_of_mem_digitsOnto (by simp) member
  have each : ∀ point ∈ intText value, 45 ≤ point := by
    unfold intText
    split
    · exact List.forall_mem_cons.mpr ⟨Nat.le_refl _, digits⟩
    · exact digits
  intro member
  exact absurd (each lineFeed member) (by decide)

theorem notMem_spaces {count : Nat} (differs : point ≠ space) : point ∉ spaces count :=
  fun member => differs (List.eq_of_mem_replicate member)

theorem Text.occursAt_singleton {whole : Text} {place : Nat} :
    OccursAt [point] whole place ↔ whole[place]? = some point := by
  unfold OccursAt
  rw [← List.head?_drop]
  cases whole.drop place <;> simp [eq_comm]

namespace FaultPlace

/-- What stands in front of the quoted line. Lines are numbered from zero, and shown from one on. -/
def gutter (line : Nat) : Text := lineNumber (line + 1) ++ text " | "

/-- The line with the caret. -/
def caretLine (column : Nat) : Text := text "   | " ++ Text.spaces column ++ text "^"

theorem length_gutter (line : Nat) :
    (gutter line).length = max 3 (intText (line + 1)).length + 3 := by
  simp only [gutter, lineNumber, spaces, List.length_append, List.length_replicate]
  have bar : (text " | ").length = 3 := rfl
  omega

theorem lineFeed_notMem_gutter (line : Nat) : lineFeed ∉ gutter line := by
  simp only [gutter, lineNumber, List.mem_append, not_or]
  exact ⟨⟨notMem_spaces (by decide), lineFeed_notMem_intText _⟩, by decide⟩

theorem lineFeed_notMem_caretLine (column : Nat) : lineFeed ∉ caretLine column := by
  simp only [caretLine, List.mem_append, not_or]
  exact ⟨⟨by decide, notMem_spaces (by decide)⟩, by decide⟩

/-- The caret stands behind five columns and as many more as are reported. -/
theorem occursAt_caretLine (column place : Nat) :
    OccursAt (text "^") (caretLine column) place ↔ place = 5 + column := by
  have front : (text "   | " ++ spaces column).length = 5 + column := by
    simp only [spaces, List.length_append, List.length_replicate]
    rfl
  have absent : 94 ∉ text "   | " ++ spaces column := by
    rw [List.mem_append, not_or]
    exact ⟨by decide, notMem_spaces (by decide)⟩
  have mark : text "^" = [94] := rfl
  rw [mark, occursAt_singleton, caretLine, mark, ← front]
  constructor
  · intro found
    by_cases inside : place < (text "   | " ++ spaces column).length
    · rw [List.getElem?_append_left inside] at found
      exact (absent (List.mem_of_getElem? found)).elim
    · rw [List.getElem?_append_right (Nat.le_of_not_lt inside)] at found
      have last := (List.getElem?_eq_some_iff.mp found).1
      rw [List.length_singleton] at last
      omega
  · rintro rfl
    simp

/-- The lines below the location. -/
theorem snippet_eq (isLine : (splitLines source)[line]? = some content) :
    (FaultPlace.mk (some (line + 1)) name (some source) (some column)).snippet =
      [text "   |", gutter line ++ content, caretLine column] := by
  have quoted : (FaultPlace.mk (some (line + 1)) name (some source) (some column)).quotedLine =
      some ((line : Int) + 1, content) := by
    have known : ((line : Int) + 1 ≠ 0) := by omega
    have notNegative : ¬ (line : Int) + 1 < 0 := by omega
    simp [quotedLine, knownLine, Option.filter, known, notNegative, isLine]
  unfold snippet
  rw [quoted]
  simp [gutter, caretLine]

end FaultPlace

namespace TemplateFault

open FaultPlace

/-- The lines at the end of a report: a quoted line, the line with the caret below it and, in the
compact form, an empty gutter. -/
structure Shows (fault : TemplateFault) (quoted caret : Text) : Prop where
  message : ∃ front, splitOn lineFeed fault.message = front ++ [quoted, caret]
  /-- The compact form ends in the two lines and an empty gutter. -/
  compact : ∃ front, splitOn lineFeed fault.compact = front ++ [quoted, caret, text "   |"]

/-- Lines without a line feed end a text that is made of lines. -/
theorem exists_splitOn_join (upper : List Text) {lower : List Text} (held : lower ≠ [])
    (plain : ∀ line ∈ lower, lineFeed ∉ line) :
    ∃ front, splitOn lineFeed (join [lineFeed] (upper ++ lower)) = front ++ lower := by
  refine ⟨upper.flatMap (splitOn lineFeed), ?_⟩
  rw [splitOn_join (List.append_ne_nil_of_right_ne_nil _ held), List.flatMap_append]
  congr 1
  clear held
  induction lower with
  | nil => rfl
  | cons line lower ih =>
      obtain ⟨plainLine, plain⟩ := List.forall_mem_cons.mp plain
      rw [List.flatMap_cons, splitOn_of_not_mem plainLine, ih plain]
      rfl

/-- **A fault whose line is one of the text quotes it**, with a caret below. -/
theorem shows_of_line (isLine : (splitLines source)[line]? = some content) :
    (syntactic code message ⟨some (line + 1), name, some source, some column⟩).Shows
      (gutter line ++ content) (caretLine column) := by
  have plainQuoted : lineFeed ∉ gutter line ++ content := by
    rw [List.mem_append, not_or]
    refine ⟨lineFeed_notMem_gutter line, fun member => ?_⟩
    cases not_isLineBreak_of_mem_splitLines (List.mem_of_getElem? isLine) member
  have plainCaret := lineFeed_notMem_caretLine column
  have plainGutter : lineFeed ∉ text "   |" := by decide
  constructor
  · rw [TemplateFault.message, snippet_eq isLine]
    exact exists_splitOn_join [_, _, _] (List.cons_ne_nil _ _) (by simp [plainQuoted, plainCaret])
  · unfold TemplateFault.compact
    dsimp only
    rw [snippet_eq isLine]
    exact exists_splitOn_join [_, _, _] (List.cons_ne_nil _ _)
      (by simp [plainQuoted, plainCaret, plainGutter])

/-- **The caret stands before the reported column.** The quoted line begins behind its gutter, so
the code point of a column stands as many columns behind the gutter; the only caret below it stands
one column before, or as many as the line number has digits beyond two. -/
theorem caret_before_column (code : Option FaultCode) (message : Text) (name : Option Text)
    (source : Text) (line column : Nat) {content : Text}
    (isLine : (splitLines source)[line]? = some content) :
    ∃ front caret place,
      (syntactic code message ⟨some (line + 1), name, some source, some column⟩).Shows
        (front ++ content) caret ∧
      (∀ other, OccursAt (text "^") caret other ↔ other = place) ∧
      place + max 1 ((intText (line + 1)).length - 2) = front.length + column := by
  refine ⟨gutter line, caretLine column, 5 + column, shows_of_line isLine, occursAt_caretLine column,
    ?_⟩
  rw [length_gutter]
  omega

/-- The second code point of the second line has the number 2 in front of its line, and the caret
stands under the first one. -/
theorem caret_before_column_second_line :
    (splitLines (text "one\ntwo"))[1]? = some (text "two") ∧
      ∃ front caret place,
        (syntactic none (text "bad")
          ⟨some 2, some (text "t.html"), some (text "one\ntwo"), some 1⟩).Shows
            (front ++ text "two") caret ∧
        (∀ other, OccursAt (text "^") caret other ↔ other = place) ∧
        place + 1 = front.length + 1 := by
  have isLine : (splitLines (text "one\ntwo"))[1]? = some (text "two") := by decide
  have digits : intText ((1 : Nat) + 1) = text "2" := by decide
  have found := caret_before_column none (text "bad") (some (text "t.html")) _ 1 1 isLine
  rw [digits] at found
  exact ⟨isLine, found⟩

/-- A caret is not always under the code point of the reported column. -/
theorem not_caret_under_column :
    ¬ ∀ (code : Option FaultCode) (message : Text) (name : Option Text) (source : Text)
        (line column : Nat) (content : Text), (splitLines source)[line]? = some content →
      column < content.length → ∃ front caret,
        (syntactic code message ⟨some (line + 1), name, some source, some column⟩).Shows
          (front ++ content) caret ∧ OccursAt (text "^") caret (front.length + column) := by
  intro under
  obtain ⟨front, caret, shown, occurs⟩ := under none (text "bad") (some (text "t.html"))
    (text "one\ntwo") 1 1 (text "two") (by decide) (by decide)
  obtain ⟨upper, split⟩ := shown.message
  have lines : splitOn lineFeed (syntactic none (text "bad")
      ⟨some 2, some (text "t.html"), some (text "one\ntwo"), some 1⟩).message =
        [text "Syntax Error: bad", text "  --> t.html:2:1", text "   |"] ++
          [text "  2 | two", text "   |  ^"] := by
    decide
  have same := (List.append_inj' (lines.symm.trans split) rfl).2
  rw [List.cons.injEq, List.cons.injEq] at same
  obtain ⟨quoted, rfl, -⟩ := same
  have width : 9 = (front ++ text "two").length := congrArg List.length quoted
  have frontWidth : front.length = 6 := by
    have contentWidth : (text "two").length = 3 := rfl
    rw [List.length_append, contentWidth] at width
    omega
  rw [frontWidth] at occurs
  revert occurs
  decide

end TemplateFault

open FaultPlace

variable {markers : Markers} {fault : Unterminated}

/-- A step with faults of another kind does not find an unterminated directive. -/
theorem bind_mapError_ne {ε α : Type} {step : Except ε α} {wrap : ε → CompileError}
    {next : α → Except CompileError Compiled} (apart : ∀ other, wrap other ≠ .unterminated fault)
    (behind : ∀ value, next value ≠ .error (.unterminated fault)) :
    (step.mapError wrap >>= next) ≠ .error (.unterminated fault) := by
  cases step with
  | error other => exact fun same => apart other (Except.error.inj same)
  | ok value => exact behind value

/-- Only the tokens of a template can be unterminated. -/
theorem tokenize_of_compile
    (refused : compile markers name source = .error (.unterminated fault)) :
    tokenize markers name (normalize source) = .error fault := by
  have otherKind : ∀ other, CompileError.source other ≠ .unterminated fault :=
    fun _ => CompileError.noConfusion
  unfold compile at refused
  cases tokenized : tokenize markers name (normalize source) with
  | error other =>
      rw [tokenized] at refused
      cases refused
      rfl
  | ok tokens =>
      rw [tokenized] at refused
      refine (bind_mapError_ne otherKind (fun emitted => ?_) refused).elim
      refine bind_mapError_ne otherKind fun assembled => ?_
      exact bind_mapError_ne (fun _ => otherKind _) fun program same => nomatch same

/-- **The quoted line of an unterminated directive.** When neither marker begins like the second half
of a pair, the reports number the line of the directive by line feeds. Where every line break in
front of the directive is a line feed, or the carriage return in front of one, they quote this line
up to its next other line break, and the opening marker stands in the reported column of it unless a
line break is part of the marker. Otherwise they quote a line that has ended before the directive. -/
theorem compile_quoted_line (markers : Markers) (name : Option Text) (source : Text)
    (openingFree : ¬ markers.opening.BeginsLikeEscape)
    (closingFree : ¬ markers.closing.BeginsLikeEscape) {fault : Unterminated}
    (refused : compile markers name source = .error (.unterminated fault)) :
    ∃ line column place : Nat, ∃ content,
      fault.place.line = some (line + 1) ∧ fault.place.column = some column ∧
      LiesAt source place line column content ∧ StopsAt markers source 0 place ∧
      (FeedsEndLines (source.take place) →
        fault.toFault.Shows (gutter line ++ beforeBreak content) (caretLine column) ∧
        ((∀ point ∈ markers.opening, point.isLineBreak = false) →
          OccursAt markers.opening (beforeBreak content) column)) ∧
      (¬ FeedsEndLines (source.take place) → ∃ front shown,
        front <+: source.take place ∧ HasEnded front ∧ (splitLines front)[line]? = some shown ∧
        fault.toFault.Shows (gutter line ++ shown) (caretLine column)) := by
  obtain ⟨before, after, rfl, stops, begins, rfl⟩ :=
    exists_stopsAt_of_tokenize openingFree closingFree (tokenize_of_compile refused)
  obtain ⟨first, isFirst, notFeed⟩ := markers.opening_ok.exists_head? begins
  refine ⟨_, _, _, _, rfl, rfl, liesAt_append isFirst notFeed, stops, ?_, ?_⟩
  · rw [List.take_left]
    intro feeds
    refine ⟨TemplateFault.shows_of_line (getElem?_splitLines_count isFirst notFeed feeds), ?_⟩
    intro unbroken
    obtain ⟨rest, rfl⟩ := begins
    unfold OccursAt
    rw [beforeBreak_append (plain_openLine feeds), List.drop_left, beforeBreak_takeWhile,
      beforeBreak_append unbroken]
    exact List.prefix_append _ _
  · rw [List.take_left]
    intro others
    obtain ⟨front, shown, isPrefix, ended, isLine, isShown⟩ :=
      exists_getElem?_splitLines_count isFirst notFeed others
    exact ⟨front, shown, isPrefix, ended, isLine, TemplateFault.shows_of_line isShown⟩

/-- A line that ends in a carriage return and a line feed stands in front of the directive, and a form
feed behind it. -/
theorem compile_quoted_line_returns :
    compile .standard none (text "a\r\nb <% c\x0cd") =
        .error (.unterminated ⟨text "%>", some 2, none, some (text "a\r\nb <% c\x0cd"), some 2⟩) ∧
      (Unterminated.mk (text "%>")
        ⟨some 2, none, some (text "a\r\nb <% c\x0cd"), some 2⟩).toFault.Shows
          (text "  2 | b <% c") (text "   |   ^") := by
  have refused : compile .standard none (text "a\r\nb <% c\x0cd") =
      .error (.unterminated ⟨text "%>", some 2, none, some (text "a\r\nb <% c\x0cd"), some 2⟩) := by
    cbv
  refine ⟨refused, ?_⟩
  obtain ⟨line, column, place, content, isLine, isColumn, lies, -, quotes, -⟩ :=
    compile_quoted_line .standard none _ (by decide) (by decide) refused
  have lineIs : (2 : Int) = line + 1 := Option.some.inj isLine
  have columnIs : (2 : Int) = column := Option.some.inj isColumn
  obtain rfl : line = 1 := by omega
  obtain rfl : column = 2 := by omega
  obtain rfl : place = 5 := lies.place_eq
  obtain rfl : content = text "b <% c\x0cd" := Option.some.inj lies.isLine.symm
  have feeds : FeedsEndLines ((text "a\r\nb <% c\x0cd").take 5) := by
    simp [text, feedsEndLines_cons, feedsEndLines_nil, isLineBreak]
  have shown := (quotes feeds).1
  have numbered : gutter 1 ++ beforeBreak (text "b <% c\x0cd") = text "  2 | b <% c" := by decide
  have marked : caretLine 2 = text "   |   ^" := by decide
  rwa [numbered, marked] at shown

/-- A form feed in front of a directive is no line end where lines are numbered, but ends the line
that is quoted. -/
theorem not_compile_quoted_line :
    ¬ ∀ (source : Text) (fault : Unterminated),
      compile .standard none source = .error (.unterminated fault) →
      ∃ line column place : Nat, ∃ content caret,
        fault.place.line = some (line + 1) ∧ fault.place.column = some column ∧
        LiesAt source place line column content ∧ StopsAt .standard source 0 place ∧
        fault.toFault.Shows (gutter line ++ content) caret := by
  intro quotes
  have refused : compile .standard none (text "\x0c<% x") =
      .error (.unterminated ⟨text "%>", some 1, none, some (text "\x0c<% x"), some 1⟩) := by
    cbv
  obtain ⟨line, column, place, content, caret, -, -, lies, -, shown⟩ := quotes _ _ refused
  obtain ⟨upper, split⟩ := shown.message
  have lines : splitOn lineFeed (Unterminated.mk (text "%>")
      ⟨some 1, none, some (text "\x0c<% x"), some 1⟩).toFault.message =
        [text "Syntax Error: unterminated directive, expected '%>'", text "  --> <template>:1:1",
          text "   |"] ++ [text "  1 | ", text "   |  ^"] := by
    decide
  have same := (List.append_inj' (lines.symm.trans split) rfl).2
  rw [List.cons.injEq] at same
  have width : 6 = (gutter line ++ content).length := congrArg List.length same.1
  have held := lies.within
  rw [List.length_append, length_gutter] at width
  omega

end Stencil
