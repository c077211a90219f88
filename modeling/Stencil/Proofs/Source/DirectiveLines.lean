import Stencil.Proofs.Script.InsertedText
import Stencil.Proofs.Source.FragmentLines
import Stencil.Proofs.Source.LeadingWord
import Stencil.Proofs.Tree.Lines

/-! # The lines of complete directives

A directive is complete when its line is read by itself as one logical line
(`Stencil.Token.IsComplete`). The fragment of a complete directive is then that line, with a line
that does nothing behind it when it opens a block other than a choice by shape, or it is nothing at
all (`Stencil.Lays`, `Stencil.exists_lays_of_emit`).
-/

namespace Stencil

open Script Source CodePoint Text

/-- A text in front of others has the line ends of another one. -/
def Unifies (front unified : Text) : Prop :=
  ∀ rest, rest ≠ [] → unifyLineEnds (front ++ rest) = unified ++ unifyLineEnds rest

variable {front unified next further line content raw : Text} {depth : Nat}

theorem unifies_nil : Unifies [] [] := fun _ _ => rfl

theorem unifies_of_plain (plain : carriageReturn ∉ front) : Unifies front front :=
  fun _ held => unifyLineEnds_append plain held

theorem Unifies.append (unifies : Unifies front unified) (behind : Unifies next further) :
    Unifies (front ++ next) (unified ++ further) := by
  intro rest held
  rw [List.append_assoc, unifies _ (List.append_ne_nil_of_right_ne_nil _ held), behind rest held,
    List.append_assoc]

/-- A line of the body has the line ends of its text, and one of its own. -/
theorem Unifies.bodyLine (unifies : Unifies line content) :
    Unifies (bodyLine depth line) (lineAt (depth + 1) content) := by
  have feed : Unifies [lineFeed] [lineFeed] := unifies_of_plain (by decide)
  unfold Source.bodyLine lineAt
  rw [indentAt_eq]
  refine (Unifies.append (unifies_of_plain fun member => ?_) unifies).append feed
  cases List.eq_of_mem_replicate member

/-- A line stands by itself: it is a comment, or it is read as one logical line that neither
decorates the line behind it nor opens the block of a class. -/
def IsCompleteLine (line : Text) : Prop :=
  line.head? = some hash ∨ ∃ found, IsLoneLine line found ∧
    found.head? ≠ some (.symbol (.operator .matrixMultiply)) ∧
    (endsIn (text ":") (lastCode [line]) = true → found.head? ≠ some (.keyword .classWord))

/-- A token is complete: a statement has one line at most, which stands by itself, and so does the
line that writes out an expression. Literal text is the normal form of some text. -/
def Token.IsComplete (token : Token) : Prop :=
  match token.kind with
  | .literal => ∃ raw, token.content = normalize raw
  | .expression => ∃ found,
      IsLoneLine (appendCall (text "_str(" ++ (restore token.content).strip ++ text ")")) found
  | .control => ∀ line ∈ codeLines token.content,
      codeLines token.content = [line] ∧ IsCompleteLine line

/-- A logical line among the lines of the body. -/
structure IsRowLine (content : Text) (start : Lexeme) (inside : List Lexeme) : Prop where
  isLine : IsLogicalLine content (start :: inside)
  inline : Inline (start :: inside)
  plain : start ≠ .symbol (.operator .matrixMultiply)

/-- What a token puts into the body, at its depth below some open blocks, and the blocks that are
open behind it. Blocks end in front of a line when it goes on with one of them. -/
inductive Lays (blocks : List OpenBlock) : Text → List OpenBlock → Prop
  | nothing {inner outer : List OpenBlock} (split : blocks = inner ++ outer) : Lays blocks [] outer
  | comment {content : Text} (plain : lineFeed ∉ content) :
      Lays blocks (lineAt (blocks.length + 1) (hash :: content)) blocks
  | row {inner outer : List OpenBlock} {content : Text} {start : Lexeme} {inside : List Lexeme}
      (split : blocks = inner ++ outer) (isRow : IsRowLine content start inside)
      (joins : start.joins = true → inner ≠ []) : Lays blocks (lineAt (outer.length + 1) content) outer
  | choice {inner outer : List OpenBlock} {content : Text} {start : Lexeme} {inside : List Lexeme}
      {opened : OpenBlock} (split : blocks = inner ++ outer) (isRow : IsRowLine content start inside)
      (joins : start.joins = true → inner ≠ []) (noClass : start ≠ .keyword .classWord)
      (isChoice : opened.keyword = text "match") :
      Lays blocks (lineAt (outer.length + 1) content) (opened :: outer)
  | header {inner outer : List OpenBlock} {content : Text} {start : Lexeme} {inside : List Lexeme}
      {opened : OpenBlock} (split : blocks = inner ++ outer) (isRow : IsRowLine content start inside)
      (joins : start.joins = true → inner ≠ []) (noClass : start ≠ .keyword .classWord)
      (noChoice : start ≠ choiceOpener) :
      Lays blocks (lineAt (outer.length + 1) content ++
        lineAt (outer.length + 2) RenderLine.skip.content) (opened :: outer)

variable {blocks after : List OpenBlock} {fragment : Text} {start : Lexeme} {inside : List Lexeme}

/-- A call of the function that writes begins with its name. -/
theorem start_eq_of_isLogicalLine {rest : Text}
    (isLine : IsLogicalLine (text "_append" ++ 40 :: rest) (start :: inside)) :
    start = .name (text "_append") := by
  obtain ⟨first, others, length, same, read⟩ := isLine.exists_first
  obtain ⟨rfl, rfl⟩ := List.cons.inj same
  have ends : EndsWord (40 :: rest ++ [lineFeed]) := endsWord_cons (by decide)
  rw [List.append_assoc, readLexeme_word (by decide) ends] at read
  exact (Prod.mk.inj (Option.some.inj read)).1.symm

/-- The line that writes literal text is a line of its own. -/
theorem isRowLine_literal (raw : Text) : IsRowLine (RenderLine.literal raw).content
    (.name (text "_append")) (RenderLine.literal raw).lexemes.tail where
  isLine := (RenderLine.literal raw).isLogicalLine
  inline := by
    unfold Inline
    intro lexeme member
    simp only [RenderLine.literal, List.tail_cons, List.mem_cons, List.not_mem_nil, or_false] at member
    rcases member with rfl | rfl | rfl | rfl <;> rfl
  plain := fun same => nomatch same

/-- The line that writes a complete expression is a line of its own. -/
theorem exists_isRowLine_expression {value : Text} {found : List Lexeme}
    (lone : IsLoneLine (appendCall (text "_str(" ++ value ++ text ")")) found) :
    ∃ content inside, Unifies (appendCall (text "_str(" ++ value ++ text ")")) content ∧
      IsRowLine content (.name (text "_append")) inside := by
  have noBreak : ∀ last ∈ (value ++ text "))").getLast?, last ≠ carriageReturn ∧ last ≠ lineFeed := by
    intro last isLast
    rw [List.getLast?_append] at isLast
    cases isLast
    decide
  obtain ⟨unified, same, follows⟩ := exists_unifyLineEnds_append noBreak
  have split : appendCall (text "_str(" ++ value ++ text ")") =
      text "_append(_str(" ++ (value ++ text "))") := by
    simp only [appendCall, List.append_assoc]
    rfl
  have front : Unifies (text "_append(_str(") (text "_append(_str(") := unifies_of_plain (by decide)
  have whole : unifyLineEnds (appendCall (text "_str(" ++ value ++ text ")")) =
      text "_append(_str(" ++ unified ++ [lineFeed] := by
    have held : value ++ text "))" ≠ [] := List.append_ne_nil_of_right_ne_nil _ (by decide)
    rw [split, front _ held, same, List.append_assoc]
  have isLine := lone.isLogicalLine whole
  obtain ⟨start, inside, length, rfl, -⟩ := isLine.exists_first
  obtain rfl : start = .name (text "_append") := start_eq_of_isLogicalLine isLine
  refine ⟨_, inside, ?_, isLine, lone.inline, fun same => nomatch same⟩
  rw [split]
  exact front.append follows

/-- The words that go on with a statement are the words that continue a block. -/
theorem exists_of_joins {start : Lexeme} (inline : start.isInline = true) (joins : start.joins = true) :
    ∃ word ∈ continuationWords, start = wordLexeme word := by
  cases start with
  | keyword word =>
      cases word with
      | elifWord => exact ⟨text "elif", by decide, rfl⟩
      | elseWord => exact ⟨text "else", by decide, rfl⟩
      | exceptWord => exact ⟨text "except", by decide, rfl⟩
      | finallyWord => exact ⟨text "finally", by decide, rfl⟩
      | _ => cases joins
  | indent => cases inline
  | _ => cases joins

/-- A block is left by the words that go on with its statement, and perhaps by a further case. -/
theorem exists_of_leaveContinued {outer : List OpenBlock}
    (left : leaveContinued line blocks = .ok outer) :
    ∃ inner, blocks = inner ++ outer ∧ (leadingWord line ∈ continuationWords → inner ≠ []) := by
  unfold leaveContinued at left
  dsimp only at left
  split at left
  · cases blocks with
    | nil => cases left
    | cons innermost others =>
        cases left
        exact ⟨[innermost], rfl, fun _ => List.cons_ne_nil _ _⟩
  · next stays =>
      cases left
      refine ⟨[], rfl, fun member => (stays ?_).elim⟩
      rw [Bool.or_eq_true]
      exact .inl (List.contains_iff_mem.mpr member)

/-- The end of a block leaves blocks. -/
theorem exists_of_closeBlock {outer : List OpenBlock} (closed : closeBlock blocks = .ok outer) :
    ∃ inner, blocks = inner ++ outer := by
  unfold closeBlock at closed
  cases blocks with
  | nil => cases closed
  | cons innermost others =>
      change (if _ then _ else _) = _ at closed
      split at closed
      · cases closed
        exact ⟨innermost :: others.take 1, by rw [List.cons_append, List.take_append_drop]⟩
      · cases closed
        exact ⟨[innermost], rfl⟩

/-- The last code of a line is the line without its comment, if that holds anything. -/
theorem lastCode_singleton : lastCode [line] = stripComment line ∨ lastCode [line] = [] := by
  unfold lastCode
  simp only [List.reverse_singleton, List.map_singleton, List.find?_singleton]
  split
  · exact .inl rfl
  · exact .inr rfl

/-- No code stands in a line of a comment, and no block is opened or left by it. -/
theorem emitLines_comment (comment : line.head? = some hash) :
    emitLines [line] blocks = (bodyLine blocks.length line, blocks) := by
  obtain ⟨rest, rfl⟩ := List.head?_eq_some_iff.mp comment
  have stripped : stripComment (hash :: rest) = [] := rfl
  have last : lastCode [hash :: rest] = [] := by
    rcases lastCode_singleton with same | same
    · rw [same, stripped]
    · exact same
  unfold emitLines
  rw [last]
  simp only [List.flatMap_cons, List.flatMap_nil, List.append_nil]
  exact if_neg (by decide)

theorem leaveContinued_comment (comment : line.head? = some hash) :
    leaveContinued line blocks = .ok blocks := by
  obtain ⟨rest, rfl⟩ := List.head?_eq_some_iff.mp comment
  have word : leadingWord (hash :: rest) = [] := by
    have start : stripStart (hash :: rest) = hash :: rest :=
      List.dropWhile_cons_of_neg (by decide)
    unfold leadingWord
    rw [start]
    rfl
  unfold leaveContinued
  rw [word]
  rfl

/-- A line without line breaks ends with its line feed. -/
theorem unifyLineEnds_of_plain (plain : IsPlainLine line) : unifyLineEnds line = line ++ [lineFeed] := by
  obtain ⟨noFeed, noReturn, -⟩ := plain
  induction line with
  | nil => rfl
  | cons first line ih =>
      rw [List.mem_cons, not_or] at noFeed noReturn
      have later := ih noFeed.2 noReturn.2
      cases line with
      | nil => simp [unifyLineEnds, Ne.symm noFeed.1, Ne.symm noReturn.1]
      | cons next line => rw [unifyLineEnds, if_neg (Ne.symm noReturn.1), later]; rfl

/-- A line that begins with a word in the program begins with it in the template. -/
theorem leadingWord_of_isLogicalLine {word : Text} (letters : IsLetterWord word)
    (isLine : IsLogicalLine line (wordLexeme word :: inside)) :
    leadingWord line = word ∧ leadingWord (stripComment line) = word := by
  obtain ⟨tail, rfl, ends⟩ := IsLetterWord.exists_of_isLogicalLine isLine
  exact ⟨letters.leadingWord_append ends, letters.leadingWord_stripComment ends⟩

/-- A statement of one line that stands by itself, behind the blocks that it leaves. -/
theorem exists_lays_of_emitLines {inner outer : List OpenBlock} {found : List Lexeme}
    (plainLine : IsPlainLine line) (split : blocks = inner ++ outer)
    (continues : leadingWord line ∈ continuationWords → inner ≠ []) (lone : IsLoneLine line found)
    (noDecorator : found.head? ≠ some (.symbol (.operator .matrixMultiply)))
    (noClass : endsIn (text ":") (lastCode [line]) = true → found.head? ≠ some (.keyword .classWord)) :
    ∃ unified, Unifies (emitLines [line] outer).1 unified ∧
      Lays blocks unified (emitLines [line] outer).2 := by
  have isLine := lone.isLogicalLine (unifyLineEnds_of_plain plainLine)
  obtain ⟨start, inside, length, rfl, -⟩ := isLine.exists_first
  have isRow : IsRowLine line start inside :=
    ⟨isLine, lone.inline, fun same => noDecorator (congrArg some same)⟩
  have joins : start.joins = true → inner ≠ [] := by
    intro goesOn
    obtain ⟨word, member, rfl⟩ :=
      exists_of_joins (lone.inline start List.mem_cons_self) goesOn
    have letters : ∀ word ∈ continuationWords, IsLetterWord word := by decide
    exact continues ((leadingWord_of_isLogicalLine (letters word member) isLine).1 ▸ member)
  have plain : Unifies line line := unifies_of_plain plainLine.2.1
  have written : [line].flatMap (bodyLine outer.length) = bodyLine outer.length line := by
    rw [List.flatMap_cons, List.flatMap_nil, List.append_nil]
  unfold emitLines
  rw [written]
  dsimp only
  by_cases opens : endsIn (text ":") (lastCode [line]) = true
  · rw [if_pos opens]
    have noClassStart : start ≠ .keyword .classWord := fun same => noClass opens (congrArg some same)
    by_cases isChoice : leadingWord (lastCode [line]) = text "match"
    · rw [if_pos isChoice]
      exact ⟨_, plain.bodyLine, .choice split isRow joins noClassStart isChoice⟩
    · rw [if_neg isChoice]
      have skip : Unifies (text "pass") (text "pass") := unifies_of_plain (by decide)
      refine ⟨_, plain.bodyLine.append skip.bodyLine, .header split isRow joins noClassStart ?_⟩
      -- The word of a choice by shape would be found in the template as well.
      rintro rfl
      have isWord : choiceOpener = wordLexeme (text "match") := rfl
      rw [isWord] at isLine
      rcases @lastCode_singleton line with same | same
      · rw [same] at isChoice
        exact isChoice (leadingWord_of_isLogicalLine (by decide) isLine).2
      · rw [same] at opens
        cases opens
  · rw [if_neg opens]
    exact ⟨_, plain.bodyLine, .row split isRow joins⟩

/-- **What a complete token puts into the body is a line of its own**, perhaps with a line that does
nothing behind it, or nothing at all. -/
theorem exists_lays_of_emit {token : Token} (emitted : emit token blocks = .ok (fragment, after))
    (complete : token.IsComplete) :
    ∃ unified, Unifies fragment unified ∧ Lays blocks unified after := by
  unfold Token.IsComplete at complete
  unfold emit at emitted
  split at emitted
  · next literal =>
      rw [literal] at complete
      obtain ⟨raw, isNormal⟩ := complete
      cases emitted
      have plain : Unifies (RenderLine.literal raw).content (RenderLine.literal raw).content :=
        unifies_of_plain fun member => ((RenderLine.literal raw).clean _ member).2.1 rfl
      rw [isNormal]
      exact ⟨_, plain.bodyLine,
        .row (List.nil_append _).symm (isRowLine_literal raw) fun joins => nomatch joins⟩
  · next expression =>
      rw [expression] at complete
      obtain ⟨found, lone⟩ := complete
      cases emitted
      obtain ⟨content, inside, unifies, isRow⟩ := exists_isRowLine_expression lone
      exact ⟨_, unifies.bodyLine, .row (List.nil_append _).symm isRow fun joins => nomatch joins⟩
  · next control =>
      rw [control] at complete
      unfold emitControl at emitted
      split at emitted
      · cases emitted
        exact ⟨[], unifies_nil, .nothing (List.nil_append _).symm⟩
      · next first rest isLines =>
          have isLine : first ∈ codeLines token.content := isLines ▸ List.mem_cons_self
          obtain ⟨single, stands⟩ := complete first isLine
          rw [isLines] at single
          obtain rfl := (List.cons.inj single).2
          have plainLine := isPlainLine_of_mem_codeLines isLine
          split at emitted
          · cases closed : closeBlock blocks with
            | error fault => rw [closed] at emitted; cases emitted
            | ok left =>
                rw [closed] at emitted
                cases emitted
                obtain ⟨inner, split⟩ := exists_of_closeBlock closed
                exact ⟨[], unifies_nil, .nothing split⟩
          · cases left : leaveContinued first blocks with
            | error fault => rw [left] at emitted; cases emitted
            | ok outer =>
                rw [left] at emitted
                have written : emitLines [first] outer = (fragment, after) := Except.ok.inj emitted
                rcases stands with comment | ⟨found, lone, noDecorator, noClass⟩
                · rw [leaveContinued_comment comment] at left
                  cases left
                  rw [emitLines_comment comment] at written
                  cases written
                  obtain ⟨content, rfl⟩ := List.head?_eq_some_iff.mp comment
                  have plain : Unifies (hash :: content) (hash :: content) :=
                    unifies_of_plain plainLine.2.1
                  exact ⟨_, plain.bodyLine,
                    .comment fun member => plainLine.1 (List.mem_cons_of_mem _ member)⟩
                · obtain ⟨inner, split, continues⟩ := exists_of_leaveContinued left
                  have lays := exists_lays_of_emitLines plainLine split continues lone noDecorator
                    noClass
                  rwa [written] at lays

end Stencil
