import Stencil.Proofs.Source.CodeLine
import Stencil.Proofs.Source.DirectiveLines
import Stencil.Proofs.Text.WrittenLines

/-! # What decides how a statement is treated

A statement closes a block, goes on with one or stays in it, and the word that its code begins with
decides this. No comment and no blank line has a say in it, except where a comment stands in front of
the deciding word or code stands behind `end` (`Stencil.DecidesAtOnce`,
`Stencil.emitControl_classification`). Unless the statement closes a block, each of its lines that
holds anything is in its fragment, in its place (`Stencil.heldLines_emitLines`).
-/

namespace Stencil

open Script Source CodePoint Text

variable {content line word fragment : Text} {blocks after outer : List OpenBlock}
  {lines : List Text} {innermost : OpenBlock}

/-- The lines of a statement that hold code, without the blanks at their ends. -/
def codeOf (content : Text) : List Text :=
  (heldLines (restore content)).filter fun line => line.head? != some hash

/-- Nothing stands behind a word but a comment. -/
def IsWordAlone (word line : Text) : Prop :=
  word <+: line ∧ ∀ point ∈ (stripStart (line.drop word.length)).head?, point = hash

instance (word line : Text) : Decidable (IsWordAlone word line) :=
  inferInstanceAs (Decidable (_ ∧ _))

/-- A word is the first one of a line. -/
def BeginsWith (word line : Text) : Prop :=
  word <+: line ∧ EndsLetters (line.drop word.length)

instance (word line : Text) : Decidable (BeginsWith word line) :=
  inferInstanceAs (Decidable (_ ∧ ∀ point ∈ _, _))

/-- The words that lead a statement out of the innermost block. -/
def Continues (blocks : List OpenBlock) (line : Text) : Prop :=
  (∃ word ∈ continuationWords, BeginsWith word line) ∨
    BeginsWith (text "case") line ∧ topWord blocks = some (text "case")

/-- The deciding word of a statement is where it is looked for: no comment stands in front of it,
and no code stands behind `end`. -/
structure DecidesAtOnce (content : Text) : Prop where
  first : ∀ line ∈ (codeOf content).head?,
    IsWordAlone endWord line ∨ (∃ word ∈ text "case" :: continuationWords, BeginsWith word line) →
      (heldLines (restore content)).head? = some line
  alone : ∀ line ∈ (heldLines (restore content)).head?,
    IsWordAlone endWord line → codeOf content = [line]

instance (content : Text) : Decidable (DecidesAtOnce content) :=
  decidable_of_iff
    ((∀ line ∈ (codeOf content).head?,
      IsWordAlone endWord line ∨ (∃ word ∈ text "case" :: continuationWords, BeginsWith word line) →
        (heldLines (restore content)).head? = some line) ∧
      ∀ line ∈ (heldLines (restore content)).head?,
        IsWordAlone endWord line → codeOf content = [line])
    ⟨fun decides => ⟨decides.1, decides.2⟩, fun decides => ⟨decides.first, decides.alone⟩⟩

/-- A statement closes a block: its fragment is empty, and the blocks are closed one further. -/
def ClosesBlock (content : Text) (blocks : List OpenBlock) : Prop :=
  emitControl content blocks = (closeBlock blocks).map fun left => ([], left)

/-- A statement goes on with a block: its lines are written where the innermost block is left. -/
def ContinuesBlock (content : Text) (blocks : List OpenBlock) : Prop :=
  ¬ ClosesBlock content blocks ∧ ∃ statement, emitControl content blocks =
    (popBlock statement blocks).map fun popped => emitLines (codeLines content) popped.2

/-- The lines that are written are those that hold anything. -/
theorem map_strip_codeLines (content : Text) :
    (codeLines content).map strip = heldLines (restore content) := by
  rw [← heldLines_dedent]
  exact map_strip_writtenLines (dedent (restore content))

/-- What a line begins with is not changed by the blanks at its ends. -/
theorem leadingWord_strip_of_mem_codeLines (isLine : line ∈ codeLines content) :
    leadingWord (strip line) = leadingWord line := by
  obtain ⟨whole, -, rfl⟩ := List.mem_map.mp isLine
  unfold leadingWord
  rw [stripStart_strip, strip_stripEnd, stripStart_stripEnd]

/-- A line begins with the word that is read at its start. -/
theorem leadingWord_strip_eq_iff (letters : IsLetterWord word) :
    leadingWord (strip line) = word ↔ BeginsWith word (strip line) := by
  constructor
  · rintro rfl
    have held : leadingWord (strip line) ≠ [] := letters.1
    unfold leadingWord at held ⊢
    rw [stripStart_strip] at held ⊢
    cases split : strip line with
    | nil => rw [split] at held; exact (held rfl).elim
    | cons first rest =>
        rw [split] at held
        dsimp only at held ⊢
        split at held
        · next starts =>
            rw [if_pos starts]
            have isPrefix := List.takeWhile_prefix isWordCharacter (l := first :: rest)
            have behind := List.append_cancel_left
              ((List.prefix_iff_eq_append.mp isPrefix).trans List.takeWhile_append_dropWhile.symm)
            refine ⟨isPrefix, fun point isNext => ?_⟩
            have stops := List.head?_dropWhile_not isWordCharacter (first :: rest)
            rw [← behind, isNext] at stops
            simpa using stops
        · exact (held rfl).elim
  · rintro ⟨⟨tail, split⟩, ends⟩
    rw [← split, List.drop_left] at ends
    rw [← split]
    exact letters.leadingWord_append ends

/-- Blanks are read over on the way to a comment. -/
theorem beforeComment_blanks {gap note : Text} (blank : ∀ point ∈ gap, point.isBlank = true) :
    beforeComment 0 (gap ++ hash :: note) = some gap := by
  rw [beforeComment_plain fun point member => plain_of_isBlank (blank point member)]
  simp [beforeComment]

/-- **The code of a line is a word just when nothing but a comment stands behind the word.** -/
theorem stripComment_strip_eq_iff (letters : IsLetterWord word) :
    stripComment (strip line) = word ↔ IsWordAlone word (strip line) := by
  constructor
  · intro isWord
    unfold stripComment at isWord
    split at isWord
    · next code found =>
        obtain ⟨note, split⟩ := IsLetterWord.exists_of_beforeComment found
        obtain ⟨gap, isCode, blank⟩ := exists_dropEndWhile_append isBlank code
        change code = stripEnd code ++ gap at isCode
        rw [isWord] at isCode
        rw [split, isCode, List.append_assoc]
        refine ⟨List.prefix_append _ _, ?_⟩
        rw [List.drop_left, stripStart, List.dropWhile_append_of_pos blank]
        rintro point isFirst
        cases isFirst
        rfl
    · rw [isWord]
      refine ⟨List.prefix_rfl, ?_⟩
      rw [List.drop_length]
      rintro point ⟨⟩
  · rintro ⟨⟨tail, split⟩, note⟩
    rw [← split, List.drop_left] at note
    have cut : tail = tail.takeWhile isBlank ++ stripStart tail :=
      List.takeWhile_append_dropWhile.symm
    have blank : ∀ point ∈ tail.takeWhile isBlank, point.isBlank = true :=
      fun point member => List.mem_takeWhile_imp member
    have isWord : stripEnd word = word := stripEnd_eq_self fun last isLast =>
      (plain_of_isLetter (letters.2 last (List.mem_of_getLast? isLast))).2.1
    cases behind : stripStart tail with
    | nil =>
        rw [behind, List.append_nil] at cut
        have isLine : strip line = word :=
          calc strip line = stripEnd (strip line) :=
                (stripEnd_eq_self not_isBlank_of_getLast?_stripEnd).symm
            _ = stripEnd (word ++ tail) := congrArg stripEnd split.symm
            _ = word := (stripEnd_append_blanks (cut ▸ blank)).trans isWord
        have none := @IsLetterWord.beforeComment_append word [] letters.2
        rw [List.append_nil] at none
        rw [isLine, stripComment, none]
        rfl
    | cons first rest =>
        obtain rfl := note first (by rw [behind]; rfl)
        rw [← split, cut, behind, stripComment, IsLetterWord.beforeComment_append letters.2,
          beforeComment_blanks blank]
        exact (stripEnd_append_blanks blank).trans isWord

theorem length_of_closeBlock (closed : closeBlock blocks = .ok after) :
    after.length < blocks.length := by
  cases blocks with
  | nil => cases closed
  | cons innermost outer =>
      rw [closeBlock_cons] at closed
      cases closed
      rw [List.length_cons]
      split
      · rw [List.length_drop]
        omega
      · exact Nat.lt_succ_self _

/-- How many blocks a statement opens does not depend on those that are open. -/
theorem length_emitLines (lines : List Text) (blocks outer : List OpenBlock) :
    (emitLines lines blocks).2.length + outer.length =
      (emitLines lines outer).2.length + blocks.length := by
  unfold emitLines
  dsimp only
  split
  · split <;> simp only [List.length_cons] <;> omega
  · exact Nat.add_comm _ _

theorem emitLines_ne_nil (held : lines ≠ []) : (emitLines lines blocks).1 ≠ [] := by
  obtain ⟨first, rest, rfl⟩ := List.exists_cons_of_ne_nil held
  have written : (first :: rest).flatMap (bodyLine blocks.length) ≠ [] := by
    rw [List.flatMap_cons]
    exact List.append_ne_nil_of_left_ne_nil
      (List.append_ne_nil_of_right_ne_nil _ (List.cons_ne_nil _ _)) _
  unfold emitLines
  dsimp only
  split
  · split
    · exact written
    · exact List.append_ne_nil_of_left_ne_nil written _
  · exact written

/-- A line that begins with the word of a continuation does not begin with `end`. -/
theorem not_endWord_prefix (member : word ∈ text "case" :: continuationWords)
    (begins : word <+: line) : ¬ endWord <+: line := by
  intro isEnd
  have differ : ∀ word ∈ text "case" :: continuationWords,
      ¬ (word <+: endWord ∨ endWord <+: word) := by decide
  exact differ word member (List.prefix_or_prefix_of_prefix begins isEnd)

theorem not_isWordAlone_of_continues (continues : Continues blocks line) :
    ¬ IsWordAlone endWord line := by
  rintro ⟨isEnd, -⟩
  rcases continues with ⟨word, member, begins, -⟩ | ⟨⟨begins, -⟩, -⟩
  · exact not_endWord_prefix (List.mem_cons_of_mem _ member) begins isEnd
  · exact not_endWord_prefix List.mem_cons_self begins isEnd

/-- A line that begins with the word of a continuation is no comment. -/
theorem head?_ne_hash_of_continues (continues : Continues blocks line) : line.head? ≠ some hash := by
  have noHash : ∀ word ∈ text "case" :: continuationWords, ∃ first ∈ word.head?, first ≠ hash := by
    decide
  have differs {word : Text} (member : word ∈ text "case" :: continuationWords)
      (begins : word <+: line) : line.head? ≠ some hash := by
    obtain ⟨first, isFirst, noComment⟩ := noHash word member
    obtain ⟨rest, rfl⟩ := List.head?_eq_some_iff.mp isFirst
    obtain ⟨tail, rfl⟩ := begins
    exact fun isHash => noComment (Option.some.inj isHash)
  rcases continues with ⟨word, member, begins, -⟩ | ⟨⟨begins, -⟩, -⟩
  · exact differs (List.mem_cons_of_mem _ member) begins
  · exact differs List.mem_cons_self begins

/-- The first line of a statement leads out of the innermost block, or the block is not left. -/
theorem leaveContinued_cases {first : Text} (same : leadingWord (strip first) = leadingWord first) :
    (Continues blocks (strip first) ∧
      leaveContinued first blocks = (popBlock (strip first) blocks).map Prod.snd) ∨
    (¬ Continues blocks (strip first) ∧ leaveContinued first blocks = .ok blocks) := by
  have letters : ∀ word ∈ text "case" :: continuationWords, IsLetterWord word := by decide
  have isCase := @leadingWord_strip_eq_iff first _ (letters _ List.mem_cons_self)
  have isOther : leadingWord first ∈ continuationWords ↔
      ∃ word ∈ continuationWords, BeginsWith word (strip first) := by
    refine ⟨fun member => ⟨_, member, ?_⟩, fun ⟨word, member, begins⟩ => ?_⟩
    · exact (leadingWord_strip_eq_iff (letters _ (List.mem_cons_of_mem _ member))).mp same
    · rw [← same, (leadingWord_strip_eq_iff (letters _ (List.mem_cons_of_mem _ member))).mpr begins]
      exact member
  rw [same] at isCase
  unfold leaveContinued
  simp only [List.contains_eq_mem, Bool.or_eq_true, Bool.and_eq_true, decide_eq_true_eq]
  split
  · next continues =>
      refine .inl ⟨continues.imp isOther.mp (And.imp_left isCase.mp), ?_⟩
      cases blocks <;> rfl
  · next stays =>
      exact .inr ⟨fun continues => stays (continues.imp isOther.mpr (And.imp_left isCase.mpr)), rfl⟩

/-- **A statement is empty, closes a block, goes on with one or stays where it is.** The first line
that holds anything decides which. -/
theorem emitControl_cases (content : Text) (blocks : List OpenBlock) :
    (heldLines (restore content) = [] ∧ emitControl content blocks = .ok ([], blocks)) ∨
    ∃ line rest, heldLines (restore content) = line :: rest ∧ codeLines content ≠ [] ∧
      ((IsWordAlone endWord line ∧ ClosesBlock content blocks) ∨
        (Continues blocks line ∧ emitControl content blocks =
          (popBlock line blocks).map fun popped => emitLines (codeLines content) popped.2) ∨
        (¬ IsWordAlone endWord line ∧ ¬ Continues blocks line ∧
          emitControl content blocks = .ok (emitLines (codeLines content) blocks))) := by
  have lines := map_strip_codeLines content
  have word := @leadingWord_strip_of_mem_codeLines content
  unfold ClosesBlock emitControl
  cases isCode : codeLines content with
  | nil =>
      rw [isCode] at lines
      exact .inl ⟨lines.symm, rfl⟩
  | cons first rest =>
      rw [isCode] at lines word
      have isEnd := @stripComment_strip_eq_iff first endWord (by decide)
      refine .inr ⟨strip first, rest.map strip, lines.symm, List.cons_ne_nil _ _, ?_⟩
      dsimp only
      split
      · next closes => exact .inl ⟨isEnd.mp closes, rfl⟩
      · next stays =>
          rcases leaveContinued_cases (word List.mem_cons_self) with ⟨continues, left⟩ | ⟨none, left⟩
          · refine .inr (.inl ⟨continues, ?_⟩)
            rw [left]
            cases blocks <;> rfl
          · refine .inr (.inr ⟨fun alone => stays (isEnd.mpr alone), none, ?_⟩)
            rw [left]
            rfl

/-- A statement closes a block just when the code of its first line is `end`. -/
theorem closesBlock_iff : ClosesBlock content blocks ↔
    ∃ line ∈ (heldLines (restore content)).head?, IsWordAlone endWord line := by
  have closed_ne (found : List Text) (lines : List OpenBlock) (held : found ≠ []) :
      Except.ok (emitLines found lines) ≠ (closeBlock blocks).map fun left => ([], left) := by
    intro same
    cases closed : closeBlock blocks with
    | error fault => rw [closed] at same; cases same
    | ok left =>
        rw [closed] at same
        exact emitLines_ne_nil held (congrArg Prod.fst (Except.ok.inj same))
  rcases emitControl_cases content blocks with ⟨empty, emitted⟩ | ⟨line, rest, split, held, treated⟩
  · rw [empty]
    refine ⟨fun closes => ?_, fun ⟨line, isFirst, _⟩ => nomatch isFirst⟩
    have same := emitted.symm.trans closes
    cases closed : closeBlock blocks with
    | error fault => rw [closed] at same; cases same
    | ok left =>
        rw [closed] at same
        cases same
        exact absurd (length_of_closeBlock closed) (Nat.lt_irrefl _)
  · rw [split]
    rcases treated with ⟨isEnd, closes⟩ | ⟨continues, emitted⟩ | ⟨noEnd, -, emitted⟩
    · exact ⟨fun _ => ⟨line, rfl, isEnd⟩, fun _ => closes⟩
    · refine ⟨fun closes => ?_, fun ⟨_, isFirst, isEnd⟩ => ?_⟩
      · have same := emitted.symm.trans closes
        cases blocks with
        | nil =>
            obtain rfl : line = endWord := by
              cases same
              rfl
            exact (not_isWordAlone_of_continues continues (by decide)).elim
        | cons innermost outer => exact (closed_ne _ _ held same).elim
      · cases isFirst
        exact (not_isWordAlone_of_continues continues isEnd).elim
    · refine ⟨fun closes => (closed_ne _ _ held (emitted.symm.trans closes)).elim,
        fun ⟨_, isFirst, isEnd⟩ => ?_⟩
      cases isFirst
      exact (noEnd isEnd).elim

/-- A statement goes on with a block just when its first line begins with the word of a
continuation. -/
theorem continuesBlock_iff : ContinuesBlock content blocks ↔
    ∃ line ∈ (heldLines (restore content)).head?, Continues blocks line := by
  have popped_ne {statement : Text} (found : List Text) :
      Except.ok (emitLines found blocks) ≠
        (popBlock statement blocks).map fun popped => emitLines found popped.2 := by
    intro same
    cases blocks with
    | nil => cases same
    | cons innermost outer =>
        have lengths := length_emitLines found (innermost :: outer) outer
        have stays : emitLines found (innermost :: outer) = emitLines found outer :=
          Except.ok.inj same
        rw [stays] at lengths
        exact absurd (Nat.add_left_cancel lengths) (Nat.succ_ne_self _).symm
  rcases emitControl_cases content blocks with ⟨empty, emitted⟩ | ⟨line, rest, split, held, treated⟩
  · rw [empty]
    refine ⟨fun ⟨_, statement, continues⟩ => ?_, fun ⟨line, isFirst, _⟩ => nomatch isFirst⟩
    have none : codeLines content = [] :=
      List.map_eq_nil_iff.mp ((map_strip_codeLines content).trans empty)
    rw [none] at continues
    exact (popped_ne [] (emitted.symm.trans continues)).elim
  · rw [split]
    rcases treated with ⟨isEnd, closes⟩ | ⟨continues, emitted⟩ | ⟨noEnd, stays, emitted⟩
    · refine ⟨fun ⟨noClose, _⟩ => (noClose closes).elim, fun ⟨_, isFirst, continues⟩ => ?_⟩
      cases isFirst
      exact (not_isWordAlone_of_continues continues isEnd).elim
    · refine ⟨fun _ => ⟨line, rfl, continues⟩, fun _ => ⟨fun closes => ?_, _, emitted⟩⟩
      obtain ⟨_, isFirst, isEnd⟩ := closesBlock_iff.mp closes
      rw [split] at isFirst
      cases isFirst
      exact not_isWordAlone_of_continues continues isEnd
    · refine ⟨fun ⟨_, statement, continues⟩ => ?_, fun ⟨_, isFirst, continues⟩ => ?_⟩
      · exact (popped_ne _ (emitted.symm.trans continues)).elim
      · cases isFirst
        exact (stays continues).elim

/-- A line of the body holds what is written in it. -/
theorem heldLines_bodyLine_append {rest : Text} (depth : Nat)
    (plain : ∀ point ∈ line, point.isLineBreak = false) :
    heldLines (bodyLine depth line ++ rest) = heldOf [line] ++ heldLines rest := by
  have margin : ∀ point ∈ indentAt depth, point.isBlank = true := by
    rw [indentAt_eq]
    intro point member
    rw [List.eq_of_mem_replicate member]
    rfl
  rw [bodyLine, List.append_assoc, List.singleton_append, heldLines_append_break rfl,
    heldLines_append_blanks margin, heldLines_of_plain plain]

/-- **Each line of a statement that holds anything is in its fragment, in its place.** -/
theorem heldLines_emitLines :
    heldLines (restore content) <+: heldLines (emitLines (codeLines content) blocks).1 := by
  have lines : heldOf (codeLines content) = heldLines (restore content) := by
    rw [heldOf, map_strip_codeLines, heldLines, heldOf, List.filter_filter]
    simp only [Bool.and_self]
  have written (rest : Text) :
      heldLines ((codeLines content).flatMap (bodyLine blocks.length) ++ rest) =
        heldLines (restore content) ++ heldLines rest := by
    rw [← lines]
    exact heldLines_flatMap fun line isLine rest => heldLines_bodyLine_append _ fun point member =>
      not_isLineBreak_of_mem_codeLines isLine member
  have whole := written []
  rw [List.append_nil] at whole
  have alone : heldLines (restore content) <+:
      heldLines ((codeLines content).flatMap (bodyLine blocks.length)) := by
    rw [whole]
    exact List.prefix_append _ _
  unfold emitLines
  dsimp only
  split
  · split
    · exact alone
    · rw [written]
      exact List.prefix_append _ _
  · exact alone

/-- **Only code decides how a statement is treated, and nothing is dropped.** Where the deciding
word is looked for, a statement closes a block just when `end` is all of its code, and goes on with
one just when its first line of code begins so; unless it closes a block, all its lines are in its
fragment. -/
theorem emitControl_classification (decides : DecidesAtOnce content) :
    (ClosesBlock content blocks ↔ ∃ line, codeOf content = [line] ∧ IsWordAlone endWord line) ∧
    (ContinuesBlock content blocks ↔ ∃ line ∈ (codeOf content).head?, Continues blocks line) ∧
    (¬ ClosesBlock content blocks → ∀ fragment after,
      emitControl content blocks = .ok (fragment, after) →
        heldLines (restore content) <+: heldLines fragment) := by
  refine ⟨?_, ?_, ?_⟩
  · rw [closesBlock_iff]
    constructor
    · rintro ⟨line, isFirst, isEnd⟩
      exact ⟨line, decides.alone line isFirst isEnd, isEnd⟩
    · rintro ⟨line, isCode, isEnd⟩
      have isFirst : line ∈ (codeOf content).head? := by rw [isCode]; rfl
      exact ⟨line, decides.first line isFirst (.inl isEnd), isEnd⟩
  · rw [continuesBlock_iff]
    constructor
    · rintro ⟨line, isFirst, continues⟩
      obtain ⟨rest, split⟩ := List.head?_eq_some_iff.mp isFirst
      refine ⟨line, ?_, continues⟩
      have isCode := bne_iff_ne.mpr (head?_ne_hash_of_continues continues)
      rw [codeOf, split, List.filter_cons, if_pos isCode]
      rfl
    · rintro ⟨line, isFirst, continues⟩
      refine ⟨line, decides.first line isFirst (.inr ?_), continues⟩
      rcases continues with ⟨word, member, begins⟩ | ⟨begins, -⟩
      · exact ⟨word, List.mem_cons_of_mem _ member, begins⟩
      · exact ⟨_, List.mem_cons_self, begins⟩
  · intro noClose fragment after emitted
    rcases emitControl_cases content blocks with ⟨empty, -⟩ | ⟨line, rest, -, -, treated⟩
    · rw [empty]
      exact List.nil_prefix
    · rcases treated with ⟨-, closes⟩ | ⟨-, continues⟩ | ⟨-, -, stays⟩
      · exact (noClose closes).elim
      · rw [continues] at emitted
        cases blocks with
        | nil => cases emitted
        | cons innermost outer =>
            obtain rfl : (emitLines (codeLines content) outer).1 = fragment :=
              congrArg Prod.fst (Except.ok.inj emitted)
            exact heldLines_emitLines
      · rw [stays] at emitted
        obtain rfl : (emitLines (codeLines content) blocks).1 = fragment :=
          congrArg Prod.fst (Except.ok.inj emitted)
        exact heldLines_emitLines

theorem emitControl_classification_notes :
    (DecidesAtOnce (text "\\n  end  # done\\n\\n# more") ∧
      ClosesBlock (text "\\n  end  # done\\n\\n# more") [⟨text "if", text "if x:"⟩]) ∧
    (DecidesAtOnce (text "\\nelse: # otherwise\\n  x = 1") ∧
      ContinuesBlock (text "\\nelse: # otherwise\\n  x = 1") [⟨text "if", text "if x:"⟩]) := by
  have ends : DecidesAtOnce (text "\\n  end  # done\\n\\n# more") := by decide
  have goesOn : DecidesAtOnce (text "\\nelse: # otherwise\\n  x = 1") := by decide
  exact ⟨⟨ends, (emitControl_classification ends).1.mpr
      ⟨text "end  # done", by decide, by decide⟩⟩,
    goesOn, (emitControl_classification goesOn).2.1.mpr
      ⟨text "else: # otherwise", by decide, .inl ⟨text "else", by decide, by decide⟩⟩⟩

/-- Code behind `end` is dropped, and a comment in front of `end` hides it. -/
theorem emitControl_misplaced_end :
    (ClosesBlock (text "end\\nx = 1") [⟨text "if", text "if x:"⟩] ∧
      codeOf (text "end\\nx = 1") = [text "end", text "x = 1"]) ∧
    (¬ ClosesBlock (text "# done\\nend") [⟨text "if", text "if x:"⟩] ∧
      codeOf (text "# done\\nend") = [text "end"]) := by
  refine ⟨⟨closesBlock_iff.mpr ⟨text "end", by decide, by decide⟩, by decide⟩, ?_, by decide⟩
  rw [closesBlock_iff]
  decide

end Stencil
