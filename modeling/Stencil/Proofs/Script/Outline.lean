import Stencil.Proofs.Script.LineScan
import Stencil.Script.Reading

/-! # Outlines

An outline is a program as its author lays it out: lines one below the other, and below a
header the deeper lines of its block (`Stencil.Script.Outline`). The scanner reads the text of
an outline as its lines with a mark around every block
(`Stencil.Script.Outline.lexemesBehind_text`), so the text is the program that these lexemes
spell (`Stencil.Script.Outline.readProgram_text`).
-/

namespace Stencil.Script

open CodePoint

/-- A code point that stands for itself in the text of a program. -/
def IsClean (point : CodePoint) : Prop :=
  point ≠ 0 ∧ point ≠ carriageReturn ∧ point.isSurrogate = false

instance (point : CodePoint) : Decidable (IsClean point) :=
  inferInstanceAs (Decidable (_ ∧ _ ∧ _))

/-- A line of a program with the lexemes that it spells. -/
structure Line where
  content : Text
  lexemes : List Lexeme
  spells : LineSpells [] content lexemes
  begins : content.head?.any couldContinueWord = true
  clean : ∀ point ∈ content, IsClean point

/-- Lines one below the other, some of which have a block below them that is not empty. -/
inductive Outline where
  | done
  | line (content : Line) (rest : Outline)
  | block (header first : Line) (body rest : Outline)

/-- A line at a depth, with its end. -/
def Line.text (depth : Nat) (line : Line) : Text :=
  Text.spaces (4 * depth) ++ line.content ++ [lineFeed]

namespace Outline

/-- The text of an outline at a depth. -/
def text (depth : Nat) : Outline → Text
  | done => []
  | line content rest => content.text depth ++ rest.text depth
  | block header first body rest =>
      header.text depth ++ first.text (depth + 1) ++ body.text (depth + 1) ++ rest.text depth

/-- The lexemes of an outline. -/
def lexemes : Outline → List Lexeme
  | done => []
  | line content rest => content.lexemes ++ .lineEnd :: rest.lexemes
  | block header first body rest =>
      header.lexemes ++ .lineEnd :: .indent :: (first.lexemes ++ .lineEnd ::
        (body.lexemes ++ .dedent :: rest.lexemes))

/-- The number of levels below an outline's own. -/
def levels : Outline → Nat
  | done => 0
  | line _ rest => rest.levels
  | block _ _ body rest => max (body.levels + 1) rest.levels

/-- The lines of one outline below those of another. -/
def append : Outline → Outline → Outline
  | done, behind => behind
  | line content rest, behind => line content (rest.append behind)
  | block header first body rest, behind => block header first body (rest.append behind)

variable {upper lower : Outline} {depth : Nat}

theorem text_append : (upper.append lower).text depth = upper.text depth ++ lower.text depth := by
  induction upper with
  | done => rfl
  | line content rest ih => simp only [append, text, ih, List.append_assoc]
  | block header first body rest _ ih => simp only [append, text, ih, List.append_assoc]

theorem lexemes_append : (upper.append lower).lexemes = upper.lexemes ++ lower.lexemes := by
  induction upper with
  | done => rfl
  | line content rest ih => simp only [append, lexemes, ih, List.append_assoc, List.cons_append]
  | block header first body rest _ ih =>
      simp only [append, lexemes, ih, List.append_assoc, List.cons_append]

theorem levels_append : (upper.append lower).levels = max upper.levels lower.levels := by
  induction upper with
  | done => simp only [append, levels, Nat.zero_max]
  | line content rest ih => simp only [append, levels, ih]
  | block header first body rest _ ih => simp only [append, levels, ih, Nat.max_assoc]

end Outline

variable {blocks : List Column} {margin : Margin} {point : CodePoint} {rest tail : Text}
  {depth count : Nat}

theorem measureFrom_space : margin.measureFrom (space :: rest) =
    Margin.measureFrom ⟨⟨margin.column.wide + 1, margin.column.narrow + 1⟩, margin.joined,
      margin.length + 1⟩ rest := by
  cases rest <;> rfl

theorem advance?_eq_none_iff {column : Column} :
    column.advance? point = none ↔ isInnerBlank point = false := by
  simp only [isInnerBlank, Bool.or_eq_false_iff, beq_eq_false_iff_ne, Column.advance?]
  split_ifs with isSpace isTab isFeed <;> simp [*]

theorem isInnerBlank_of_advance? {column next : Column}
    (advances : column.advance? point = some next) : isInnerBlank point = true := by
  by_contra noBlank
  rw [advance?_eq_none_iff.mpr (eq_false_of_ne_true noBlank)] at advances
  cases advances

theorem measureFrom_stop (noBlank : isInnerBlank point = false) (noBackslash : point ≠ backslash) :
    margin.measureFrom (point :: rest) = some margin := by
  have stops : margin.column.advance? point = none := advance?_eq_none_iff.mpr noBlank
  cases rest with
  | nil => simp only [Margin.measureFrom, stops, noBackslash, ↓reduceIte]
  | cons next others => simp only [Margin.measureFrom, stops, noBackslash, ↓reduceIte]

/-- Spaces move a margin to the right. -/
theorem measureFrom_spaces_append : margin.measureFrom (Text.spaces count ++ rest) =
    Margin.measureFrom ⟨⟨margin.column.wide + count, margin.column.narrow + count⟩, margin.joined,
      margin.length + count⟩ rest := by
  induction count generalizing margin with
  | zero => rfl
  | succ count ih =>
      have split : Text.spaces (count + 1) ++ rest = space :: (Text.spaces count ++ rest) := rfl
      rw [split, measureFrom_space, ih]
      simp only [Nat.add_assoc, Nat.add_comm 1]

/-- The margin of a line is as wide as the spaces that it begins with. -/
theorem measureFrom_spaces (noBlank : isInnerBlank point = false) (noBackslash : point ≠ backslash) :
    margin.measureFrom (Text.spaces count ++ point :: rest) =
      some ⟨⟨margin.column.wide + count, margin.column.narrow + count⟩, margin.joined,
        margin.length + count⟩ :=
  measureFrom_spaces_append.trans (measureFrom_stop noBlank noBackslash)

/-- A text is the margin of a line at a column, and no line is joined in it. -/
def IsMargin (front : Text) (column : Column) : Prop :=
  ∀ point rest, isInnerBlank point = false → point ≠ backslash →
    Margin.start.measureFrom (front ++ point :: rest) = some ⟨column, none, front.length⟩

theorem isMargin_spaces : IsMargin (Text.spaces count) ⟨count, count⟩ := by
  intro point rest noBlank noBackslash
  rw [measureFrom_spaces noBlank noBackslash, Text.spaces, List.length_replicate]
  simp only [Margin.start, Column.zero, Nat.zero_add]

/-- Behind its margin a line holds a comment, or nothing, or it settles the indentation and begins
with a lexeme. -/
theorem IsMargin.lexemesFrom_eq {front : Text} {column : Column} (margin : IsMargin front column)
    (noBlank : isInnerBlank point = false) (noBackslash : point ≠ backslash) :
    lexemesFrom blocks [] true (front ++ point :: rest) =
      if point = hash then
        lexemesFrom blocks [] true (rest.drop ((rest.takeWhile (· ≠ lineFeed)).length + 1))
      else if point = lineFeed then lexemesFrom blocks [] true rest
      else (changeBlocks column blocks).bind fun changed =>
        (lexemesFrom changed.2 [] false (point :: rest)).map (changed.1 ++ ·) := by
  have measured := margin point rest noBlank noBackslash
  have behindMargin : (front ++ point :: rest).drop front.length = point :: rest := List.drop_left
  obtain ⟨first, others, split⟩ := List.exists_cons_of_ne_nil
    (List.append_ne_nil_of_right_ne_nil front (List.cons_ne_nil point rest))
  have behind : ∀ extra, others.drop (front.length + extra) = rest.drop extra := by
    intro extra
    have whole := congrArg (List.drop (extra + 1)) behindMargin
    rw [List.drop_drop, split, ← Nat.add_assoc, List.drop_succ_cons, List.drop_succ_cons] at whole
    exact whole
  rw [split] at measured behindMargin ⊢
  rw [lexemesFrom]
  simp only [↓reduceIte, stepAtLineStart, measured, Option.bind_eq_bind, Option.bind_some,
    behindMargin, Margin.effective, Option.getD_none, Option.pure_def]
  split
  · rw [Option.bind_some]
    dsimp only
    rw [Nat.add_assoc, behind]
    exact Option.bind_fun_some _
  split
  · have all := behind 0
    rw [Nat.add_zero, List.drop_zero] at all
    rw [Option.bind_some]
    dsimp only
    rw [all]
    exact Option.bind_fun_some _
  cases changeBlocks column blocks with
  | none => rfl
  | some changed =>
      rw [Option.bind_some, Option.bind_some]
      rw [lexemesFrom]
      simp only [Bool.false_eq_true, ↓reduceIte, Option.bind_eq_bind, Option.pure_def]
      cases stepInLine changed.2 [] point rest with
      | none => rfl
      | some step =>
          simp only [Option.bind_some, behind]
          cases lexemesFrom step.blocks step.awaited step.atLineStart (rest.drop step.extra) with
          | none => rfl
          | some later => simp only [Option.bind_some, Option.map_some, List.append_assoc]

namespace IsMargin

variable {front : Text} {column : Column}

/-- A line that begins with a lexeme settles the indentation first. -/
theorem lexemesFrom_begins (margin : IsMargin front column) (begins : BeginsLexeme point) :
    lexemesFrom blocks [] true (front ++ point :: rest) =
      (changeBlocks column blocks).bind fun changed =>
        (lexemesFrom changed.2 [] false (point :: rest)).map (changed.1 ++ ·) := by
  rw [margin.lexemesFrom_eq begins.1 begins.2.2.2, if_neg begins.2.1, if_neg begins.2.2.1]

/-- A line that holds nothing but its margin is passed over. -/
theorem lexemesFrom_lineFeed (margin : IsMargin front column) :
    lexemesFrom blocks [] true (front ++ lineFeed :: rest) = lexemesFrom blocks [] true rest := by
  rw [margin.lexemesFrom_eq rfl (by decide), if_neg (by decide), if_pos rfl]

/-- A line of a comment is passed over, whatever blocks are open. -/
theorem lexemesFrom_hash {comment : Text} (margin : IsMargin front column)
    (plain : lineFeed ∉ comment) :
    lexemesFrom blocks [] true (front ++ hash :: (comment ++ lineFeed :: rest)) =
      lexemesFrom blocks [] true rest := by
  have isComment : (comment ++ lineFeed :: rest).takeWhile (· ≠ lineFeed) = comment := by
    rw [List.takeWhile_append_of_pos fun point member => by
      rw [decide_eq_true_eq]; rintro rfl; exact plain member]
    rw [List.takeWhile_cons_of_neg (by decide), List.append_nil]
  rw [margin.lexemesFrom_eq rfl (by decide), if_pos rfl, isComment, List.append_cons,
    List.drop_left' (by rw [List.length_append, List.length_singleton])]

end IsMargin

theorem lexemesFrom_lineStart (begins : BeginsLexeme point) :
    lexemesFrom blocks [] true (Text.spaces count ++ point :: rest) =
      (changeBlocks ⟨count, count⟩ blocks).bind fun changed =>
        (lexemesFrom changed.2 [] false (point :: rest)).map (changed.1 ++ ·) :=
  isMargin_spaces.lexemesFrom_begins begins

/-- The open blocks of a line at a depth. -/
def levelStack : Nat → List Column
  | 0 => [Column.zero]
  | depth + 1 => ⟨4 * (depth + 1), 4 * (depth + 1)⟩ :: levelStack depth

/-- There is one open block more than the depth says, the whole program. -/
theorem length_levelStack : (levelStack depth).length = depth + 1 := by
  induction depth with
  | zero => rfl
  | succ depth ih => rw [levelStack, List.length_cons, ih]

/-- The innermost open block begins at the column of the depth. -/
theorem exists_levelStack_cons (depth : Nat) :
    ∃ outer, levelStack depth = ⟨4 * depth, 4 * depth⟩ :: outer := by
  cases depth with
  | zero => exact ⟨[], rfl⟩
  | succ depth => exact ⟨levelStack depth, rfl⟩

/-- A line at an outer depth leaves the blocks in between. -/
theorem leaveBlocks_levelStack {extra : Nat} :
    leaveBlocks ⟨4 * depth, 4 * depth⟩ (levelStack (depth + extra)) =
      some (extra, levelStack depth) := by
  induction extra with
  | zero =>
      obtain ⟨outer, split⟩ := exists_levelStack_cons depth
      rw [Nat.add_zero, split, leaveBlocks]
      simp only [Nat.lt_irrefl, ↓reduceIte]
  | succ extra ih =>
      have deeper : 4 * depth < 4 * (depth + extra + 1) := by omega
      rw [← Nat.add_assoc, levelStack, leaveBlocks]
      simp only [deeper, ↓reduceIte, ih, Option.map_some]

/-- A line at an outer depth, or at the same one, is marked by the blocks that it leaves. -/
theorem changeBlocks_leave {extra : Nat} :
    changeBlocks ⟨4 * depth, 4 * depth⟩ (levelStack (depth + extra)) =
      some (List.replicate extra .dedent, levelStack depth) := by
  obtain ⟨outer, split⟩ := exists_levelStack_cons (depth + extra)
  have shallow : ¬ 4 * (depth + extra) < 4 * depth := by omega
  have left : leaveBlocks ⟨4 * depth, 4 * depth⟩ (levelStack (depth + extra)) =
      some (extra, levelStack depth) := leaveBlocks_levelStack
  rw [split] at left ⊢
  simp only [changeBlocks, shallow, ↓reduceIte, left, Option.map_some]

/-- A line one level deeper is marked as such. -/
theorem changeBlocks_enter (room : depth + 1 < indentLimit) :
    changeBlocks ⟨4 * (depth + 1), 4 * (depth + 1)⟩ (levelStack depth) =
      some ([.indent], levelStack (depth + 1)) := by
  obtain ⟨outer, split⟩ := exists_levelStack_cons depth
  have deeper : 4 * depth < 4 * (depth + 1) := by omega
  have fits : (levelStack depth).length < indentLimit := length_levelStack ▸ room
  rw [levelStack]
  rw [split] at fits ⊢
  simp only [changeBlocks, deeper, ↓reduceIte, decide_true, Bool.true_and, fits]

/-- Too many blocks are open for a deeper line. -/
theorem changeBlocks_full (full : indentLimit ≤ depth + 1) :
    changeBlocks ⟨4 * (depth + 1), 4 * (depth + 1)⟩ (levelStack depth) = none := by
  obtain ⟨outer, split⟩ := exists_levelStack_cons depth
  have deeper : 4 * depth < 4 * (depth + 1) := by omega
  have many : ¬ (levelStack depth).length < indentLimit := by
    rw [length_levelStack]
    exact Nat.not_lt.mpr full
  rw [split] at many ⊢
  simp only [changeBlocks, deeper, ↓reduceIte, decide_true, Bool.true_and, many, decide_false,
    Bool.false_eq_true]

/-- The lexemes of the rest of a program behind a line at a depth. -/
def lexemesBehind (depth : Nat) (rest : Text) : Option (List Lexeme) :=
  lexemesFrom (levelStack depth) [] true rest

/-- The rest of a program leaves all blocks deeper than a depth before anything else. -/
def ClosesTo (depth : Nat) (rest : Text) : Prop :=
  ∀ extra, lexemesBehind (depth + extra) rest =
    (lexemesBehind depth rest).map (List.replicate extra .dedent ++ ·)

/-- The end of a program leaves all blocks. -/
theorem lexemesBehind_nil : lexemesBehind depth [] = some (List.replicate depth .dedent) := by
  unfold lexemesBehind
  rw [lexemesFrom, length_levelStack]
  rfl

theorem closesTo_nil : ClosesTo depth [] := by
  intro extra
  rw [lexemesBehind_nil, lexemesBehind_nil, Option.map_some, List.replicate_append_replicate,
    Nat.add_comm]

/-- What leaves the blocks deeper than a depth leaves those that are deeper still. -/
theorem ClosesTo.deeper (closes : ClosesTo depth rest) : ClosesTo (depth + 1) rest := by
  intro extra
  rw [Nat.add_assoc, closes, closes 1, Option.map_map, Nat.add_comm 1 extra,
    ← List.replicate_append_replicate]
  congr 1
  funext behind
  exact List.append_assoc _ _ _

/-- A text is one logical line: it begins with a lexeme, and it is read as its lexemes whatever
stands behind its line feed. -/
structure IsLogicalLine (content : Text) (found : List Lexeme) : Prop where
  begins : ∃ first others, content = first :: others ∧ BeginsLexeme first
  scans : ∀ blocks tail, lexemesFrom blocks [] false (content ++ lineFeed :: tail) =
    (lexemesFrom blocks [] true tail).map (found ++ .lineEnd :: ·)

/-- A text at a depth, with a line feed behind it. -/
def lineAt (depth : Nat) (content : Text) : Text :=
  Text.spaces (4 * depth) ++ content ++ [lineFeed]

namespace IsLogicalLine

variable {content : Text} {found : List Lexeme}

/-- A line settles the indentation, and then its lexemes are read. -/
theorem lexemesFrom_lineAt (isLine : IsLogicalLine content found) :
    lexemesFrom blocks [] true (lineAt depth content ++ rest) =
      (changeBlocks ⟨4 * depth, 4 * depth⟩ blocks).bind fun changed =>
        (lexemesFrom changed.2 [] true rest).map fun behind =>
          changed.1 ++ (found ++ .lineEnd :: behind) := by
  obtain ⟨first, others, split, begins⟩ := isLine.begins
  unfold lineAt
  rw [List.append_assoc, List.append_assoc, List.singleton_append, split, List.cons_append,
    lexemesFrom_lineStart begins, ← List.cons_append, ← split]
  refine congrArg _ (funext fun changed => ?_)
  rw [isLine.scans, Option.map_map]
  rfl

/-- A line leaves the blocks deeper than its depth, and then its lexemes are read. -/
theorem lexemesBehind_leave (isLine : IsLogicalLine content found) (extra : Nat) :
    lexemesBehind (depth + extra) (lineAt depth content ++ rest) =
      (lexemesBehind depth rest).map fun behind =>
        List.replicate extra .dedent ++ (found ++ .lineEnd :: behind) := by
  unfold lexemesBehind
  rw [isLine.lexemesFrom_lineAt, changeBlocks_leave, Option.bind_some]

/-- A line one level deeper opens a block, and then its lexemes are read. -/
theorem lexemesBehind_enter (isLine : IsLogicalLine content found)
    (room : depth + 1 < indentLimit) :
    lexemesBehind depth (lineAt (depth + 1) content ++ rest) =
      (lexemesBehind (depth + 1) rest).map fun behind =>
        .indent :: (found ++ .lineEnd :: behind) := by
  unfold lexemesBehind
  rw [isLine.lexemesFrom_lineAt, changeBlocks_enter room, Option.bind_some]
  rfl

end IsLogicalLine

namespace Line

variable {line : Line}

theorem isLogicalLine (line : Line) : IsLogicalLine line.content line.lexemes where
  begins := by
    obtain ⟨first, isFirst, continues⟩ := (Option.any_eq_true _ _).mp line.begins
    obtain ⟨others, split⟩ := List.head?_eq_some_iff.mp isFirst
    have plain := isInLine_of_couldContinueWord continues
    exact ⟨first, others, split, plain.1, plain.2.1, plain.2.2.1, plain.2.2.2.1⟩
  scans := line.spells.lexemesFrom_eq

theorem lexemesBehind_leave (extra : Nat) :
    lexemesBehind (depth + extra) (line.text depth ++ rest) =
      (lexemesBehind depth rest).map fun behind =>
        List.replicate extra .dedent ++ (line.lexemes ++ .lineEnd :: behind) :=
  line.isLogicalLine.lexemesBehind_leave extra

theorem lexemesBehind_enter (room : depth + 1 < indentLimit) :
    lexemesBehind depth (line.text (depth + 1) ++ rest) =
      (lexemesBehind (depth + 1) rest).map fun behind =>
        .indent :: (line.lexemes ++ .lineEnd :: behind) :=
  line.isLogicalLine.lexemesBehind_enter room

/-- A line at a depth is read behind one at the same depth. -/
theorem lexemesBehind_text : lexemesBehind depth (line.text depth ++ rest) =
    (lexemesBehind depth rest).map (line.lexemes ++ .lineEnd :: ·) :=
  lexemesBehind_leave 0

/-- A line leaves the blocks deeper than its depth. -/
theorem closesTo_text : ClosesTo depth (line.text depth ++ rest) := by
  intro extra
  rw [lexemesBehind_leave, lexemesBehind_text, Option.map_map]
  rfl

end Line

namespace Outline

/-- An outline leaves the blocks deeper than its depth, if what is below it does. -/
theorem closesTo_text {outline : Outline} (closes : ClosesTo depth rest) :
    ClosesTo depth (outline.text depth ++ rest) := by
  cases outline with
  | done => exact closes
  | line content below =>
      rw [text, List.append_assoc]
      exact Line.closesTo_text
  | block header first body below =>
      simp only [text, List.append_assoc]
      exact Line.closesTo_text

/-- An outline is read as its lexemes, if what is below it leaves the blocks inside it. -/
theorem lexemesBehind_text {outline : Outline} (room : depth + outline.levels < indentLimit)
    (closes : ClosesTo depth rest) : lexemesBehind depth (outline.text depth ++ rest) =
      (lexemesBehind depth rest).map (outline.lexemes ++ ·) := by
  induction outline generalizing depth rest with
  | done => cases found : lexemesBehind depth rest <;> exact found
  | line content below ih =>
      rw [text, List.append_assoc, Line.lexemesBehind_text, ih room closes, Option.map_map]
      congr 1
      funext behind
      simp only [lexemes, Function.comp_apply, List.append_assoc, List.cons_append]
  | block header first body below ihBody ihBelow =>
      rw [levels] at room
      -- The lines below the block are what leaves it.
      have closesBelow : ClosesTo depth (below.text depth ++ rest) := closesTo_text closes
      have dedent : lexemesBehind (depth + 1) (below.text depth ++ rest) =
          (lexemesBehind depth rest).map fun behind => .dedent :: (below.lexemes ++ behind) := by
        rw [closesBelow 1, ihBelow (by omega) closes, Option.map_map]
        rfl
      simp only [text, List.append_assoc]
      rw [Line.lexemesBehind_text, Line.lexemesBehind_enter (by omega),
        ihBody (by omega) closesBelow.deeper, dedent, Option.map_map, Option.map_map,
        Option.map_map]
      congr 1
      funext behind
      simp only [lexemes, Function.comp_apply, List.append_assoc, List.cons_append]

/-- A text without carriage returns and with a line feed at its end stays as it is. -/
theorem unifyLineEnds_of_clean {front : Text} (clean : ∀ point ∈ front, IsClean point) :
    unifyLineEnds (front ++ [lineFeed]) = front ++ [lineFeed] := by
  induction front with
  | nil => rfl
  | cons point front ih =>
      have notReturn := (clean point List.mem_cons_self).2.1
      have behind := ih fun other member => clean other (List.mem_cons_of_mem _ member)
      obtain ⟨next, others, split⟩ := List.exists_cons_of_ne_nil
        (List.append_ne_nil_of_right_ne_nil front (List.cons_ne_nil lineFeed []))
      rw [List.cons_append, split, unifyLineEnds, if_neg notReturn, ← split, behind]

theorem isClean_of_mem_line {line : Line} (member : point ∈ line.text depth) : IsClean point := by
  unfold Line.text at member
  rcases List.mem_append.mp member with inFront | isFeed
  · rcases List.mem_append.mp inFront with inMargin | inContent
    · rw [List.eq_of_mem_replicate inMargin]
      decide
    · exact line.clean point inContent
  · rw [List.mem_singleton.mp isFeed]
    decide

/-- Every code point of an outline's text stands for itself. -/
theorem isClean_of_mem_text {outline : Outline} (member : point ∈ outline.text depth) :
    IsClean point := by
  induction outline generalizing depth with
  | done => cases member
  | line content below ih =>
      rcases List.mem_append.mp member with inLine | inBelow
      · exact isClean_of_mem_line inLine
      · exact ih inBelow
  | block header first body below ihBody ihBelow =>
      rcases List.mem_append.mp member with inBlock | inBelow
      · rcases List.mem_append.mp inBlock with inHead | inBody
        · rcases List.mem_append.mp inHead with inHeader | inFirst
          · exact isClean_of_mem_line inHeader
          · exact isClean_of_mem_line inFirst
        · exact ihBody inBody
      · exact ihBelow inBelow

/-- The text of an outline that has a line ends with a line feed. -/
theorem exists_text_eq {outline : Outline} (held : outline ≠ done) :
    ∃ front, outline.text depth = front ++ [lineFeed] := by
  induction outline generalizing depth with
  | done => exact (held rfl).elim
  | line content below ih =>
      by_cases empty : below = done
      · subst empty
        exact ⟨Text.spaces (4 * depth) ++ content.content, List.append_nil _⟩
      · obtain ⟨front, split⟩ : ∃ front, below.text depth = front ++ [lineFeed] := ih empty
        exact ⟨content.text depth ++ front, by rw [text, split, List.append_assoc]⟩
  | block header first body below ihBody ihBelow =>
      by_cases empty : below = done
      · subst empty
        by_cases emptyBody : body = done
        · subst emptyBody
          refine ⟨header.text depth ++ (Text.spaces (4 * (depth + 1)) ++ first.content), ?_⟩
          simp only [text, List.append_nil, Line.text, List.append_assoc]
        · obtain ⟨front, split⟩ : ∃ front, body.text (depth + 1) = front ++ [lineFeed] :=
            ihBody emptyBody
          refine ⟨header.text depth ++ first.text (depth + 1) ++ front, ?_⟩
          rw [text, split]
          simp only [text, List.append_nil, List.append_assoc]
      · obtain ⟨front, split⟩ : ∃ front, below.text depth = front ++ [lineFeed] := ihBelow empty
        refine ⟨header.text depth ++ first.text (depth + 1) ++ body.text (depth + 1) ++ front, ?_⟩
        rw [text, split, List.append_assoc _ front]

/-- **The text of an outline is the program that its lexemes spell.** -/
theorem readProgram_text {outline : Outline} {program : Program} (held : outline ≠ done)
    (room : outline.levels < indentLimit)
    (spelled : programOf? ((outline.text 0).length + 4) outline.lexemes = some program) :
    readProgram (outline.text 0) = .ok program := by
  have noSurrogate : (outline.text 0).findIdx? CodePoint.isSurrogate = none := by
    rw [List.findIdx?_eq_none_iff]
    intro point member
    exact (isClean_of_mem_text member).2.2
  have noZero : (outline.text 0).contains 0 = false := by
    rw [Bool.eq_false_iff]
    intro contained
    exact (isClean_of_mem_text (List.contains_iff_mem.mp contained)).1 rfl
  obtain ⟨front, split⟩ : ∃ front, outline.text 0 = front ++ [lineFeed] := exists_text_eq held
  have unified : unifyLineEnds (outline.text 0) = outline.text 0 := by
    rw [split]
    refine unifyLineEnds_of_clean fun point member => ?_
    have inText : point ∈ outline.text 0 := split ▸ List.mem_append_left _ member
    exact isClean_of_mem_text inText
  have read : Script.lexemes (outline.text 0) = some outline.lexemes := by
    have fits : 0 + outline.levels < indentLimit := by rwa [Nat.zero_add]
    have whole := lexemesBehind_text fits closesTo_nil
    rw [List.append_nil, lexemesBehind_nil, Option.map_some, List.replicate_zero,
      List.append_nil] at whole
    unfold Script.lexemes
    rw [unified]
    exact whole
  unfold readProgram parse?
  rw [noSurrogate, noZero, read]
  simp only [Bool.false_eq_true, ↓reduceIte, Option.bind_eq_bind, Option.bind_some, spelled]

end Outline

end Stencil.Script
