import Mathlib.Data.List.Chain
import Stencil.Proofs.Script.BracketScan
import Stencil.Proofs.Text.Strip

/-! # Lines that are moved to the right

A program may be moved to the right as a whole, into blocks that are open already: every line that
holds anything gets the same number of spaces in front of it, and the blanks at its end go. The same
lexemes are scanned (`Stencil.Script.moves_lines`), if no string goes on over a line end, no line that
holds nothing is joined to another one, and tabulators stand in front of the spaces of a margin: all
columns grow, and they keep their order (`Stencil.Script.Indentation.Deeper.at_offset`).
-/

namespace Stencil.Script

open CodePoint Text

/-- The blanks that a line begins with, when spaces stand behind tabulators only. -/
structure Indentation where
  tabs : Nat
  spaces : Nat

namespace Indentation

/-- The blanks of an indentation. -/
def text (indentation : Indentation) : Text :=
  List.replicate indentation.tabs tab ++ Text.spaces indentation.spaces

/-- The column behind an indentation in front of which some spaces stand. -/
def column (offset : Nat) (indentation : Indentation) : Column where
  wide :=
    if indentation.tabs = 0 then offset + indentation.spaces
    else offset / 8 * 8 + 8 * indentation.tabs + indentation.spaces
  narrow := offset + (indentation.tabs + indentation.spaces)

/-- An indentation reaches further than another one, whatever the width of a tabulator. -/
def Deeper (inner outer : Indentation) : Prop :=
  8 * outer.tabs + outer.spaces < 8 * inner.tabs + inner.spaces ∧
    outer.tabs + outer.spaces < inner.tabs + inner.spaces

variable {inner outer middle : Indentation} {margin : Margin} {point : CodePoint} {rest : Text}
  {count : Nat}

theorem column_zero (indentation : Indentation) : indentation.column 0 =
    ⟨8 * indentation.tabs + indentation.spaces, indentation.tabs + indentation.spaces⟩ := by
  unfold column
  split
  · next none => simp only [none, Nat.mul_zero, Nat.zero_add]
  · simp only [Nat.zero_div, Nat.zero_mul, Nat.zero_add]

theorem deeper_iff : inner.Deeper outer ↔ (outer.column 0).wide < (inner.column 0).wide ∧
    (outer.column 0).narrow < (inner.column 0).narrow := by
  rw [column_zero, column_zero]
  exact Iff.rfl

theorem Deeper.trans (deeper : inner.Deeper middle) (further : middle.Deeper outer) :
    inner.Deeper outer :=
  ⟨further.1.trans deeper.1, further.2.trans deeper.2⟩

/-- An indentation that reaches further does so behind the same spaces, too. -/
theorem Deeper.at_offset (deeper : inner.Deeper outer) (offset : Nat) :
    (outer.column offset).wide < (inner.column offset).wide ∧
      (outer.column offset).narrow < (inner.column offset).narrow := by
  obtain ⟨wide, narrow⟩ := deeper
  unfold column
  dsimp only
  constructor
  · split <;> split <;> omega
  · omega

theorem eq_of_column_zero (same : inner.column 0 = outer.column 0) : inner = outer := by
  rw [column_zero, column_zero, Column.mk.injEq] at same
  obtain ⟨tabs, spaces⟩ := inner
  obtain ⟨otherTabs, otherSpaces⟩ := outer
  dsimp only at same
  rw [Indentation.mk.injEq]
  omega

theorem measureFrom_tab : margin.measureFrom (tab :: rest) =
    Margin.measureFrom ⟨⟨(margin.column.wide / 8 + 1) * 8, margin.column.narrow + 1⟩, margin.joined,
      margin.length + 1⟩ rest := by
  cases rest <;> rfl

/-- Tabulators move a margin to further multiples of eight. -/
theorem measureFrom_tabs : margin.measureFrom (List.replicate count tab ++ rest) =
    Margin.measureFrom ⟨⟨if count = 0 then margin.column.wide
      else margin.column.wide / 8 * 8 + 8 * count, margin.column.narrow + count⟩, margin.joined,
      margin.length + count⟩ rest := by
  induction count generalizing margin with
  | zero => rfl
  | succ count ih =>
      have split : List.replicate (count + 1) tab ++ rest =
          tab :: (List.replicate count tab ++ rest) := rfl
      have wide : (if count = 0 then (margin.column.wide / 8 + 1) * 8
          else (margin.column.wide / 8 + 1) * 8 / 8 * 8 + 8 * count) =
          margin.column.wide / 8 * 8 + 8 * (count + 1) := by
        split <;> omega
      rw [split, measureFrom_tab, ih]
      simp only [wide, Nat.succ_ne_zero, ↓reduceIte, Nat.add_assoc, Nat.add_comm 1]

/-- An indentation behind some spaces is a margin. -/
theorem isMargin (offset : Nat) (indentation : Indentation) :
    IsMargin (Text.spaces offset ++ indentation.text) (indentation.column offset) := by
  intro point rest noBlank noBackslash
  have wide : (if indentation.tabs = 0 then offset else offset / 8 * 8 + 8 * indentation.tabs) +
      indentation.spaces = (indentation.column offset).wide := by
    unfold column
    split <;> rfl
  unfold text
  rw [List.append_assoc, measureFrom_spaces_append, List.append_assoc, measureFrom_tabs,
    measureFrom_spaces noBlank noBackslash]
  simp only [Margin.start, Column.zero, Nat.zero_add, wide, List.length_append, Text.spaces,
    List.length_replicate, Nat.add_assoc, column]

end Indentation

/-- The greatest number of blocks that begin inside some lexemes and are open at once. -/
def nesting : List Lexeme → Nat
  | [] => 0
  | .indent :: rest => nesting rest + 1
  | .dedent :: rest => nesting rest - 1
  | _ :: rest => nesting rest

/-- The blocks that are open in front of some lexemes fit into those below, and what the lexemes
hold can be moved. -/
structure Fits (lower : List Column) (stack : List Indentation) (found : List Lexeme) : Prop where
  nested : stack.Pairwise Indentation.Deeper
  held : stack ≠ []
  room : stack.length + lower.length + nesting found ≤ indentLimit
  short : ∀ string, .string string ∈ found → lineFeed ∉ string.body

variable {lower : List Column} {stack kept : List Indentation} {indentation : Indentation}
  {offset count : Nat} {found later changes : List Lexeme} {remaining : List Column}
  {lexeme : Lexeme} {awaited awaitedAfter : List Symbol}

theorem nesting_cons (stays : lexeme ≠ .indent ∧ lexeme ≠ .dedent) :
    nesting (lexeme :: found) = nesting found := by
  cases lexeme with
  | indent => exact (stays.1 rfl).elim
  | dedent => exact (stays.2 rfl).elim
  | _ => rfl

theorem nesting_replicate_dedent :
    nesting (List.replicate count .dedent ++ found) = nesting found - count := by
  induction count with
  | zero => rfl
  | succ count ih =>
      rw [List.replicate_succ, List.cons_append, nesting, ih]
      omega

theorem Fits.tail (fits : Fits lower stack (lexeme :: found))
    (stays : lexeme ≠ .indent ∧ lexeme ≠ .dedent) : Fits lower stack found where
  nested := fits.nested
  held := fits.held
  room := nesting_cons stays ▸ fits.room
  short := fun string member => fits.short string (List.mem_cons_of_mem _ member)

/-- The blocks that a line leaves are the same where all of them stand further to the right. -/
theorem exists_leaveBlocks (nested : stack.Pairwise Indentation.Deeper)
    (left : leaveBlocks (indentation.column 0) (stack.map (·.column 0)) = some (count, remaining)) :
    ∃ outer kept, stack = outer ++ kept ∧ outer.length = count ∧ indentation ∈ kept ∧
      remaining = kept.map (·.column 0) ∧
      leaveBlocks (indentation.column offset) (stack.map (·.column offset) ++ lower) =
        some (count, kept.map (·.column offset) ++ lower) := by
  induction stack generalizing count with
  | nil => cases left
  | cons innermost outer ih =>
      obtain ⟨deeper, nested⟩ := List.pairwise_cons.mp nested
      rw [List.map_cons, leaveBlocks] at left
      split at left
      · obtain ⟨⟨fewer, others⟩, leftOuter, same⟩ := Option.map_eq_some_iff.mp left
        cases same
        obtain ⟨front, kept, rfl, rfl, member, isRemaining, moved⟩ := ih nested leftOuter
        have above := (deeper _ (List.mem_append_right _ member)).at_offset offset
        refine ⟨innermost :: front, kept, rfl, rfl, member, isRemaining, ?_⟩
        rw [List.map_cons, List.cons_append, leaveBlocks, if_pos above.1, moved]
        rfl
      split at left
      · next same =>
          cases left
          obtain rfl := Indentation.eq_of_column_zero same
          refine ⟨[], indentation :: outer, rfl, rfl, List.mem_cons_self, rfl, ?_⟩
          rw [List.map_cons, List.cons_append, leaveBlocks, if_neg (Nat.lt_irrefl _), if_pos rfl]
      · cases left

/-- **A line begins and ends the same blocks** where all of them stand further to the right. -/
theorem Fits.exists_changeBlocks (fits : Fits lower stack found)
    (changed : changeBlocks (indentation.column 0) (stack.map (·.column 0)) = some (changes, remaining))
    (split : found = changes ++ later) :
    ∃ kept, remaining = kept.map (·.column 0) ∧ Fits lower kept later ∧
      changeBlocks (indentation.column offset) (stack.map (·.column offset) ++ lower) =
        some (changes, kept.map (·.column offset) ++ lower) := by
  obtain ⟨nested, held, room, short⟩ := fits
  have shortLater : ∀ string, .string string ∈ later → lineFeed ∉ string.body :=
    fun string member => short string (split ▸ List.mem_append_right _ member)
  obtain ⟨innermost, outer, rfl⟩ := List.exists_cons_of_ne_nil held
  unfold changeBlocks at changed
  rw [List.map_cons] at changed
  dsimp only at changed
  split at changed
  · next enters =>
      split at changed
      · next isDeeper =>
          cases changed
          rw [Bool.and_eq_true, decide_eq_true_eq, decide_eq_true_eq] at isDeeper
          have deeper : indentation.Deeper innermost :=
            Indentation.deeper_iff.mpr ⟨enters, isDeeper.1⟩
          obtain ⟨wide, narrow⟩ := deeper.at_offset offset
          have above := (List.pairwise_cons.mp nested).1
          rw [split, List.singleton_append, nesting] at room
          refine ⟨indentation :: innermost :: outer, rfl, ⟨?_, List.cons_ne_nil _ _, ?_, shortLater⟩, ?_⟩
          · refine List.pairwise_cons.mpr ⟨?_, nested⟩
            intro other member
            rcases List.mem_cons.mp member with rfl | inOuter
            · exact deeper
            · exact deeper.trans (above other inOuter)
          · rw [List.length_cons]
            omega
          · have fewer : (innermost.column offset :: (outer.map (·.column offset) ++ lower)).length <
                indentLimit := by
              simp only [List.length_cons, List.length_append, List.length_map] at room ⊢
              omega
            rw [List.map_cons, List.cons_append]
            unfold changeBlocks
            dsimp only
            rw [if_pos wide, if_pos (by simp only [narrow, fewer, decide_true, Bool.and_self])]
            rfl
      · cases changed
  · obtain ⟨⟨count, others⟩, left, same⟩ := Option.map_eq_some_iff.mp changed
    cases same
    have whole : leaveBlocks (indentation.column 0) ((innermost :: outer).map (·.column 0)) =
        some (count, others) := left
    obtain ⟨front, kept, isStack, rfl, member, rfl, moved⟩ :=
      @exists_leaveBlocks lower _ _ offset _ _ nested whole
    have nestedBoth := nested
    rw [isStack] at nestedBoth room
    have shallow : ¬(innermost.column offset).wide < (indentation.column offset).wide := by
      have inStack : indentation ∈ innermost :: outer := isStack ▸ List.mem_append_right _ member
      rcases List.mem_cons.mp inStack with rfl | inOuter
      · exact Nat.lt_irrefl _
      · exact Nat.not_lt_of_gt (((List.pairwise_cons.mp nested).1 _ inOuter).at_offset offset).1
    refine ⟨kept, rfl, ⟨(List.pairwise_append.mp nestedBoth).2.1, List.ne_nil_of_mem member, ?_,
      shortLater⟩, ?_⟩
    · rw [split, nesting_replicate_dedent, List.length_append] at room
      omega
    · rw [List.map_cons, List.cons_append] at moved ⊢
      unfold changeBlocks
      dsimp only
      rw [if_neg shallow, moved]
      rfl

/-- What is scanned in one text is scanned in another one further to the right, and at its end the
blocks below are closed. -/
def Moves (offset : Nat) (lower : List Column) (awaited : List Symbol) (atLineStart : Bool)
    (left right : Text) : Prop :=
  ∀ stack found, Fits lower stack found →
    lexemesFrom (stack.map (·.column 0)) awaited atLineStart left = some found →
    lexemesFrom (stack.map (·.column offset) ++ lower) awaited atLineStart right =
      some (found ++ List.replicate lower.length .dedent)

variable {left right leftRest rightRest run blanks rest : Text} {atLineStart startsLater : Bool}
  {lines : List Text}

namespace Moves

/-- Nothing stands behind the last line. -/
theorem nil : Moves offset lower [] true [] [] := by
  intro stack found fits scanned
  have positive := List.length_pos_iff.mpr fits.held
  rw [lexemesFrom] at scanned ⊢
  cases scanned
  have count : (stack.map (·.column offset) ++ lower).length - 1 =
      (stack.map (·.column 0)).length - 1 + lower.length := by
    simp only [List.length_append, List.length_map]
    omega
  rw [count, List.replicate_add]
  rfl

/-- Brackets that are open at the end are never closed. -/
theorem of_open (isOpen : awaited ≠ []) : Moves offset lower awaited atLineStart [] right := by
  intro stack found _ scanned
  rw [lexemesFrom, if_neg (by rwa [List.isEmpty_iff])] at scanned
  cases scanned

/-- Something without a lexeme is passed over in both texts. -/
theorem silent
    (passesLeft : ∀ blocks, lexemesFrom blocks awaited atLineStart left =
      lexemesFrom blocks awaitedAfter startsLater leftRest)
    (passesRight : ∀ blocks, lexemesFrom blocks awaited atLineStart right =
      lexemesFrom blocks awaitedAfter startsLater rightRest)
    (moves : Moves offset lower awaitedAfter startsLater leftRest rightRest) :
    Moves offset lower awaited atLineStart left right := by
  intro stack found fits scanned
  rw [passesLeft] at scanned
  rw [passesRight]
  exact moves stack found fits scanned

/-- The same lexeme begins both texts. -/
theorem takes
    (takesLeft : ∀ blocks, lexemesFrom blocks awaited atLineStart left =
      (lexemesFrom blocks awaitedAfter startsLater leftRest).map (lexeme :: ·))
    (takesRight : ∀ blocks, lexemesFrom blocks awaited atLineStart right =
      (lexemesFrom blocks awaitedAfter startsLater rightRest).map (lexeme :: ·))
    (stays : lexeme ≠ .indent ∧ lexeme ≠ .dedent)
    (moves : Moves offset lower awaitedAfter startsLater leftRest rightRest) :
    Moves offset lower awaited atLineStart left right := by
  intro stack found fits scanned
  rw [takesLeft] at scanned
  obtain ⟨later, scannedLater, rfl⟩ := Option.map_eq_some_iff.mp scanned
  rw [takesRight, moves stack later (fits.tail stays) scannedLater]
  rfl

/-- A line that begins with a lexeme begins and ends the same blocks in both texts. -/
theorem lineStart {point : CodePoint} (begins : BeginsLexeme point)
    (moves : Moves offset lower [] false (point :: left) (point :: right)) :
    Moves offset lower [] true (indentation.text ++ point :: left)
      (Text.spaces offset ++ indentation.text ++ point :: right) := by
  intro stack found fits scanned
  have margin : IsMargin indentation.text (indentation.column 0) := indentation.isMargin 0
  rw [margin.lexemesFrom_begins begins] at scanned
  obtain ⟨⟨changes, remaining⟩, changed, scanned⟩ := Option.bind_eq_some_iff.mp scanned
  obtain ⟨later, scannedLater, isFound⟩ := Option.map_eq_some_iff.mp scanned
  obtain ⟨kept, rfl, fitsLater, moved⟩ :=
    @Fits.exists_changeBlocks lower stack indentation offset found later changes remaining fits
      changed isFound.symm
  rw [(indentation.isMargin offset).lexemesFrom_begins begins, moved, Option.bind_some,
    moves kept later fitsLater scannedLater, Option.map_some, ← isFound, List.append_assoc]

end Moves

/-- A line holds anything but blanks. -/
def isHeld (line : Text) : Bool := !(strip line).isEmpty

/-- Lines one below the other. -/
def linesText (lines : List Text) : Text := lines.flatMap (· ++ [lineFeed])

/-- The lines that hold anything, behind some spaces and without the blanks at their ends. -/
def movedText (offset : Nat) (lines : List Text) : Text :=
  (lines.filter isHeld).flatMap fun line => Text.spaces offset ++ stripEnd line ++ [lineFeed]

/-- A line may be moved: its margin and the blanks at its end are spaces and tabulators, and it does
not begin with a join. -/
structure IsMovable (line : Text) : Prop where
  plain : lineFeed ∉ line
  ends : ∃ blanks, line = stripEnd line ++ blanks ∧ ∀ point ∈ blanks, point.isSpaceOrTab = true
  begins : isHeld line = true → ∃ (indentation : Indentation) (point : CodePoint) (more : Text),
    stripEnd line = indentation.text ++ point :: more ∧ isInnerBlank point = false ∧ point ≠ backslash

theorem isInnerBlank_of_isSpaceOrTab {point : CodePoint} (blank : point.isSpaceOrTab = true) :
    isInnerBlank point = true := by
  unfold isInnerBlank
  rw [show (point == space || point == tab) = true from blank]
  rfl

/-- Blanks at the end of a line are passed over. -/
theorem lexemesFrom_blanks {blocks : List Column} (blank : ∀ point ∈ blanks, point.isSpaceOrTab = true) :
    lexemesFrom blocks awaited false (blanks ++ rest) = lexemesFrom blocks awaited false rest := by
  induction blanks with
  | nil => rfl
  | cons point blanks ih =>
      obtain ⟨isBlank, blank⟩ := List.forall_mem_cons.mp blank
      rw [List.cons_append, lexemesFrom_innerBlank (isInnerBlank_of_isSpaceOrTab isBlank), ih blank]

/-- What stands behind the last code point of a line that is no blank ends a lexeme. -/
theorem exists_ends_lexeme (blank : ∀ point ∈ blanks, point.isSpaceOrTab = true) (rest : Text) :
    ∃ stop others, blanks ++ lineFeed :: rest = stop :: others ∧ endsLexeme stop = true := by
  cases blanks with
  | nil => exact ⟨lineFeed, rest, rfl, rfl⟩
  | cons point blanks =>
      refine ⟨point, blanks ++ lineFeed :: rest, rfl, ?_⟩
      unfold endsLexeme
      rw [isInnerBlank_of_isSpaceOrTab (blank point List.mem_cons_self)]
      rfl

/-- Only the body of a string holds a line feed. -/
theorem IsString.lineFeed_notMem {letters body behind : Text} {kind : StringLiteral}
    {mark : CodePoint} {isLong : Bool} (isString : IsString letters kind mark isLong body behind)
    (short : lineFeed ∉ body) : lineFeed ∉ stringText letters mark isLong body := by
  have noMark : lineFeed ∉ stringMarks mark isLong := by
    intro member
    exact ne_lineFeed_of_isQuotationMark isString.quotes (List.eq_of_mem_replicate member).symm
  have noLetter : lineFeed ∉ letters := by
    intro member
    have continues := couldContinueWord_of_stringPrefix?
      (Option.isSome_of_mem isString.announces) member
    cases continues
  simp only [stringText, List.mem_append, not_or]
  exact ⟨noLetter, noMark, short, noMark⟩

/-- A lexeme ends in front of the blanks at the end of its line. -/
theorem length_le_of_readLexeme_blanks {length : Nat} (held : run ≠ [])
    (blank : ∀ point ∈ blanks, point.isSpaceOrTab = true)
    (read : readLexeme (run ++ (blanks ++ lineFeed :: rest)) = some (lexeme, length))
    (short : ∀ string, lexeme = .string string → lineFeed ∉ string.body) : length ≤ run.length := by
  obtain ⟨stop, others, split, ends⟩ := exists_ends_lexeme blank rest
  cases announced : stringLetters? (run ++ (blanks ++ lineFeed :: rest)) with
  | none =>
      rcases isSolid_readLexeme announced read with solid | ⟨-, rfl⟩
      · by_contra beyond
        obtain ⟨more, rfl⟩ := Nat.exists_eq_add_of_lt (Nat.lt_of_not_le beyond)
        have member : stop ∈ (run ++ (blanks ++ lineFeed :: rest)).take (run.length + more + 1) := by
          rw [split, Nat.add_assoc, List.take_length_add_append, List.take_succ_cons]
          exact List.mem_append_right _ List.mem_cons_self
        have solidStop := solid stop member
        rw [ends] at solidStop
        cases solidStop
      · exact List.length_pos_iff.mpr held
  | some count =>
      obtain ⟨letters, kind, mark, isLong, body, behind, isString, -, whole, rfl, rfl⟩ :=
        exists_string_of_readLexeme announced read
      have noFeed := isString.lineFeed_notMem (short _ rfl)
      have isLast : (stringText letters mark isLong body).getLast? = some mark := getLast?_stringText
      rcases List.append_eq_append_iff.mp whole with ⟨beyond, isText, isBlanks⟩ | ⟨kept, isRun, -⟩
      · rcases List.eq_nil_or_concat beyond with rfl | ⟨inside, last, rfl⟩
        · rw [isText, List.append_nil]
        -- The string would end with a blank or go on over the line end.
        rw [isText, List.concat_eq_append, ← List.append_assoc, List.getLast?_concat] at isLast
        obtain rfl := Option.some.inj isLast
        rw [List.concat_eq_append] at isText isBlanks
        have member : last ∈ blanks := by
          rcases List.append_eq_append_iff.mp isBlanks with ⟨more, isBeyond, isFeed⟩ | ⟨more, rfl, -⟩
          · cases more with
            | nil =>
                rw [List.append_nil] at isBeyond
                exact isBeyond ▸ List.mem_append_right _ List.mem_cons_self
            | cons first more =>
                obtain ⟨rfl, -⟩ := List.cons.inj isFeed
                rw [isText, isBeyond] at noFeed
                simp at noFeed
          · simp
        have quotes := isString.quotes
        have noQuote := isQuotationMark_eq_false (by
          unfold endsLexeme
          rw [isInnerBlank_of_isSpaceOrTab (blank last member)]
          rfl : endsLexeme last = true)
        rw [noQuote] at quotes
        cases quotes
      · rw [isRun, List.length_append]
        exact Nat.le_add_right _ _

/-- A lexeme is the same without the blanks at the end of its line, whatever stands behind the line. -/
theorem readLexeme_blanks {length : Nat} {other : Text}
    (blank : ∀ point ∈ blanks, point.isSpaceOrTab = true)
    (read : readLexeme (run ++ (blanks ++ lineFeed :: rest)) = some (lexeme, length))
    (within : length ≤ run.length) :
    readLexeme (run ++ lineFeed :: other) = some (lexeme, length) := by
  obtain ⟨stop, others, split, ends⟩ := exists_ends_lexeme blank rest
  have same : SameRun (run ++ (blanks ++ lineFeed :: rest)) (run ++ lineFeed :: other) := by
    rw [split]
    exact sameRun_append run ends rfl
  apply readLexeme_congr same read
  rw [List.take_append_of_le_length within, List.take_append_of_le_length within]

/-- **The rest of a line is scanned alike** if the lines behind it are, at the start of a line as well
as inside brackets. -/
theorem moves_run (starts : Moves offset lower [] true (linesText lines) (movedText offset lines))
    (joined : ∀ awaited, awaited ≠ [] ∨ (∃ next ∈ lines.head?, isHeld next = true) →
      Moves offset lower awaited false (linesText lines) (movedText offset lines))
    (plain : lineFeed ∉ run) (blank : ∀ point ∈ blanks, point.isSpaceOrTab = true)
    (joins : ∀ next ∈ lines.head?, run.getLast? = some backslash → isHeld next = true) :
    Moves offset lower awaited false (run ++ (blanks ++ lineFeed :: linesText lines))
      (run ++ lineFeed :: movedText offset lines) := by
  have lineEnd : ∀ awaited, Moves offset lower awaited false (lineFeed :: linesText lines)
      (lineFeed :: movedText offset lines) := by
    intro awaited
    by_cases isOpen : awaited = []
    · subst isOpen
      exact .takes (fun _ => lexemesFrom_lineFeed) (fun _ => lexemesFrom_lineFeed) ⟨nofun, nofun⟩ starts
    · exact .silent (fun _ => lexemesFrom_lineFeed_open isOpen)
        (fun _ => lexemesFrom_lineFeed_open isOpen) (joined awaited (.inl isOpen))
  induction count : run.length using Nat.strongRecOn generalizing run awaited with
  | ind count ih =>
  cases run with
  | nil =>
      have passes : ∀ blocks, lexemesFrom blocks awaited false
          (blanks ++ lineFeed :: linesText lines) =
            lexemesFrom blocks awaited false (lineFeed :: linesText lines) :=
        fun _ => lexemesFrom_blanks blank
      exact .silent passes (fun _ => rfl) (lineEnd awaited)
  | cons first after =>
  rw [List.length_cons] at count
  obtain ⟨noFeed, plainAfter⟩ := not_or.mp (mt List.mem_cons.mpr plain)
  have joinsBehind : ∀ less, ∀ next ∈ lines.head?, (after.drop less).getLast? = some backslash →
      isHeld next = true := by
    intro less next isNext isLast
    refine joins next isNext ?_
    rw [← List.take_append_drop less after, List.getLast?_cons, List.getLast?_append, isLast]
    rfl
  have plainBehind : ∀ less, lineFeed ∉ after.drop less := fun less member =>
    plainAfter (List.mem_of_mem_drop member)
  by_cases isBlank : isInnerBlank first = true
  · exact .silent (fun _ => lexemesFrom_innerBlank isBlank) (fun _ => lexemesFrom_innerBlank isBlank)
      (ih after.length (by omega) plainAfter (joinsBehind 0) rfl)
  by_cases isHash : first = hash
  · subst isHash
    have plainBoth : lineFeed ∉ after ++ blanks := by
      rw [List.mem_append, not_or]
      refine ⟨plainAfter, fun member => ?_⟩
      cases blank _ member
    rw [List.cons_append, ← List.append_assoc]
    exact .silent (fun _ => lexemesFrom_hash plainBoth) (fun _ => lexemesFrom_hash plainAfter)
      (lineEnd awaited)
  intro stack found fits scanned
  have scannedStep := scanned
  rw [List.cons_append, lexemesFrom_cons, if_neg Bool.false_ne_true] at scannedStep
  obtain ⟨step, stepped, scannedStep⟩ := Option.bind_eq_some_iff.mp scannedStep
  unfold stepInLine at stepped
  rw [if_neg isBlank, if_neg isHash, if_neg (Ne.symm noFeed)] at stepped
  by_cases isBackslash : first = backslash
  · -- Only the end of the line can stand behind the backslash, and a line that is held behind it.
    subst isBackslash
    rw [if_pos rfl] at stepped
    split at stepped
    · next second others atJoin =>
        cases after with
        | cons next after =>
            obtain ⟨rfl, -⟩ := List.cons.inj atJoin
            exact (plainAfter List.mem_cons_self).elim
        | nil =>
            cases blanks with
            | cons next blanks =>
                obtain ⟨rfl, -⟩ := List.cons.inj atJoin
                cases blank lineFeed List.mem_cons_self
            | nil =>
                obtain ⟨-, behind⟩ := List.cons.inj atJoin
                cases lines with
                | nil => cases behind
                | cons next lines =>
                    have isNext : isHeld next = true := joins next rfl rfl
                    have heldRight : movedText offset (next :: lines) ≠ [] := by
                      unfold movedText
                      rw [List.filter_cons_of_pos isNext, List.flatMap_cons]
                      exact List.append_ne_nil_of_left_ne_nil
                        (List.append_ne_nil_of_right_ne_nil _ (List.cons_ne_nil _ _)) _
                    have heldLeft : linesText (next :: lines) ≠ [] := by
                      intro none
                      have split : [] = second :: others := none.symm.trans behind
                      cases split
                    refine Moves.silent (fun _ => lexemesFrom_join heldLeft)
                      (fun _ => lexemesFrom_join heldRight) (joined awaited (.inr ⟨next, rfl, isNext⟩))
                      stack found fits scanned
    · cases stepped
  · rw [if_neg isBackslash] at stepped
    obtain ⟨⟨lexeme, length⟩, read, stepped⟩ := Option.bind_eq_some_iff.mp stepped
    obtain ⟨awaitedAfter, tracked, stepped⟩ := Option.bind_eq_some_iff.mp stepped
    cases stepped
    obtain ⟨later, scannedLater, rfl⟩ := Option.map_eq_some_iff.mp scannedStep
    have inline := (isFitting_readLexeme read).inline
    have stays : lexeme ≠ .indent ∧ lexeme ≠ .dedent := by
      constructor <;> rintro rfl <;> cases inline
    have within : length ≤ (first :: after).length :=
      length_le_of_readLexeme_blanks (List.cons_ne_nil _ _) blank read fun string isString =>
        fits.short string (by rw [isString]; exact List.mem_cons_self)
    have readRight : readLexeme (first :: (after ++ lineFeed :: movedText offset lines)) =
        some (lexeme, length) := readLexeme_blanks blank read within
    rw [List.length_cons] at within
    have short : length - 1 ≤ after.length := by omega
    dsimp only at scannedLater
    rw [List.drop_append_of_le_length short] at scannedLater
    have moved := ih (after.drop (length - 1)).length (by rw [List.length_drop]; omega)
      (plainBehind _) (joinsBehind _) rfl stack later (fits.tail stays) scannedLater
    have begins : BeginsLexeme first :=
      ⟨Bool.eq_false_iff.mpr isBlank, isHash, Ne.symm noFeed, isBackslash⟩
    rw [List.cons_append, lexemesFrom_cons, if_neg Bool.false_ne_true,
      stepInLine_of_begins begins readRight, tracked, Option.map_some, Option.bind_some]
    dsimp only
    rw [List.drop_append_of_le_length short, moved]
    rfl

/-- Spaces and tabulators are a margin. -/
theorem exists_isMargin (blank : ∀ point ∈ blanks, point.isSpaceOrTab = true) :
    ∃ column, IsMargin blanks column := by
  have measures : ∀ margin : Margin, ∃ column, ∀ point rest, isInnerBlank point = false →
      point ≠ backslash → margin.measureFrom (blanks ++ point :: rest) =
        some ⟨column, margin.joined, margin.length + blanks.length⟩ := by
    induction blanks with
    | nil =>
        intro margin
        exact ⟨margin.column, fun point rest => measureFrom_stop⟩
    | cons first blanks ih =>
        intro margin
        obtain ⟨isBlank, blankRest⟩ := List.forall_mem_cons.mp blank
        simp only [isSpaceOrTab, Bool.or_eq_true, beq_iff_eq] at isBlank
        rcases isBlank with rfl | rfl
        · obtain ⟨column, measured⟩ := ih blankRest ⟨⟨margin.column.wide + 1, margin.column.narrow + 1⟩,
            margin.joined, margin.length + 1⟩
          refine ⟨column, fun point rest noBlank noBackslash => ?_⟩
          rw [List.cons_append, measureFrom_space, measured point rest noBlank noBackslash,
            List.length_cons, Nat.add_assoc, Nat.add_comm 1]
        · obtain ⟨column, measured⟩ := ih blankRest ⟨⟨(margin.column.wide / 8 + 1) * 8,
            margin.column.narrow + 1⟩, margin.joined, margin.length + 1⟩
          refine ⟨column, fun point rest noBlank noBackslash => ?_⟩
          rw [List.cons_append, Indentation.measureFrom_tab, measured point rest noBlank noBackslash,
            List.length_cons, Nat.add_assoc, Nat.add_comm 1]
  obtain ⟨column, measured⟩ := measures Margin.start
  refine ⟨column, fun point rest noBlank noBackslash => ?_⟩
  rw [measured point rest noBlank noBackslash]
  simp only [Margin.start, Nat.zero_add]

/-- Nothing but blanks is left of a line that is not held. -/
theorem stripEnd_of_not_isHeld {line : Text} (noCode : isHeld line = false) : stripEnd line = [] := by
  have none : stripStart (stripEnd line) = [] := by
    rw [stripStart_stripEnd]
    simpa [isHeld] using noCode
  cases isLast : (stripEnd line).getLast? with
  | none => exact List.getLast?_eq_none_iff.mp isLast
  | some last =>
      have noBlank := not_isBlank_of_getLast?_stripEnd last isLast
      rw [List.dropWhile_eq_nil_iff.mp none last (List.mem_of_getLast? isLast)] at noBlank
      cases noBlank

/-- **Lines that are moved to the right are scanned alike.** -/
theorem moves_lines (movable : ∀ line ∈ lines, IsMovable line)
    (joins : lines.IsChain fun line next =>
      (stripEnd line).getLast? = some backslash → isHeld next = true) :
    Moves offset lower [] true (linesText lines) (movedText offset lines) ∧
      ∀ awaited, awaited ≠ [] ∨ (∃ next ∈ lines.head?, isHeld next = true) →
        Moves offset lower awaited false (linesText lines) (movedText offset lines) := by
  induction lines with
  | nil =>
      refine ⟨.nil, fun awaited isOpen => ?_⟩
      rcases isOpen with isOpen | ⟨_, isNext, -⟩
      · exact .of_open isOpen
      · cases isNext
  | cons line lines ih =>
      obtain ⟨isMovable, movable⟩ := List.forall_mem_cons.mp movable
      obtain ⟨joinsLine, joins⟩ := List.isChain_cons.mp joins
      obtain ⟨starts, joined⟩ := ih movable joins
      obtain ⟨blanks, split, blank⟩ := isMovable.ends
      have isLeft : linesText (line :: lines) =
          stripEnd line ++ (blanks ++ lineFeed :: linesText lines) := by
        unfold linesText
        rw [List.flatMap_cons, List.append_assoc, List.singleton_append, ← List.append_assoc, ← split]
      cases held : isHeld line with
      | false =>
          have isRight : movedText offset (line :: lines) = movedText offset lines := by
            unfold movedText
            rw [List.filter_cons_of_neg (by rw [held]; exact Bool.false_ne_true)]
          rw [isLeft, isRight, stripEnd_of_not_isHeld held, List.nil_append]
          obtain ⟨column, margin⟩ := exists_isMargin blank
          refine ⟨.silent (fun _ => margin.lexemesFrom_lineFeed) (fun _ => rfl) starts,
            fun awaited isOpen => ?_⟩
          rcases isOpen with isOpen | ⟨next, isNext, isHeldNext⟩
          · refine .silent (fun _ => ?_) (fun _ => rfl) (joined awaited (.inl isOpen))
            rw [lexemesFrom_blanks blank, lexemesFrom_lineFeed_open isOpen]
          · cases isNext
            rw [held] at isHeldNext
            cases isHeldNext
      | true =>
          obtain ⟨indentation, point, more, isLine, noBlank, noBackslash⟩ := isMovable.begins held
          have isRight : movedText offset (line :: lines) =
              Text.spaces offset ++ (stripEnd line ++ lineFeed :: movedText offset lines) := by
            unfold movedText
            rw [List.filter_cons_of_pos held, List.flatMap_cons]
            simp only [List.append_assoc, List.singleton_append]
          have plain : lineFeed ∉ stripEnd line := fun member =>
            isMovable.plain (split ▸ List.mem_append_left _ member)
          have spaces : ∀ point ∈ Text.spaces offset, point.isSpaceOrTab = true := by
            intro point member
            rw [List.eq_of_mem_replicate member]
            rfl
          rw [isLeft, isRight]
          refine ⟨?_, fun awaited _ => .silent (fun _ => rfl) (fun _ => lexemesFrom_blanks spaces)
            (moves_run starts joined plain blank joinsLine)⟩
          rw [isLine] at plain joinsLine ⊢
          rw [List.mem_append, not_or] at plain
          have plainMore : lineFeed ∉ more := fun member => plain.2 (List.mem_cons_of_mem _ member)
          rw [List.append_assoc, List.cons_append, List.append_assoc, List.cons_append,
            ← List.append_assoc (Text.spaces offset)]
          by_cases isHash : point = hash
          · subst isHash
            have plainBoth : lineFeed ∉ more ++ blanks := by
              rw [List.mem_append, not_or]
              refine ⟨plainMore, fun member => ?_⟩
              cases blank _ member
            have margin : IsMargin indentation.text (indentation.column 0) := indentation.isMargin 0
            refine .silent (fun _ => ?_)
              (fun _ => (indentation.isMargin offset).lexemesFrom_hash plainMore) starts
            rw [← List.append_assoc]
            exact margin.lexemesFrom_hash plainBoth
          · have begins : BeginsLexeme point :=
              ⟨noBlank, isHash, fun isFeed => plain.2 (isFeed ▸ List.mem_cons_self), noBackslash⟩
            refine .lineStart begins (moves_run starts joined plain.2 blank ?_)
            intro next isNext isLast
            refine joinsLine next isNext ?_
            rw [List.getLast?_append, isLast]
            rfl

end Stencil.Script
