import Mathlib.Data.List.TakeWhile
import Stencil.Script.Lexeme.Scan

/-! # Scanning a line

A line is spelled by blanks, words, marks and strings one after the other, each with what must
not follow it (`Stencil.Script.LineSpells`). The scanner reads a spelled line as its lexemes,
whatever stands behind its line feed (`Stencil.Script.LineSpells.lexemesFrom_eq`).
-/

namespace Stencil.Script

open CodePoint

/-- What follows a word neither continues it nor makes it announce a string. -/
def EndsWord (rest : Text) : Prop :=
  ∀ point ∈ rest.head?, couldContinueWord point = false ∧ isQuotationMark point = false

instance (rest : Text) : Decidable (EndsWord rest) :=
  inferInstanceAs (Decidable (∀ point ∈ rest.head?, _))

/-- What follows a mark does not make a longer one or a number of it. -/
def EndsMark (rest : Text) : Prop :=
  ∀ point ∈ rest.head?, point ≠ 61 ∧ point ≠ 46 ∧ point.isDigit = false

instance (rest : Text) : Decidable (EndsMark rest) :=
  inferInstanceAs (Decidable (∀ point ∈ rest.head?, _))

/-- The lexeme of a word. -/
def wordLexeme (word : Text) : Lexeme :=
  match Keyword.ofText? word with
  | some keyword => .keyword keyword
  | none => .name word

/-- The marks of one code point. -/
def lineMarks : List (CodePoint × Symbol) :=
  [(40, .leftParen), (41, .rightParen), (91, .leftBracket), (93, .rightBracket), (58, .colon),
    (61, .equal), (46, .dot), (44, .comma)]

/-- A line spells lexemes when it is made of blanks, words, marks and strings between
apostrophes, each ended by what follows it, and closes the brackets that are awaited. -/
inductive LineSpells : List Symbol → Text → List Lexeme → Prop
  | done : LineSpells [] [] []
  | blank {awaited : List Symbol} {rest : Text} {found : List Lexeme}
      (spells : LineSpells awaited rest found) : LineSpells awaited (space :: rest) found
  | word {awaited : List Symbol} {word rest : Text} {found : List Lexeme}
      (identifier : word.isIdentifier = true) (ends : EndsWord rest)
      (spells : LineSpells awaited rest found) :
      LineSpells awaited (word ++ rest) (wordLexeme word :: found)
  | mark {awaited awaitedAfter : List Symbol} {point : CodePoint} {symbol : Symbol} {rest : Text}
      {found : List Lexeme} (known : (point, symbol) ∈ lineMarks) (ends : EndsMark rest)
      (tracked : trackBrackets awaited (.symbol symbol) = some awaitedAfter)
      (spells : LineSpells awaitedAfter rest found) :
      LineSpells awaited (point :: rest) (.symbol symbol :: found)
  /-- A string ends at its closing apostrophe; an empty one is not the start of a longer mark. -/
  | string {awaited : List Symbol} {body rest : Text} {found : List Lexeme}
      (extent : ∀ behind, bodyLength apostrophe false (body ++ apostrophe :: behind) =
        some body.length)
      (short : body.head? ≠ some apostrophe)
      (single : body = [] → rest.head? ≠ some apostrophe)
      (spells : LineSpells awaited rest found) :
      LineSpells awaited (apostrophe :: body ++ apostrophe :: rest)
        (.string ⟨false, false, false, body⟩ :: found)

variable {word tail rest whole run : Text} {awaited awaitedAfter : List Symbol}
  {blocks : List Column} {lexeme : Lexeme} {point : CodePoint} {found : List Lexeme}

/-- A run ends where a code point stops it. -/
theorem takeWhile_append_stop {front : Text} {test : CodePoint → Bool} (stops : test point = false) :
    (front ++ point :: rest).takeWhile test = front.takeWhile test := by
  induction front with
  | nil => rw [List.nil_append, List.takeWhile_cons_of_neg (Bool.eq_false_iff.mp stops)]; rfl
  | cons first front ih => rw [List.cons_append, List.takeWhile_cons, List.takeWhile_cons, ih]

/-- A run does not see what stands behind a code point that stops it. -/
theorem takeWhile_append_of_mem {front : Text} {test : CodePoint → Bool} (stops : test point = false)
    (member : point ∈ front) : (front ++ rest).takeWhile test = front.takeWhile test := by
  obtain ⟨start, behind, rfl⟩ := List.append_of_mem member
  rw [List.append_assoc, List.cons_append, takeWhile_append_stop stops, takeWhile_append_stop stops]

/-- A code point of a word means nothing else to the scanner. -/
theorem isInLine_of_couldContinueWord (continues : couldContinueWord point = true) :
    isInnerBlank point = false ∧ point ≠ hash ∧ point ≠ lineFeed ∧ point ≠ backslash ∧
      isQuotationMark point = false ∧ point ≠ 46 := by
  refine ⟨?_, ?_, ?_, ?_, ?_, ?_⟩
  · rw [Bool.eq_false_iff]
    intro blank
    simp only [isInnerBlank, Bool.or_eq_true, beq_iff_eq] at blank
    rcases blank with (rfl | rfl) | rfl <;> cases continues
  · rintro rfl; cases continues
  · rintro rfl; cases continues
  · rintro rfl; cases continues
  · rw [Bool.eq_false_iff]
    intro quotes
    simp only [isQuotationMark, Bool.or_eq_true, beq_iff_eq] at quotes
    rcases quotes with rfl | rfl <;> cases continues
  · rintro rfl; cases continues

theorem couldContinueWord_of_isIdentifierPart (isPart : point.isIdentifierPart = true) :
    couldContinueWord point = true := by
  unfold isIdentifierPart at isPart
  unfold couldContinueWord
  split at isPart
  · rw [isPart, Bool.true_or]
  · next large => rw [decide_eq_true (Nat.not_lt.mp large), Bool.or_true]

theorem isDigit_of_isLetter {point : Nat} (isLetter : CodePoint.isLetter point = true) :
    CodePoint.isDigit point = false := by
  have letter : (97 ≤ point ∧ point ≤ 122) ∨ (65 ≤ point ∧ point ≤ 90) := by
    unfold CodePoint.isLetter isSmallLetter isCapitalLetter at isLetter
    rw [Bool.or_eq_true, Bool.and_eq_true, Bool.and_eq_true] at isLetter
    simpa only [decide_eq_true_eq] using isLetter
  have large : ¬ point ≤ 57 := by omega
  unfold CodePoint.isDigit
  rw [decide_eq_false large, Bool.and_false]

/-- A code point that begins an identifier belongs to words and is no digit. -/
theorem couldContinueWord_of_isIdentifierStart (isStart : point.isIdentifierStart = true) :
    couldContinueWord point = true ∧ point.isDigit = false := by
  unfold isIdentifierStart at isStart
  unfold couldContinueWord
  split at isStart
  · rw [Bool.or_eq_true] at isStart
    rcases isStart with isLetter | isScore
    · exact ⟨by rw [isLetter]; rfl, isDigit_of_isLetter isLetter⟩
    · rw [beq_iff_eq] at isScore
      subst isScore
      exact ⟨rfl, rfl⟩
  · next large =>
      refine ⟨by rw [decide_eq_true (Nat.not_lt.mp large), Bool.or_true], ?_⟩
      rw [Bool.eq_false_iff]
      intro digit
      simp only [CodePoint.isDigit, Bool.and_eq_true, decide_eq_true_eq] at digit
      exact large (Nat.lt_of_le_of_lt digit.2 (by decide))

/-- An identifier is a run of code points of words, the first of which is no digit. -/
theorem exists_cons_of_isIdentifier (identifier : word.isIdentifier = true) :
    ∃ first others, word = first :: others ∧ first.isDigit = false ∧
      ∀ point ∈ word, couldContinueWord point = true := by
  cases word with
  | nil => cases identifier
  | cons first others =>
      simp only [Text.isIdentifier, Bool.and_eq_true, List.all_eq_true] at identifier
      have start := couldContinueWord_of_isIdentifierStart identifier.1
      refine ⟨first, others, rfl, start.2, ?_⟩
      intro point member
      rcases List.mem_cons.mp member with rfl | inOthers
      · exact start.1
      · exact couldContinueWord_of_isIdentifierPart (identifier.2 point inOthers)

/-- What announces a string is made of letters. -/
theorem couldContinueWord_of_stringPrefix? {letters : Text}
    (announces : (stringPrefix? letters).isSome = true) (member : point ∈ letters) :
    couldContinueWord point = true := by
  have small : ∀ spelled ∈ [text "u", text "r", text "b", text "f", text "br", text "rb",
      text "fr", text "rf"], ∀ letter ∈ spelled, isSmallLetter letter = true := by decide
  have isLetter_of_mem : ∀ spelled, spelled ∈ [text "u", text "r", text "b", text "f", text "br",
        text "rb", text "fr", text "rf"] →
      letters.map (fun point => if point.isCapitalLetter then point + 32 else point) = spelled →
      couldContinueWord point = true := by
    intro spelled known form
    have lowered := small spelled known _ (form ▸ List.mem_map_of_mem member)
    unfold couldContinueWord CodePoint.isLetter
    cases capital : point.isCapitalLetter with
    | true => rw [Bool.or_true, Bool.true_or, Bool.true_or, Bool.true_or]
    | false =>
        rw [capital] at lowered
        rw [show point.isSmallLetter = true from lowered, Bool.true_or, Bool.true_or,
          Bool.true_or, Bool.true_or]
  unfold stringPrefix? at announces
  dsimp only at announces
  split at announces
  · next plain =>
      rw [Bool.or_eq_true, decide_eq_true_eq, decide_eq_true_eq] at plain
      rcases plain with none | unicode
      · rw [List.map_eq_nil_iff] at none
        rw [none] at member
        cases member
      · exact isLetter_of_mem _ (by decide) unicode
  split at announces
  · next raw => exact isLetter_of_mem _ (by decide) raw
  split at announces
  · next bytes => exact isLetter_of_mem _ (by decide) bytes
  split at announces
  · next format => exact isLetter_of_mem _ (by decide) format
  split at announces
  · next rawBytes =>
      rw [Bool.or_eq_true, decide_eq_true_eq, decide_eq_true_eq] at rawBytes
      rcases rawBytes with form | form
      · exact isLetter_of_mem _ (by decide) form
      · exact isLetter_of_mem _ (by decide) form
  split at announces
  · next rawFormat =>
      rw [Bool.or_eq_true, decide_eq_true_eq, decide_eq_true_eq] at rawFormat
      rcases rawFormat with form | form
      · exact isLetter_of_mem _ (by decide) form
      · exact isLetter_of_mem _ (by decide) form
  · cases announces

/-- Words that are ended announce no string. -/
theorem stringLetters?_eq_none (continues : ∀ point ∈ run, couldContinueWord point = true)
    (ends : EndsWord tail) : stringLetters? (run ++ tail) = none := by
  unfold stringLetters?
  rw [List.find?_eq_none]
  intro letters _
  rw [Bool.and_eq_true, not_and]
  intro quotes announces
  obtain ⟨point, atHead, isMark⟩ := (Option.any_eq_true _ _).mp quotes
  rcases Nat.lt_or_ge letters run.length with inside | behind
  · have inRun : point ∈ run := by
      rw [List.drop_append_of_le_length (Nat.le_of_lt inside), List.head?_append,
        List.head?_drop, List.getElem?_eq_getElem inside] at atHead
      rw [← Option.some.inj atHead]
      exact List.getElem_mem inside
    rw [(isInLine_of_couldContinueWord (continues point inRun)).2.2.2.2.1] at isMark
    cases isMark
  · rcases Nat.eq_or_lt_of_le behind with equal | further
    · rw [← equal, List.drop_left] at atHead
      rw [(ends point atHead).2] at isMark
      cases isMark
    · cases tail with
      | nil =>
          rw [List.append_nil, List.drop_eq_nil_of_le behind] at atHead
          cases atHead
      | cons first others =>
          have member : first ∈ (run ++ first :: others).take letters := by
            obtain ⟨more, count⟩ := Nat.exists_eq_add_of_lt further
            rw [count, Nat.add_assoc, List.take_length_add_append, List.take_succ_cons]
            exact List.mem_append_right _ List.mem_cons_self
          have continuesWord := couldContinueWord_of_stringPrefix? announces member
          rw [(ends first rfl).1] at continuesWord
          cases continuesWord

/-- A run of code points of words ends where something else follows. -/
theorem takeWhile_couldContinueWord (continues : ∀ point ∈ run, couldContinueWord point = true)
    (ends : EndsWord tail) : (run ++ tail).takeWhile couldContinueWord = run := by
  rw [List.takeWhile_append_of_pos continues]
  cases tail with
  | nil => rw [List.takeWhile_nil, List.append_nil]
  | cons first others =>
      rw [List.takeWhile_cons_of_neg (by rw [(ends first rfl).1]; exact Bool.false_ne_true),
        List.append_nil]

/-- A word is read as its lexeme. -/
theorem readLexeme_word (identifier : word.isIdentifier = true) (ends : EndsWord tail) :
    readLexeme (word ++ tail) = some (wordLexeme word, word.length) := by
  obtain ⟨first, others, split, noDigit, continues⟩ := exists_cons_of_isIdentifier identifier
  have noDot : first ≠ 46 := (isInLine_of_couldContinueWord
    (continues first (split ▸ List.mem_cons_self))).2.2.2.2.2
  have continuesFirst := continues first (split ▸ List.mem_cons_self)
  unfold readLexeme
  rw [stringLetters?_eq_none continues ends, split, List.cons_append]
  simp only [noDigit, noDot, decide_false, Bool.false_and, Bool.or_self, Bool.false_eq_true,
    ↓reduceIte, continuesFirst]
  rw [← List.cons_append, ← split]
  unfold readWord wordLexeme
  rw [takeWhile_couldContinueWord continues ends, if_pos identifier]
  cases Keyword.ofText? word <;> rfl

/-- The symbol that a mark of one code point begins with is the mark. -/
theorem symbolAtStart?_mark {symbol : Symbol} (known : (point, symbol) ∈ lineMarks)
    (ends : EndsMark tail) : Symbol.atStart? (point :: tail) = some (symbol, 1) := by
  cases tail with
  | nil =>
      have single : ∀ entry ∈ lineMarks, Symbol.atStart? [entry.1] = some (entry.2, 1) := by
        decide
      exact single _ known
  | cons next others =>
      obtain ⟨notEqual, notDot, -⟩ := ends next rfl
      simp only [lineMarks, List.mem_cons, Prod.mk.injEq, List.not_mem_nil, or_false] at known
      have notEqual' : (61 == next) = false := beq_eq_false_iff_ne.mpr (Ne.symm notEqual)
      have notDot' : (46 == next) = false := beq_eq_false_iff_ne.mpr (Ne.symm notDot)
      rcases known with ⟨rfl, rfl⟩ | ⟨rfl, rfl⟩ | ⟨rfl, rfl⟩ | ⟨rfl, rfl⟩ | ⟨rfl, rfl⟩ |
        ⟨rfl, rfl⟩ | ⟨rfl, rfl⟩ | ⟨rfl, rfl⟩ <;>
      · simp [Symbol.atStart?, Symbol.spellings, text, List.isPrefixOf, notEqual', notDot']
        rfl

theorem readLexeme_mark {symbol : Symbol} (known : (point, symbol) ∈ lineMarks)
    (ends : EndsMark tail) : readLexeme (point :: tail) = some (.symbol symbol, 1) := by
  have shape : couldContinueWord point = false ∧ isQuotationMark point = false ∧
      point.isDigit = false := by
    have all : ∀ entry ∈ lineMarks, couldContinueWord entry.1 = false ∧
        isQuotationMark entry.1 = false ∧ entry.1.isDigit = false := by decide
    exact all _ known
  have endsNone : EndsWord (point :: tail) := by
    intro first isFirst
    rw [← Option.some.inj isFirst]
    exact ⟨shape.1, shape.2.1⟩
  have noRun : ∀ other ∈ ([] : Text), couldContinueWord other = true :=
    fun _ member => nomatch member
  have noString : stringLetters? (point :: tail) = none := stringLetters?_eq_none noRun endsNone
  have noNumber : tail.head?.any CodePoint.isDigit = false := by
    rw [Option.any_eq_false]
    intro next isNext
    rw [(ends next isNext).2.2]
  unfold readLexeme
  rw [noString]
  simp only [shape, noNumber, Bool.and_false, Bool.or_self, Bool.false_eq_true, ↓reduceIte,
    symbolAtStart?_mark known ends, Option.map_some]

/-- A string between apostrophes is read as a whole. -/
theorem readLexeme_string {body : Text}
    (extent : bodyLength apostrophe false (body ++ apostrophe :: tail) = some body.length)
    (short : body.head? ≠ some apostrophe) (single : body = [] → tail.head? ≠ some apostrophe) :
    readLexeme (apostrophe :: (body ++ apostrophe :: tail)) =
      some (.string ⟨false, false, false, body⟩, body.length + 2) := by
  have notLong : [apostrophe, apostrophe].isPrefixOf (body ++ apostrophe :: tail) = false := by
    cases body with
    | nil =>
        cases tail with
        | nil => rfl
        | cons next others =>
            have differs : (apostrophe == next) = false :=
              beq_eq_false_iff_ne.mpr fun same => single rfl (congrArg some same.symm)
            simp only [List.nil_append, List.isPrefixOf, differs, Bool.false_and, Bool.and_false]
    | cons next others =>
        have differs : (apostrophe == next) = false :=
          beq_eq_false_iff_ne.mpr fun same => short (congrArg some same.symm)
        simp only [List.cons_append, List.isPrefixOf, differs, Bool.false_and]
  have letters : stringLetters? (apostrophe :: (body ++ apostrophe :: tail)) = some 0 := rfl
  unfold readLexeme
  rw [letters]
  unfold readString
  simp only [List.take_zero, List.drop_zero, notLong, Bool.false_eq_true, ↓reduceIte, extent,
    Option.bind_eq_bind, Option.bind_some, List.take_left, Nat.zero_add, Option.pure_def]
  rfl

theorem lexemesFrom_blank : lexemesFrom blocks awaited false (space :: tail) =
    lexemesFrom blocks awaited false tail := by
  rw [lexemesFrom]
  simp only [stepInLine, show isInnerBlank space = true from rfl, Bool.false_eq_true, ↓reduceIte,
    Option.bind_eq_bind, Option.bind_some, List.drop_zero, List.nil_append, Option.pure_def]
  cases lexemesFrom blocks awaited false tail <;> rfl

/-- The end of a line is a lexeme where no bracket is open. -/
theorem lexemesFrom_lineFeed : lexemesFrom blocks [] false (lineFeed :: tail) =
    (lexemesFrom blocks [] true tail).map (.lineEnd :: ·) := by
  rw [lexemesFrom]
  have step : stepInLine blocks [] lineFeed tail = some ⟨[.lineEnd], blocks, [], true, 0⟩ := rfl
  rw [step]
  cases found : lexemesFrom blocks [] true tail <;> simp [found]

/-- What is left of a line after one lexeme has been read. -/
theorem lexemesFrom_lexeme {first : CodePoint} {others : Text} (split : run = first :: others)
    (plain : isInnerBlank first = false ∧ first ≠ hash ∧ first ≠ lineFeed ∧ first ≠ backslash)
    (read : readLexeme (run ++ tail) = some (lexeme, run.length))
    (tracked : trackBrackets awaited lexeme = some awaitedAfter) :
    lexemesFrom blocks awaited false (run ++ tail) =
      (lexemesFrom blocks awaitedAfter false tail).map (lexeme :: ·) := by
  subst split
  rw [List.cons_append] at read ⊢
  rw [lexemesFrom]
  simp only [Bool.false_eq_true, ↓reduceIte, stepInLine, plain, read, Option.bind_eq_bind,
    Option.bind_some, tracked, Option.pure_def, List.length_cons, Nat.add_sub_cancel,
    List.drop_left, List.singleton_append]
  cases lexemesFrom blocks awaitedAfter false tail <;> rfl

/-- A code point that begins a lexeme. -/
def BeginsLexeme (point : CodePoint) : Prop :=
  isInnerBlank point = false ∧ point ≠ hash ∧ point ≠ lineFeed ∧ point ≠ backslash

instance (point : CodePoint) : Decidable (BeginsLexeme point) :=
  inferInstanceAs (Decidable (_ ∧ _ ∧ _ ∧ _))

/-- A line is made of blanks and of lexemes that are read whatever stands behind the line. -/
inductive LineReads : List Symbol → Text → List Lexeme → Prop
  | done : LineReads [] [] []
  | blank {awaited : List Symbol} {rest : Text} {found : List Lexeme}
      (reads : LineReads awaited rest found) : LineReads awaited (space :: rest) found
  | lexeme {awaited awaitedAfter : List Symbol} {first : CodePoint} {others rest : Text}
      {lexeme : Lexeme} {found : List Lexeme} (begins : BeginsLexeme first)
      (read : ∀ tail, readLexeme (first :: others ++ (rest ++ lineFeed :: tail)) =
        some (lexeme, (first :: others).length))
      (tracked : trackBrackets awaited lexeme = some awaitedAfter)
      (reads : LineReads awaitedAfter rest found) :
      LineReads awaited (first :: others ++ rest) (lexeme :: found)

/-- A spelled line is made of blanks and lexemes. -/
theorem LineSpells.lineReads (spells : LineSpells awaited whole found) :
    LineReads awaited whole found := by
  have endsWord_of_line : ∀ {rest tail : Text}, EndsWord rest →
      EndsWord (rest ++ lineFeed :: tail) := by
    intro rest tail ends
    cases rest with
    | nil =>
        intro point isFeed
        cases isFeed
        decide
    | cons first others => exact ends
  have endsMark_of_line : ∀ {rest tail : Text}, EndsMark rest →
      EndsMark (rest ++ lineFeed :: tail) := by
    intro rest tail ends
    cases rest with
    | nil =>
        intro point isFeed
        cases isFeed
        decide
    | cons first others => exact ends
  induction spells with
  | done => exact .done
  | blank _ ih => exact .blank ih
  | @word awaited word rest found identifier ends _ ih =>
      obtain ⟨first, others, rfl, -, continues⟩ := exists_cons_of_isIdentifier identifier
      have plain := isInLine_of_couldContinueWord (continues first List.mem_cons_self)
      have tracked : trackBrackets awaited (wordLexeme (first :: others)) = some awaited := by
        unfold wordLexeme
        cases Keyword.ofText? (first :: others) <;> rfl
      exact .lexeme ⟨plain.1, plain.2.1, plain.2.2.1, plain.2.2.2.1⟩
        (fun tail => readLexeme_word identifier (endsWord_of_line ends)) tracked ih
  | @mark awaited awaitedAfter point symbol rest found known ends tracked _ ih =>
      have all : ∀ entry ∈ lineMarks, BeginsLexeme entry.1 := by decide
      rw [← List.singleton_append]
      exact .lexeme (all _ known)
        (fun tail => readLexeme_mark known (endsMark_of_line ends)) tracked ih
  | @string awaited body rest found extent short single _ ih =>
      have line : apostrophe :: body ++ apostrophe :: rest =
          apostrophe :: (body ++ [apostrophe]) ++ rest := by
        simp only [List.append_assoc, List.cons_append, List.nil_append]
      have read : ∀ tail, readLexeme (apostrophe :: (body ++ [apostrophe]) ++
          (rest ++ lineFeed :: tail)) = some (.string ⟨false, false, false, body⟩,
            (apostrophe :: (body ++ [apostrophe])).length) := by
        intro tail
        have ends : body = [] → (rest ++ lineFeed :: tail).head? ≠ some apostrophe := by
          intro empty
          cases rest with
          | nil =>
              intro isFeed
              cases isFeed
          | cons next others => exact single empty
        have length : (apostrophe :: (body ++ [apostrophe])).length = body.length + 2 := by
          rw [List.length_cons, List.length_append, List.length_singleton]
        have whole : apostrophe :: (body ++ [apostrophe]) ++ (rest ++ lineFeed :: tail) =
            apostrophe :: (body ++ apostrophe :: (rest ++ lineFeed :: tail)) := by
          simp only [List.append_assoc, List.cons_append, List.nil_append]
        rw [length, whole]
        exact readLexeme_string (extent _) short ends
      rw [line]
      exact .lexeme (by decide) read rfl ih

/-- **A spelled line is read as its lexemes**, and reading goes on behind its line feed. -/
theorem LineSpells.lexemesFrom_eq (spells : LineSpells awaited whole found)
    (blocks : List Column) (tail : Text) :
    lexemesFrom blocks awaited false (whole ++ lineFeed :: tail) =
      (lexemesFrom blocks [] true tail).map (found ++ .lineEnd :: ·) := by
  have reads := spells.lineReads
  clear spells
  induction reads with
  | done => exact lexemesFrom_lineFeed
  | blank _ ih => rw [List.cons_append, lexemesFrom_blank, ih]
  | lexeme begins read tracked _ ih =>
      rw [List.append_assoc, lexemesFrom_lexeme rfl begins (read tail) tracked, ih, Option.map_map]
      rfl

/-- Brackets that are open before a line that closes its own are still open behind it. -/
theorem trackBrackets_append (outer : List Symbol)
    (tracked : trackBrackets awaited lexeme = some awaitedAfter) :
    trackBrackets (awaited ++ outer) lexeme = some (awaitedAfter ++ outer) ∨
      trackBrackets (awaited ++ outer) lexeme = none := by
  cases lexeme with
  | symbol symbol =>
      unfold trackBrackets at tracked ⊢
      dsimp only at tracked ⊢
      cases closing : symbol.closing? with
      | some closing =>
          rw [closing] at tracked
          dsimp only at tracked ⊢
          split at tracked
          · cases tracked
            split
            · exact .inl rfl
            · exact .inr rfl
          · cases tracked
      | none =>
          rw [closing] at tracked
          dsimp only at tracked ⊢
          split at tracked
          · cases awaited with
            | nil => cases tracked
            | cons expected inner =>
                dsimp only at tracked
                split at tracked
                · next closes same =>
                    cases tracked
                    rw [if_pos closes]
                    exact .inl (if_pos same)
                · cases tracked
          · next opens =>
              cases tracked
              rw [if_neg opens]
              exact .inl rfl
  | _ => cases tracked; exact .inl rfl

/-- The last line of a text closes no bracket that was open before it. -/
theorem LineSpells.lexemesFrom_eq_none {outer : List Symbol} (held : outer ≠ [])
    (spells : LineSpells awaited whole found) (blocks : List Column) :
    lexemesFrom blocks (awaited ++ outer) false (whole ++ [lineFeed]) = none := by
  have reads := spells.lineReads
  clear spells
  induction reads with
  | done =>
      have isOpen : outer.isEmpty = false := List.isEmpty_eq_false_iff.mpr held
      have step : stepInLine blocks outer lineFeed [] = some ⟨[], blocks, outer, false, 0⟩ := by
        unfold stepInLine
        rw [isOpen]
        rfl
      rw [List.nil_append, List.nil_append, lexemesFrom]
      simp only [Bool.false_eq_true, ↓reduceIte, step, Option.bind_eq_bind, Option.bind_some,
        List.drop_nil]
      rw [lexemesFrom, isOpen]
      rfl
  | blank _ ih => rw [List.cons_append, lexemesFrom_blank, ih]
  | lexeme begins read tracked _ ih =>
      have readLine := read []
      rw [List.append_assoc]
      rcases trackBrackets_append outer tracked with goesOn | stops
      · rw [lexemesFrom_lexeme rfl begins readLine goesOn, ih]
        rfl
      · rw [List.cons_append] at readLine ⊢
        rw [lexemesFrom]
        simp only [Bool.false_eq_true, ↓reduceIte, stepInLine, begins.1, begins.2.1, begins.2.2.1,
          begins.2.2.2, readLine, Option.bind_eq_bind, Option.bind_some, stops, Option.bind_none]

end Stencil.Script
