import Stencil.Proofs.Script.LoneLine
import Stencil.Proofs.Source.BodyLines
import Stencil.Proofs.Source.LineTokens
import Stencil.Source.Block

/-! # The word that a line begins with

Whether a statement opens a block, or continues one, is decided by the ASCII word that its line
begins with. When the first lexeme of the line is such a word, this is the word
(`Stencil.IsLetterWord.exists_of_isLogicalLine`, `Stencil.IsLetterWord.leadingWord_append`), and the
comment behind the line does not change it (`Stencil.IsLetterWord.leadingWord_stripComment`).
-/

namespace Stencil

open Script Source CodePoint Text

variable {word line tail content code : Text} {point : CodePoint} {inside : List Lexeme}

/-- A letter is a part of words. It is no blank, and neither a comment nor a string begins with it. -/
theorem plain_of_isLetter (letter : point.isLetter = true) :
    isWordCharacter point = true ∧ point.isBlank = false ∧ point ≠ hash ∧
      isQuotationMark point = false := by
  have letters : ∀ other : Nat, other < 128 → isLetter other = true →
      isWordCharacter other = true ∧ isBlank other = false ∧ other ≠ hash ∧
        isQuotationMark other = false := by decide
  have small : ∀ other : Nat, isLetter other = true → other < 128 := by
    intro other isLetter
    simp only [CodePoint.isLetter, isSmallLetter, isCapitalLetter, Bool.or_eq_true,
      Bool.and_eq_true, decide_eq_true_eq] at isLetter
    rcases isLetter with ⟨-, le⟩ | ⟨-, le⟩
    · exact Nat.lt_of_le_of_lt le (by decide)
    · exact Nat.lt_of_le_of_lt le (by decide)
  exact letters point (small point letter) letter

/-- What may be part of a word may continue a word of a program. -/
theorem isWordCharacter_eq_false (ends : couldContinueWord point = false) :
    isWordCharacter point = false := by
  simp only [couldContinueWord, Bool.or_eq_false_iff, decide_eq_false_iff_not, ge_iff_le,
    Nat.not_le] at ends
  obtain ⟨⟨⟨noLetter, noDigit⟩, noScore⟩, small⟩ := ends
  rw [isWordCharacter, if_pos small, noLetter, noDigit, noScore]
  rfl

/-- A word of ASCII letters. -/
def IsLetterWord (word : Text) : Prop := word ≠ [] ∧ ∀ point ∈ word, point.isLetter = true

instance (word : Text) : Decidable (IsLetterWord word) := inferInstanceAs (Decidable (_ ∧ _))

/-- Nothing in front of a text continues the word before it. -/
def EndsLetters (tail : Text) : Prop := ∀ point ∈ tail.head?, isWordCharacter point = false

namespace IsLetterWord

/-- **A line begins with the word that its letters spell.** -/
theorem leadingWord_append (letters : IsLetterWord word) (ends : EndsLetters tail) :
    leadingWord (word ++ tail) = word := by
  obtain ⟨held, each⟩ := letters
  obtain ⟨first, others, rfl⟩ := List.exists_cons_of_ne_nil held
  have plain := plain_of_isLetter (each first List.mem_cons_self)
  have start : stripStart (first :: others ++ tail) = first :: others ++ tail :=
    List.dropWhile_cons_of_neg (by rw [plain.2.1]; exact Bool.false_ne_true)
  have word : (first :: others ++ tail).takeWhile isWordCharacter = first :: others := by
    rw [List.takeWhile_append_of_pos fun point member => (plain_of_isLetter (each point member)).1]
    cases tail with
    | nil => rw [List.takeWhile_nil, List.append_nil]
    | cons next rest =>
        rw [List.takeWhile_cons_of_neg (by rw [ends next rfl]; exact Bool.false_ne_true),
          List.append_nil]
  unfold leadingWord
  rw [start]
  dsimp only
  rw [List.cons_append] at word ⊢
  rw [word]
  exact if_pos (by rw [each first List.mem_cons_self]; rfl)

/-- A comment stands behind the word that a line begins with. -/
theorem beforeComment_append (letters : ∀ point ∈ word, point.isLetter = true) :
    beforeComment 0 (word ++ tail) = (beforeComment 0 tail).map (word ++ ·) :=
  beforeComment_plain fun point member => (plain_of_isLetter (letters point member)).2.2

/-- The blanks behind a word do not reach into it. -/
theorem exists_stripEnd_append (letters : IsLetterWord word) :
    ∃ kept, stripEnd (word ++ code) = word ++ kept ∧ kept <+: code := by
  obtain ⟨ending, split, blank⟩ := exists_dropEndWhile_append isBlank (word ++ code)
  change word ++ code = stripEnd (word ++ code) ++ ending at split
  rcases List.append_eq_append_iff.mp split with ⟨kept, isKept, isCode⟩ | ⟨lost, isWord, isEnding⟩
  · exact ⟨kept, isKept, ending, isCode.symm⟩
  · cases lost with
    | nil =>
        rw [List.append_nil] at isWord
        exact ⟨[], by rw [List.append_nil, ← isWord], List.nil_prefix⟩
    | cons point lost =>
        have inWord : point ∈ word := isWord ▸ List.mem_append_right _ List.mem_cons_self
        have isBlank := blank point (isEnding ▸ List.mem_append_left _ List.mem_cons_self)
        rw [(plain_of_isLetter (letters.2 point inWord)).2.1] at isBlank
        cases isBlank

theorem EndsLetters.of_prefix (ends : EndsLetters tail) (kept : code <+: tail) : EndsLetters code := by
  obtain ⟨behind, rfl⟩ := kept
  cases code with
  | nil => exact fun _ isHead => nomatch isHead
  | cons first code => exact ends

/-- A comment stands behind the code before it. -/
theorem exists_of_beforeComment {pending : Nat} {code : Text}
    (found : beforeComment pending tail = some code) : ∃ note, tail = code ++ hash :: note := by
  induction tail generalizing pending code with
  | nil => cases found
  | cons point rest ih =>
      have behind : ∀ {pending}, (beforeComment pending rest).map (point :: ·) = some code →
          ∃ note, point :: rest = code ++ hash :: note := by
        intro pending found
        obtain ⟨inner, foundInner, rfl⟩ := Option.map_eq_some_iff.mp found
        obtain ⟨note, rfl⟩ := ih foundInner
        exact ⟨note, rfl⟩
      rw [beforeComment] at found
      split at found
      · exact behind found
      split at found
      · next isHash =>
          cases found
          exact ⟨rest, congrArg (· :: rest) isHash⟩
      split at found
      · obtain ⟨length, -, found⟩ := Option.bind_eq_some_iff.mp found
        exact behind found
      · exact behind found

/-- **The comment behind a line does not change the word that it begins with.** -/
theorem leadingWord_stripComment (letters : IsLetterWord word) (ends : EndsLetters tail) :
    leadingWord (stripComment (word ++ tail)) = word := by
  unfold stripComment
  rw [beforeComment_append letters.2]
  cases found : beforeComment 0 tail with
  | none => exact letters.leadingWord_append ends
  | some code =>
      obtain ⟨kept, isKept, isPrefix⟩ := @exists_stripEnd_append word code letters
      obtain ⟨note, rfl⟩ := exists_of_beforeComment found
      change leadingWord (stripEnd (word ++ code)) = word
      rw [isKept]
      exact letters.leadingWord_append
        (EndsLetters.of_prefix ends (isPrefix.trans (List.prefix_append _ _)))

/-- A logical line that begins with a word begins with its letters. -/
theorem exists_of_isLogicalLine (isLine : IsLogicalLine content (wordLexeme word :: inside)) :
    ∃ tail, content = word ++ tail ∧ EndsLetters tail := by
  obtain ⟨start, others, length, same, read⟩ := isLine.exists_first
  obtain ⟨rfl, rfl⟩ := List.cons.inj same
  have taken := takeWhile_of_readLexeme read
  rw [takeWhile_append_stop rfl] at taken
  refine ⟨content.dropWhile couldContinueWord, ?_, fun point isHead => ?_⟩
  · conv_lhs => rw [← List.takeWhile_append_dropWhile (p := couldContinueWord) (l := content), taken]
  · have stops := List.head?_dropWhile_not couldContinueWord content
    rw [isHead] at stops
    exact isWordCharacter_eq_false (by simpa using stops)

end IsLetterWord

end Stencil
