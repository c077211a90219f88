import Mathlib.Data.List.Basic
import Stencil.Proofs.Script.LexemeBound
import Stencil.Proofs.Source.FrameLines
import Stencil.Proofs.Source.LiteralText
import Stencil.Proofs.Text.Intervals

/-! # Words in program text

A name can stand in the text of a program, and between apostrophes every code point of it stands
for itself, so a name spells a word (`Stencil.Script.IsName.spells`) and a quoted name spells the
string of the name (`Stencil.Script.IsName.spells_quoted`).
-/

namespace Stencil

open Script Source CodePoint Text

/-- A code point that stands for itself, by itself and between apostrophes. -/
def IsShown (point : CodePoint) : Prop :=
  point.isPrintable = true ∧ point ≠ apostrophe ∧ point ≠ backslash

variable {point : CodePoint} {name rest : Text} {awaited : List Symbol} {found : List Lexeme}

/-- A printable code point is no control and no lone surrogate. -/
theorem isUnsafe_of_isPrintable (printable : point.isPrintable = true) :
    isUnsafe point = false := by
  rw [Bool.eq_false_iff, ne_eq, isUnsafe_iff]
  unfold isPrintable at printable
  split at printable
  · next small =>
      have range : ∀ number : Nat, number < 128 → 32 ≤ number ∧ number < 127 →
          ¬(number ≤ 8 ∨ (11 ≤ number ∧ number ≤ 31) ∨ number = 127 ∨
            (0xD800 ≤ number ∧ number ≤ 0xDFFF)) := by
        omega
      rw [Bool.and_eq_true, decide_eq_true_eq, decide_eq_true_eq] at printable
      exact range _ small printable
  · next large =>
      intro isHidden
      have range : ∀ number : Nat, ¬number < 128 → (number ≤ 8 ∨ (11 ≤ number ∧ number ≤ 31) ∨
          number = 127 ∨ (0xD800 ≤ number ∧ number ≤ 0xDFFF)) →
            55292 ≤ number ∧ number ≤ 63743 := by
        omega
      have inside : unprintableIntervals.has point = true :=
        List.any_eq_true.mpr ⟨(55292, 63743), by decide +kernel, by
          rw [Bool.and_eq_true, decide_eq_true_eq, decide_eq_true_eq]
          exact range _ large isHidden⟩
      rw [inside] at printable
      cases printable

namespace IsShown

theorem isClean (shown : IsShown point) : IsClean point := by
  have safe := isUnsafe_of_isPrintable shown.1
  rw [Bool.eq_false_iff, ne_eq, isUnsafe_iff] at safe
  have clean : ∀ number : Nat, ¬(number ≤ 8 ∨ (11 ≤ number ∧ number ≤ 31) ∨ number = 127 ∨
      (0xD800 ≤ number ∧ number ≤ 0xDFFF)) → number ≠ 0 ∧ number ≠ 13 ∧
        ¬(0xD800 ≤ number ∧ number ≤ 0xDFFF) := by
    omega
  obtain ⟨notZero, notReturn, noSurrogate⟩ := clean point safe
  refine ⟨notZero, notReturn, ?_⟩
  rw [Bool.eq_false_iff, isSurrogate, ne_eq, Bool.and_eq_true, decide_eq_true_eq,
    decide_eq_true_eq]
  exact noSurrogate

theorem literalForm_eq (shown : IsShown point) : literalForm point = [point] := by
  have plain : isEscaped point = false := by
    simp only [isEscaped, Bool.or_eq_false_iff, beq_eq_false_iff_ne]
    refine ⟨⟨shown.2.2, ?_⟩, ?_⟩
    · rintro rfl
      exact absurd shown.1 (by decide)
    · rintro rfl
      exact absurd shown.1 (by decide)
  rw [literalForm, normalPoint_of_not_escaped plain, List.flatMap_singleton, literalPoint,
    if_neg shown.2.1, isUnsafe_of_isPrintable shown.1]
  rfl

theorem quotedPoint_eq (shown : IsShown point) : Text.quotedPoint apostrophe point = [point] := by
  have differs : ∀ other ∈ [tab, lineFeed, carriageReturn], point ≠ other := by
    rintro other member rfl
    have hidden : ∀ control ∈ [tab, lineFeed, carriageReturn],
        CodePoint.isPrintable control ≠ true := by decide
    exact hidden _ member shown.1
  unfold Text.quotedPoint
  rw [decide_eq_false shown.2.1, decide_eq_false shown.2.2, if_neg (by decide),
    if_neg (differs _ (by decide)), if_neg (differs _ (by decide)), if_neg (differs _ (by decide)),
    if_pos shown.1]

end IsShown

namespace Script.IsName

/-- Every code point of a name stands for itself. -/
theorem isShown (isName : IsName name) : ∀ point ∈ name, IsShown point := by
  obtain ⟨first, others, rfl, -, continues⟩ := exists_cons_of_isIdentifier isName.1
  have identifier := isName.1
  rw [isIdentifier, Bool.and_eq_true, List.all_eq_true] at identifier
  intro point member
  refine ⟨?_, ?_, ?_⟩
  · rcases List.mem_cons.mp member with rfl | behind
    · exact isPrintable_of_isIdentifierStart identifier.1
    · exact isPrintable_of_isIdentifierPart (identifier.2 point behind)
  · rintro rfl
    exact absurd (continues _ member) (by decide)
  · rintro rfl
    exact absurd (continues _ member) (by decide)

theorem isClean (isName : IsName name) : ∀ point ∈ name, IsClean point :=
  fun point member => (isName.isShown point member).isClean

theorem endsMark (isName : IsName name) : EndsMark (name ++ rest) := by
  obtain ⟨first, others, rfl, noDigit, continues⟩ := exists_cons_of_isIdentifier isName.1
  have plain := isInLine_of_couldContinueWord (continues first List.mem_cons_self)
  refine endsMark_cons ⟨?_, plain.2.2.2.2.2, noDigit⟩
  rintro rfl
  exact absurd (continues 61 List.mem_cons_self) (by decide)

/-- A name spells a word, which may be a keyword. -/
theorem spells (isName : IsName name) (ends : EndsWord rest)
    (spells : LineSpells awaited rest found) :
    LineSpells awaited (name ++ rest) (wordLexeme name :: found) :=
  .word isName.1 ends spells

/-- A name is what it becomes in a string. -/
theorem flatMap_literalForm (isName : IsName name) : name.flatMap literalForm = name := by
  have single : ∀ point ∈ name, literalForm point = [point] :=
    fun point member => (isName.isShown point member).literalForm_eq
  rw [List.flatMap_congr single, List.flatMap_singleton']

theorem decodeText_eq (isName : IsName name) : decodeText false name = some name := by
  have decoded : decodeText false (name.flatMap literalForm) = some name := decodeText_quoted
  rwa [isName.flatMap_literalForm] at decoded

theorem quoted_eq (isName : IsName name) : name.quoted = apostrophe :: name ++ [apostrophe] := by
  have mark : Text.quotationMark name = apostrophe := by
    have absent : name.contains apostrophe = false := by
      rw [Bool.eq_false_iff, ne_eq, List.contains_iff_mem]
      exact fun member => (isName.isShown _ member).2.1 rfl
    unfold Text.quotationMark
    rw [absent]
    rfl
  have points : name.flatMap (Text.quotedPoint apostrophe) = name := by
    have single : ∀ point ∈ name, Text.quotedPoint apostrophe point = [point] :=
      fun point member => (isName.isShown point member).quotedPoint_eq
    rw [List.flatMap_congr single, List.flatMap_singleton']
  unfold Text.quoted
  simp only [mark, points]

/-- A quoted word spells the string of the isName. -/
theorem spells_quoted (isName : IsName name) (short : rest.head? ≠ some apostrophe)
    (spells : LineSpells awaited rest found) : LineSpells awaited (name.quoted ++ rest)
      (.string ⟨false, false, false, name⟩ :: found) := by
  have split : name.quoted ++ rest = apostrophe :: name ++ apostrophe :: rest := by
    rw [isName.quoted_eq, List.append_assoc]
    rfl
  rw [split]
  refine .string ?_ ?_ (fun _ => short) spells
  · intro behind
    have extent : bodyLength apostrophe false (name.flatMap literalForm ++ apostrophe :: behind) =
        some (name.flatMap literalForm).length := bodyLength_quoted
    rwa [isName.flatMap_literalForm] at extent
  · intro isApostrophe
    exact (isName.isShown _ (List.mem_of_mem_head? isApostrophe)).2.1 rfl

theorem isClean_quoted (isName : IsName name) : ∀ point ∈ name.quoted, IsClean point := by
  rw [isName.quoted_eq, List.cons_append, List.forall_mem_cons, List.forall_mem_append]
  exact ⟨by decide, isName.isClean, by decide⟩

end Script.IsName

end Stencil
