import Stencil.Proofs.Source.ExpressionValue

/-! # Literal text is encoded exactly

What quotes a literal text is one string and nothing else: by itself, inside a line, where what stands
behind it is read on its own, and in the call that writes it out (`Stencil.IsLoneString`). The value of
the string is the literal text, so no two literal texts are quoted alike (`Stencil.quoteLiteral_exact`).
-/

namespace Stencil

open Script Source CodePoint Text

variable {raw rest written body other value meant : Text} {point : CodePoint}
  {blocks : List Column} {awaited : List Symbol}

/-- The string between apostrophes that has a body. -/
def shortString (body : Text) : Lexeme := .string ⟨false, false, false, body⟩

/-- **A text is one string** with a body and a value, by itself and in the code around it. -/
structure IsLoneString (written body value : Text) : Prop where
  decodes : decodeText false body = some value
  alone : Script.lexemes written = some [shortString body, .lineEnd]
  /-- Inside a line the string ends with the text, whatever stands behind it; only behind an empty
  string a third apostrophe would open a longer one. -/
  inLine : ∀ blocks awaited rest, (value = [] → rest.head? ≠ some apostrophe) →
    lexemesFrom blocks awaited false (written ++ rest) =
      (lexemesFrom blocks awaited false rest).map (shortString body :: ·)
  called : ∀ blocks rest, lexemesFrom blocks [] false (appendCall written ++ lineFeed :: rest) =
    (lexemesFrom blocks [] true rest).map ([.name (text "_append"), .symbol .leftParen,
      shortString body, .symbol .rightParen, .lineEnd] ++ ·)

/-- A text is a string with one value only. -/
theorem IsLoneString.value_eq (isString : IsLoneString written body value)
    (again : IsLoneString written other meant) : value = meant := by
  have lexemes := isString.alone.symm.trans again.alone
  obtain rfl : body = other := by
    simpa only [shortString, Option.some.injEq, List.cons.injEq, Lexeme.string.injEq,
      StringLiteral.mk.injEq, true_and, and_true] using lexemes
  exact Option.some.inj (isString.decodes.symm.trans again.decodes)

/-- No control character but the tabulator, and no half of a surrogate pair, is in a quoted text. -/
theorem plain_of_mem_quoteLiteral (member : point ∈ quoteLiteral (normalize raw)) :
    (point < 32 → point = tab) ∧ point ≠ 127 ∧ point.isSurrogate = false := by
  obtain ⟨safe, notFeed⟩ := safe_quoteLiteral member
  have outside := isUnsafe_iff.not.mp (Bool.eq_false_iff.mp safe)
  have control : ∀ other : Nat, ¬(other ≤ 8 ∨ (11 ≤ other ∧ other ≤ 31) ∨ other = 127 ∨
      (0xD800 ≤ other ∧ other ≤ 0xDFFF)) → other ≠ 10 → (other < 32 → other = 9) ∧ other ≠ 127 := by
    omega
  obtain ⟨noControl, noDelete⟩ := control point outside notFeed
  exact ⟨noControl, noDelete, (isClean_quoteLiteral raw point member).2.2⟩

theorem isPlainLine_quoted (raw : Text) : IsPlainLine (quoteLiteral (normalize raw)) := by
  have absent (control : Nat) (isControl : control < 32) (noTab : control ≠ tab) :
      control ∉ quoteLiteral (normalize raw) := fun member =>
    noTab ((plain_of_mem_quoteLiteral member).1 isControl)
  exact ⟨absent _ (by decide) (by decide), absent _ (by decide) (by decide),
    absent _ (by decide) (by decide)⟩

/-- The quoted text is a lexeme of a line, and what stands behind it is read on its own. -/
theorem lexemesFrom_quoteLiteral (short : raw = [] → rest.head? ≠ some apostrophe) :
    lexemesFrom blocks awaited false (quoteLiteral (normalize raw) ++ rest) =
      (lexemesFrom blocks awaited false rest).map (shortString (raw.flatMap literalForm) :: ·) :=
  lexemesFrom_lexeme quoteLiteral_normalize (by decide) (readLexeme_quoteLiteral short) rfl

theorem lexemes_quoteLiteral : Script.lexemes (quoteLiteral (normalize raw)) =
    some [shortString (raw.flatMap literalForm), .lineEnd] := by
  have start : lexemesFrom [Column.zero] [] true (quoteLiteral (normalize raw) ++ [lineFeed]) =
      lexemesFrom [Column.zero] [] false (quoteLiteral (normalize raw) ++ [lineFeed]) := by
    rw [quoteLiteral_normalize]
    exact lexemesFrom_begins (by decide)
  rw [Script.lexemes, unifyLineEnds_of_plain (isPlainLine_quoted raw), start,
    lexemesFrom_quoteLiteral fun _ => by decide, lexemesFrom_lineFeed, lexemesFrom]
  rfl

/-- **A quoted text is one string**, and its value is the text. -/
theorem isLoneString_quoteLiteral (raw : Text) :
    IsLoneString (quoteLiteral (normalize raw)) (raw.flatMap literalForm) raw where
  decodes := decodeText_quoted
  alone := lexemes_quoteLiteral
  inLine _ _ _ short := lexemesFrom_quoteLiteral short
  called := (RenderLine.literal raw).spells.lexemesFrom_eq

/-- **Literal text is encoded exactly.** The text that quotes a literal text holds no control character
but the tabulator and no half of a surrogate pair, it is one string whose value is the literal text, by
itself and in the code around it, and no other literal text is quoted alike. -/
theorem quoteLiteral_exact (raw : Text) :
    (∀ point ∈ quoteLiteral (normalize raw),
        (point < 32 → point = tab) ∧ point ≠ 127 ∧ point.isSurrogate = false) ∧
      (∃ body, IsLoneString (quoteLiteral (normalize raw)) body raw) ∧
      ∀ other, quoteLiteral (normalize other) = quoteLiteral (normalize raw) → other = raw := by
  refine ⟨fun point => plain_of_mem_quoteLiteral, ⟨_, isLoneString_quoteLiteral raw⟩, ?_⟩
  intro other same
  exact (isLoneString_quoteLiteral other).value_eq (same ▸ isLoneString_quoteLiteral raw)

/-- A null in front of a digit and half of a surrogate pair in front of a letter are written by numbers
that do not take along what follows, an apostrophe behind the string opens another one, and a backslash
in front of a letter is not quoted like a line feed. -/
theorem quoteLiteral_exact_digits :
    let written := text "'\\'\\\\\\n\\x001\\ud800a'"
    quoteLiteral (normalize [39, 92, 10, 0, 49, 0xD800, 97]) = written ∧
      (∃ body, Script.lexemes written = some [shortString body, .lineEnd] ∧
        decodeText false body = some [39, 92, 10, 0, 49, 0xD800, 97] ∧
        lexemesFrom [Column.zero] [] false (written ++ text "'b'") =
          (lexemesFrom [Column.zero] [] false (text "'b'")).map (shortString body :: ·)) ∧
      quoteLiteral (normalize (text "\\n")) ≠ quoteLiteral (normalize [lineFeed]) := by
  have isWritten : quoteLiteral (normalize [39, 92, 10, 0, 49, 0xD800, 97]) =
      text "'\\'\\\\\\n\\x001\\ud800a'" := by decide
  obtain ⟨-, ⟨body, isString⟩, -⟩ := quoteLiteral_exact [39, 92, 10, 0, 49, 0xD800, 97]
  rw [isWritten] at isString
  refine ⟨isWritten, ⟨body, isString.alone, isString.decodes, isString.inLine _ _ _ ?_⟩, ?_⟩
  · exact fun empty => nomatch empty
  · intro same
    exact absurd ((quoteLiteral_exact [lineFeed]).2.2 _ same) (by decide)

end Stencil
