import Stencil.Proofs.Script.LineScan
import Stencil.Proofs.Text.Normal
import Stencil.Script.Literal.Escape
import Stencil.Source.LineText

/-! # Literal text read back

Literal text goes through the normal form and through the quoting of program text, and both
act on one code point at a time. What becomes of a code point is a letter behind a backslash,
its number behind a backslash, or the code point itself (`Stencil.Source.literalForm_cases`).
In each case the string that it stands in goes on behind it
(`Stencil.Source.bodyLength_literalForm`) and gives the code point back
(`Stencil.Source.decodeFrom_literalForm`).
-/

namespace Stencil.Source

open CodePoint Script Text

variable {raw rest : Text} {point mark digit : Nat} {content : StringContent}

/-- What becomes of a code point of literal text between apostrophes. -/
def literalForm (point : CodePoint) : Text := (normalPoint point).flatMap literalPoint

/-- Literal text between apostrophes, code point by code point. -/
theorem quoteLiteral_normalize : quoteLiteral (normalize raw) =
    apostrophe :: raw.flatMap literalForm ++ [apostrophe] := by
  unfold quoteLiteral
  rw [normalize_eq_flatMap, List.flatMap_assoc]
  rfl

/-- The code points that program text cannot hold as they stand. -/
theorem isUnsafe_iff : isUnsafe point = true ↔ point ≤ 8 ∨ (11 ≤ point ∧ point ≤ 31) ∨
    point = 127 ∨ (0xD800 ≤ point ∧ point ≤ 0xDFFF) := by
  unfold isUnsafe isSurrogate
  rw [Bool.or_eq_true, Bool.or_eq_true, Bool.or_eq_true, Bool.and_eq_true, Bool.and_eq_true,
    beq_iff_eq, or_assoc, or_assoc]
  simp only [decide_eq_true_eq]

theorem hexText_two : ∀ value < 0x100,
    hexText 2 value = [ofDigitValue (value / 16), ofDigitValue (value % 16)] := by
  decide +kernel

/-- A number goes on in front of its last digit until it has only one. -/
theorem digitsOnto_of_le {base fuel value : Nat} {tail : Text} (large : base ≤ value) :
    digitsOnto base (fuel + 1) value tail =
      digitsOnto base fuel (value / base) (ofDigitValue (value % base) :: tail) := by
  rw [digitsOnto]
  exact if_neg (Nat.not_lt.mpr large)

theorem hexText_four {value : Nat} (large : 0x1000 ≤ value) (small : value < 0x10000) :
    hexText 4 value = [ofDigitValue (value / 16 / 16 / 16), ofDigitValue (value / 16 / 16 % 16),
      ofDigitValue (value / 16 % 16), ofDigitValue (value % 16)] := by
  obtain ⟨fuel, log⟩ : ∃ fuel, value.log2 + 1 = fuel + 4 := by
    have : 12 ≤ value.log2 := (Nat.le_log2 (by omega)).mpr large
    exact ⟨value.log2 - 3, by omega⟩
  have digits : natText 16 value =
      [ofDigitValue (value / 16 / 16 / 16), ofDigitValue (value / 16 / 16 % 16),
        ofDigitValue (value / 16 % 16), ofDigitValue (value % 16)] := by
    unfold natText
    rw [log, digitsOnto_of_le (by omega), digitsOnto_of_le (by omega),
      digitsOnto_of_le (by omega), digitsOnto, if_pos (by omega),
      Nat.mod_eq_of_lt (by omega : value / 16 / 16 / 16 < 16)]
  unfold hexText
  rw [digits]
  rfl

theorem mem_digitsOnto {base fuel value : Nat} {tail : Text} (positive : 0 < base)
    (member : point ∈ digitsOnto base fuel value tail) :
    point ∈ tail ∨ ∃ digit < base, point = ofDigitValue digit := by
  induction fuel generalizing value tail with
  | zero => exact .inl member
  | succ fuel ih =>
      have ofExtended : point ∈ ofDigitValue (value % base) :: tail →
          point ∈ tail ∨ ∃ digit < base, point = ofDigitValue digit := by
        intro extended
        rcases List.mem_cons.mp extended with isDigit | inTail
        · exact .inr ⟨value % base, Nat.mod_lt value positive, isDigit⟩
        · exact .inl inTail
      rw [digitsOnto] at member
      split at member
      · exact ofExtended member
      · rcases ih member with extended | isDigit
        · exact ofExtended extended
        · exact .inr isDigit

theorem mem_hexText {width value : Nat} (member : point ∈ hexText width value) :
    ∃ digit < 16, point = ofDigitValue digit := by
  rcases List.mem_append.mp member with isZero | inDigits
  · exact ⟨0, by decide, List.eq_of_mem_replicate isZero⟩
  · rcases mem_digitsOnto (by decide) inDigits with inNone | isDigit
    · cases inNone
    · exact isDigit

theorem digitValue?_ofDigitValue : ∀ value < 16,
    (ofDigitValue value).digitValue?.filter (· < 16) = some value := by
  decide

/-- A digit below sixteen goes on inside a string and is safe there. -/
theorem ofDigitValue_plain : ∀ value < 16, ofDigitValue value ≠ backslash ∧
    ofDigitValue value ≠ apostrophe ∧ ofDigitValue value ≠ lineFeed ∧
    isUnsafe (ofDigitValue value) = false := by
  decide

/-- A hexadecimal digit that more digits follow. -/
theorem decodeFrom_hex_more {left value : Nat} (small : digit < 16) :
    decodeFrom content (.hex (left + 2) value) (ofDigitValue digit :: rest) =
      decodeFrom content (.hex (left + 1) (value * 16 + digit)) rest := by
  rw [decodeFrom, digitValue?_ofDigitValue digit small]
  exact if_pos (by omega)

theorem decodeFrom_hex_last {value : Nat} (small : digit < 16)
    (known : value * 16 + digit ≤ lastCodePoint) :
    decodeFrom content (.hex 1 value) (ofDigitValue digit :: rest) =
      (decodeFrom content .plain rest).map ((value * 16 + digit) :: ·) := by
  rw [decodeFrom, digitValue?_ofDigitValue digit small]
  simp only [Nat.lt_irrefl, ↓reduceIte, Nat.not_lt.mpr known]

/-- A code point of literal text becomes a letter that stands for it, its number in two or four
digits, or itself, behind a backslash in the first two cases. -/
theorem literalForm_cases (point : Nat) :
    (∃ letter, literalForm point = [backslash, letter] ∧ letterEscape? letter = some point ∧
      isUnsafe letter = false ∧ letter ≠ lineFeed) ∨
    (point < 0x100 ∧ literalForm point = backslash :: 120 :: hexText 2 point) ∨
    (0x1000 ≤ point ∧ point < 0x10000 ∧
      literalForm point = backslash :: 117 :: hexText 4 point) ∨
    (literalForm point = [point] ∧ point ≠ backslash ∧ point ≠ apostrophe ∧ point ≠ lineFeed ∧
      isUnsafe point = false) := by
  cases escaped : isEscaped point with
  | true =>
      simp only [isEscaped, Bool.or_eq_true, beq_iff_eq] at escaped
      rcases escaped with (rfl | rfl) | rfl
      · exact .inl ⟨backslash, by decide⟩
      · exact .inl ⟨114, by decide⟩
      · exact .inl ⟨110, by decide⟩
  | false =>
      have whole : literalForm point = literalPoint point := by
        unfold literalForm
        rw [normalPoint_of_not_escaped escaped, List.flatMap_singleton]
      simp only [isEscaped, Bool.or_eq_false_iff, beq_eq_false_iff_ne, ne_eq] at escaped
      rw [whole]
      unfold literalPoint
      by_cases isApostrophe : point = apostrophe
      · subst isApostrophe
        exact .inl ⟨apostrophe, by decide⟩
      · rw [if_neg isApostrophe]
        cases unsafePoint : isUnsafe point with
        | false =>
            exact .inr (.inr (.inr ⟨rfl, escaped.1.1, isApostrophe, escaped.2, rfl⟩))
        | true =>
            by_cases small : point < 0x100
            · rw [if_pos rfl, if_pos small]
              exact .inr (.inl ⟨small, rfl⟩)
            · have surrogate : 0xD800 ≤ point ∧ point ≤ 0xDFFF := by
                rw [isUnsafe_iff] at unsafePoint
                omega
              rw [if_pos rfl, if_neg small]
              exact .inr (.inr (.inl ⟨by omega, by omega, rfl⟩))

/-- A backslash takes the next code point with it. -/
theorem bodyLength_pair {isLong : Bool} {next : CodePoint} :
    bodyLength mark isLong (backslash :: next :: rest) =
      (bodyLength mark isLong rest).map (· + 2) := by
  rw [bodyLength, if_pos rfl]

/-- Code points that neither end nor escape anything belong to the body of a string. -/
theorem bodyLength_run {run : Text} (held : rest ≠ [])
    (plain : ∀ point ∈ run, point ≠ backslash ∧ point ≠ mark ∧ point ≠ lineFeed) :
    bodyLength mark false (run ++ rest) =
      (bodyLength mark false rest).map (· + run.length) := by
  induction run with
  | nil =>
      rw [List.nil_append]
      cases bodyLength mark false rest <;> rfl
  | cons point run ih =>
      obtain ⟨notBackslash, notMark, notFeed⟩ := plain point List.mem_cons_self
      have behind := ih fun other member => plain other (List.mem_cons_of_mem _ member)
      obtain ⟨next, others, split⟩ := List.exists_cons_of_ne_nil
        (List.append_ne_nil_of_right_ne_nil run held)
      rw [List.cons_append, split, bodyLength, if_neg notBackslash, ← split, behind]
      simp only [notMark, notFeed, decide_false, Bool.false_and, Bool.false_eq_true, ↓reduceIte,
        Option.map_map, List.length_cons]
      rfl

theorem bodyLength_number {letter : CodePoint} {width value : Nat} (held : rest ≠ []) :
    bodyLength apostrophe false (backslash :: letter :: hexText width value ++ rest) =
      (bodyLength apostrophe false rest).map
        (· + (backslash :: letter :: hexText width value).length) := by
  rw [List.cons_append, List.cons_append, bodyLength_pair, bodyLength_run held, Option.map_map]
  · rfl
  · intro point member
    obtain ⟨digit, small, rfl⟩ := mem_hexText member
    have plain := ofDigitValue_plain digit small
    exact ⟨plain.1, plain.2.1, plain.2.2.1⟩

/-- The string goes on behind what becomes of a code point. -/
theorem bodyLength_literalForm (held : rest ≠ []) :
    bodyLength apostrophe false (literalForm point ++ rest) =
      (bodyLength apostrophe false rest).map (· + (literalForm point).length) := by
  rcases literalForm_cases point with
    ⟨letter, form, -⟩ | ⟨-, form⟩ | ⟨-, -, form⟩ | ⟨form, plain⟩
  · rw [form, List.cons_append, List.singleton_append, bodyLength_pair]
    rfl
  · rw [form, bodyLength_number held]
  · rw [form, bodyLength_number held]
  · rw [form, bodyLength_run held]
    intro other member
    rw [List.mem_singleton.mp member]
    exact ⟨plain.1, plain.2.1, plain.2.2.1⟩

/-- The string of a literal text ends at its closing apostrophe. -/
theorem bodyLength_quoted : bodyLength apostrophe false
    (raw.flatMap literalForm ++ apostrophe :: rest) = some (raw.flatMap literalForm).length := by
  induction raw with
  | nil => cases rest <;> rfl
  | cons point raw ih =>
      rw [List.flatMap_cons, List.append_assoc,
        bodyLength_literalForm (List.append_ne_nil_of_right_ne_nil _ (List.cons_ne_nil _ _)), ih,
        Option.map_some, List.length_append, Nat.add_comm]

/-- What becomes of a code point gives the code point back. -/
theorem decodeFrom_literalForm : decodeFrom .text .plain (literalForm point ++ rest) =
    (decodeFrom .text .plain rest).map (point :: ·) := by
  rcases literalForm_cases point with
    ⟨letter, form, meant, -⟩ | ⟨small, form⟩ | ⟨large, small, form⟩ | ⟨form, plain⟩
  · rw [form, List.cons_append, List.singleton_append, decodeFrom, if_pos rfl, decodeFrom, meant]
  -- The reader takes exactly two digits, so digits that follow in the text do not join them.
  · have value : (0 * 16 + point / 16) * 16 + point % 16 = point := by omega
    rw [form, hexText_two point small]
    simp only [List.cons_append, List.nil_append]
    rw [decodeFrom, if_pos rfl, decodeFrom]
    change decodeFrom .text (.hex 2 0) _ = _
    rw [decodeFrom_hex_more (by omega), decodeFrom_hex_last (by omega) (by
      unfold lastCodePoint; omega), value]
  · have value : (((0 * 16 + point / 16 / 16 / 16) * 16 + point / 16 / 16 % 16) * 16 +
        point / 16 % 16) * 16 + point % 16 = point := by omega
    rw [form, hexText_four large small]
    simp only [List.cons_append, List.nil_append]
    rw [decodeFrom, if_pos rfl, decodeFrom]
    change decodeFrom .text (.hex 4 0) _ = _
    rw [decodeFrom_hex_more (by omega), decodeFrom_hex_more (by omega),
      decodeFrom_hex_more (by omega), decodeFrom_hex_last (by omega) (by
      unfold lastCodePoint; omega), value]
  · rw [form, List.singleton_append, decodeFrom, if_neg plain.1]

/-- **Literal text is read back.** The string that quotes a text in normal form has the text
as its value. -/
theorem decodeText_quoted : decodeText false (raw.flatMap literalForm) = some raw := by
  change decodeFrom .text .plain (raw.flatMap literalForm) = some raw
  induction raw with
  | nil => rfl
  | cons point raw ih =>
      rw [List.flatMap_cons, decodeFrom_literalForm, ih, Option.map_some]

/-- What becomes of a code point can stand in the text of a program, on a single line. -/
theorem safe_literalForm {other : Nat} (member : other ∈ literalForm point) :
    isUnsafe other = false ∧ other ≠ lineFeed := by
  have ofNumber : ∀ {letter width value}, isUnsafe letter = false ∧ letter ≠ lineFeed →
      other ∈ backslash :: letter :: hexText width value →
        isUnsafe other = false ∧ other ≠ lineFeed := by
    intro letter width value safe inNumber
    rcases List.mem_cons.mp inNumber with rfl | behind
    · decide
    rcases List.mem_cons.mp behind with rfl | inDigits
    · exact safe
    obtain ⟨digit, small, rfl⟩ := mem_hexText inDigits
    have plain := ofDigitValue_plain digit small
    exact ⟨plain.2.2.2, plain.2.2.1⟩
  rcases literalForm_cases point with
    ⟨letter, form, -, safe⟩ | ⟨-, form⟩ | ⟨-, -, form⟩ | ⟨form, -, -, notFeed, safe⟩
  · rw [form] at member
    simp only [List.mem_cons, List.not_mem_nil, or_false] at member
    rcases member with rfl | rfl
    · decide
    · exact safe
  · exact ofNumber (by decide) (form ▸ member)
  · exact ofNumber (by decide) (form ▸ member)
  · rw [form] at member
    rw [List.mem_singleton.mp member]
    exact ⟨safe, notFeed⟩

theorem safe_quoteLiteral {other : Nat} (member : other ∈ quoteLiteral (normalize raw)) :
    isUnsafe other = false ∧ other ≠ lineFeed := by
  rw [quoteLiteral_normalize] at member
  rcases List.mem_append.mp member with inFront | last
  · rcases List.mem_cons.mp inFront with rfl | inBody
    · decide
    · obtain ⟨point, -, inForm⟩ := List.mem_flatMap.mp inBody
      exact safe_literalForm inForm
  · rw [List.mem_singleton.mp last]
    decide

/-- What becomes of a code point does not begin with an apostrophe. -/
theorem head_literalForm (point : Nat) :
    ∃ first behind, literalForm point = first :: behind ∧ first ≠ apostrophe := by
  rcases literalForm_cases point with
    ⟨letter, form, -⟩ | ⟨-, form⟩ | ⟨-, -, form⟩ | ⟨form, -, notApostrophe, -⟩
  · exact ⟨_, _, form, by decide⟩
  · exact ⟨_, _, form, by decide⟩
  · exact ⟨_, _, form, by decide⟩
  · exact ⟨_, _, form, notApostrophe⟩

theorem head?_flatMap_literalForm : (raw.flatMap literalForm).head? ≠ some apostrophe := by
  cases raw with
  | nil => exact fun isHead => nomatch isHead
  | cons point others =>
      obtain ⟨first, behind, form, differs⟩ := head_literalForm point
      rw [List.flatMap_cons, form]
      exact fun isHead => differs (Option.some.inj isHead)

/-- Only an empty text is quoted by an empty string. -/
theorem eq_nil_of_flatMap_literalForm (empty : raw.flatMap literalForm = []) : raw = [] := by
  refine List.eq_nil_iff_forall_not_mem.mpr fun point member => ?_
  obtain ⟨first, behind, form, -⟩ := head_literalForm point
  have nothing := List.flatMap_eq_nil_iff.mp empty point member
  rw [form] at nothing
  cases nothing

/-- A quoted text is read as one string, up to its closing apostrophe. -/
theorem readLexeme_quoteLiteral (short : raw = [] → rest.head? ≠ some apostrophe) :
    readLexeme (quoteLiteral (normalize raw) ++ rest) =
      some (.string ⟨false, false, false, raw.flatMap literalForm⟩,
        (quoteLiteral (normalize raw)).length) := by
  rw [quoteLiteral_normalize, List.append_assoc, List.singleton_append, List.cons_append,
    readLexeme_string bodyLength_quoted head?_flatMap_literalForm fun empty =>
      short (eq_nil_of_flatMap_literalForm empty)]
  simp only [List.length_append, List.length_cons, List.length_nil]

end Stencil.Source
