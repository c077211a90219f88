import Stencil.Proofs.Script.LineScan

/-! # How far a lexeme reaches

Words, numbers and marks hold no blank and no line feed, and no closing parenthesis but the mark
itself, so none of them reaches beyond these (`Stencil.Script.isSolid_readLexeme`). A string can do
so, but a string in lines that end without a backslash ends there as well, unless the text behind
them holds three marks (`Stencil.Script.EndsLine.lt_of_readLexeme`).
-/

namespace Stencil.Script

open CodePoint

variable {whole rest : Text} {length count : Nat} {isDigit : CodePoint → Bool} {lexeme : Lexeme}
  {point : CodePoint}

/-- A code point with which a lexeme in front of it ends: a blank inside a line, a line feed or a
closing parenthesis. -/
def endsLexeme (point : CodePoint) : Bool :=
  isInnerBlank point || point == lineFeed || point == 41

/-- The first code points of a text hold none with which a lexeme ends. -/
def IsSolid (whole : Text) (length : Nat) : Prop := ∀ point ∈ whole.take length, endsLexeme point = false

theorem endsLexeme_cases (ends : endsLexeme point = true) :
    point = space ∨ point = tab ∨ point = formFeed ∨ point = lineFeed ∨ point = 41 := by
  simpa only [endsLexeme, isInnerBlank, Bool.or_eq_true, beq_iff_eq, or_assoc] using ends

/-- What a test holds of is solid where it does not hold of the code points that end lexemes. -/
theorem endsLexeme_eq_false {holds : CodePoint → Bool}
    (solid : ∀ point, endsLexeme point = true → holds point = false) (held : holds point = true) :
    endsLexeme point = false := by
  cases ends : endsLexeme point with
  | false => rfl
  | true =>
      rw [solid point ends] at held
      cases held

theorem couldContinueWord_eq_false (ends : endsLexeme point = true) :
    couldContinueWord point = false := by
  rcases endsLexeme_cases ends with rfl | rfl | rfl | rfl | rfl <;> rfl

theorem isDigit_eq_false (ends : endsLexeme point = true) : CodePoint.isDigit point = false := by
  rcases endsLexeme_cases ends with rfl | rfl | rfl | rfl | rfl <;> rfl

theorem isQuotationMark_eq_false (ends : endsLexeme point = true) :
    isQuotationMark point = false := by
  rcases endsLexeme_cases ends with rfl | rfl | rfl | rfl | rfl <;> rfl

theorem IsSolid.add (front : IsSolid whole count) (behind : IsSolid (whole.drop count) length) :
    IsSolid whole (count + length) := by
  unfold IsSolid at *
  rw [List.take_add]
  exact List.forall_mem_append.mpr ⟨front, behind⟩

theorem isSolid_zero : IsSolid whole 0 := fun _ member => nomatch member

theorem IsSolid.cons {first : CodePoint} (solid : endsLexeme first = false)
    (behind : IsSolid rest length) : IsSolid (first :: rest) (length + 1) :=
  List.forall_mem_cons.mpr ⟨solid, behind⟩

theorem isSolid_of_head {first : CodePoint} (isFirst : whole.head? = some first)
    (solid : endsLexeme first = false) : IsSolid whole 1 := by
  obtain ⟨rest, rfl⟩ := List.head?_eq_some_iff.mp isFirst
  exact .cons solid isSolid_zero

/-- What is solid holds no line feed. -/
theorem IsSolid.lineFeed_notMem (solid : IsSolid whole length) : lineFeed ∉ whole.take length :=
  fun member => nomatch solid lineFeed member

theorem isSolid_groupTail (noDigit : ∀ point, endsLexeme point = true → isDigit point = false)
    (found : groupTail isDigit whole = some length) : IsSolid whole length := by
  fun_induction groupTail isDigit whole generalizing length with
  | case1 => cases found; exact isSolid_zero
  | case2 => cases found
  | case3 point notScore =>
      split at found
      · next digit =>
          cases found
          exact .cons (endsLexeme_eq_false noDigit digit) isSolid_zero
      · cases found
        exact isSolid_zero
  | case4 next rest digit ih =>
      obtain ⟨inner, deeper, rfl⟩ := Option.map_eq_some_iff.mp found
      exact .cons (by decide) (.cons (endsLexeme_eq_false noDigit digit) (ih deeper))
  | case5 => cases found
  | case6 point next rest _ digit ih =>
      obtain ⟨inner, deeper, rfl⟩ := Option.map_eq_some_iff.mp found
      exact .cons (endsLexeme_eq_false noDigit digit) (ih deeper)
  | case7 => cases found; exact isSolid_zero

theorem isSolid_groupLength (noDigit : ∀ point, endsLexeme point = true → isDigit point = false)
    (found : groupLength isDigit whole = some length) : IsSolid whole length := by
  unfold groupLength at found
  split at found
  · cases found
  · next point rest =>
      split at found
      · next digit =>
          obtain ⟨inner, deeper, rfl⟩ := Option.map_eq_some_iff.mp found
          exact .cons (endsLexeme_eq_false noDigit digit) (isSolid_groupTail noDigit deeper)
      · cases found

/-- The digits of a group are solid in every base. -/
theorem baseDigit_eq_false (base : Nat) : ∀ point, endsLexeme point = true →
    point.digitValue?.any (· < base) = false := by
  intro point ends
  rcases endsLexeme_cases ends with rfl | rfl | rfl | rfl | rfl <;> rfl

theorem isSolid_readBased {base : Nat} {value : NumberLiteral} (start : IsSolid whole 2)
    (read : readBased base whole = some (value, length)) : IsSolid whole length := by
  unfold readBased at read
  dsimp only at read
  generalize skipping : (if (whole.drop 2).head? = some 95 then 1 else 0) = skipped at read
  have skips : IsSolid (whole.drop 2) skipped := by
    split at skipping
    · next isScore =>
        subst skipping
        exact isSolid_of_head isScore (by decide)
    · subst skipping
      exact isSolid_zero
  obtain ⟨count, group, read⟩ := Option.bind_eq_some_iff.mp read
  split at read
  · cases read
  · cases read
    refine IsSolid.add (start.add skips) ?_
    rw [← List.drop_drop]
    exact isSolid_groupLength (baseDigit_eq_false base) group

/-- A mark of an exponent, a sign or a letter of a base is solid. -/
theorem endsLexeme_of_eq {left right : CodePoint} (solidLeft : endsLexeme left = false)
    (solidRight : endsLexeme right = false)
    (either : (decide (point = left) || decide (point = right)) = true) :
    endsLexeme point = false := by
  rw [Bool.or_eq_true, decide_eq_true_eq, decide_eq_true_eq] at either
  rcases either with rfl | rfl
  · exact solidLeft
  · exact solidRight

theorem isSolid_readExponent {value : Int}
    (found : readExponent whole = some (some (value, length))) : IsSolid whole length := by
  unfold readExponent at found
  split at found
  · next mark after =>
      split at found
      · next isMark =>
          have solid : endsLexeme mark = false := endsLexeme_of_eq (by decide) (by decide) isMark
          split at found
          · next sign digits =>
              split at found
              · next isSign =>
                  obtain ⟨count, group, found⟩ := Option.bind_eq_some_iff.mp found
                  cases found
                  exact .cons solid (.cons (endsLexeme_of_eq (by decide) (by decide) isSign)
                    (isSolid_groupLength (fun _ => isDigit_eq_false) group))
              split at found
              · obtain ⟨count, group, found⟩ := Option.bind_eq_some_iff.mp found
                cases found
                exact .cons solid (isSolid_groupLength (fun _ => isDigit_eq_false) group)
              · cases found
          · cases found
      · cases found
  · cases found

theorem isSolid_readFraction {digits : Text}
    (found : readFraction whole = some (some (digits, length))) : IsSolid whole length := by
  unfold readFraction at found
  split at found
  · split at found
    · obtain ⟨count, group, found⟩ := Option.bind_eq_some_iff.mp found
      cases found
      exact .cons (by decide) (isSolid_groupLength (fun _ => isDigit_eq_false) group)
    · cases found
      exact .cons (by decide) isSolid_zero
  · cases found

theorem isSolid_wholePart (found : wholePart whole = some length) : IsSolid whole length := by
  unfold wholePart at found
  split at found
  · exact isSolid_groupLength (fun _ => isDigit_eq_false) found
  · cases found
    exact isSolid_zero

theorem isSolid_readDecimal {value : NumberLiteral}
    (read : readDecimal whole = some (value, length)) : IsSolid whole length := by
  unfold readDecimal at read
  obtain ⟨wholeLength, isWhole, read⟩ := Option.bind_eq_some_iff.mp read
  obtain ⟨fraction, isFraction, read⟩ := Option.bind_eq_some_iff.mp read
  generalize fractionParts : fraction.getD ([], 0) = parts at read
  obtain ⟨fractionDigits, fractionLength⟩ := parts
  obtain ⟨exponent, isExponent, read⟩ := Option.bind_eq_some_iff.mp read
  generalize exponentParts : exponent.getD (0, 0) = parts at read
  obtain ⟨power, exponentLength⟩ := parts
  have fractionStays : IsSolid (whole.drop wholeLength) fractionLength := by
    cases fraction with
    | none => cases fractionParts; exact isSolid_zero
    | some found => cases fractionParts; exact isSolid_readFraction isFraction
  have exponentStays : IsSolid (whole.drop (wholeLength + fractionLength)) exponentLength := by
    cases exponent with
    | none => cases exponentParts; exact isSolid_zero
    | some found => cases exponentParts; exact isSolid_readExponent isExponent
  have stays : IsSolid whole (wholeLength + fractionLength + exponentLength) :=
    ((isSolid_wholePart isWhole).add fractionStays).add exponentStays
  dsimp only at read
  split at read
  · next isImaginary =>
      split at read
      · cases read
        rw [Bool.or_eq_true, decide_eq_true_eq, decide_eq_true_eq] at isImaginary
        refine stays.add ?_
        rcases isImaginary with isLetter | isLetter
        · exact isSolid_of_head isLetter (by decide)
        · exact isSolid_of_head isLetter (by decide)
      · cases read
  · repeat' split at read
    all_goals first
      | cases read; exact stays
      | cases read

theorem isSolid_readNumber {value : NumberLiteral}
    (read : readNumber whole = some (value, length)) : IsSolid whole length := by
  unfold readNumber at read
  split at read
  · next mark rest =>
      have start : endsLexeme mark = false → IsSolid (48 :: mark :: rest) 2 := fun solid =>
        .cons (by decide) (.cons solid isSolid_zero)
      split at read
      · next isMark =>
          exact isSolid_readBased (start (endsLexeme_of_eq (by decide) (by decide) isMark)) read
      split at read
      · next isMark =>
          exact isSolid_readBased (start (endsLexeme_of_eq (by decide) (by decide) isMark)) read
      split at read
      · next isMark =>
          exact isSolid_readBased (start (endsLexeme_of_eq (by decide) (by decide) isMark)) read
      · exact isSolid_readDecimal read
  · exact isSolid_readDecimal read

theorem isSolid_readWord (read : readWord whole = some (lexeme, length)) : IsSolid whole length := by
  unfold readWord at read
  have stays : IsSolid whole (whole.takeWhile couldContinueWord).length := by
    intro point member
    have isPrefix := List.takeWhile_prefix couldContinueWord (l := whole)
    rw [← List.prefix_iff_eq_take.mp isPrefix] at member
    exact endsLexeme_eq_false (fun _ => couldContinueWord_eq_false) (List.mem_takeWhile_imp member)
  dsimp only at read
  split at read
  · split at read
    · cases read; exact stays
    · cases read; exact stays
  · cases read

/-- A symbol holds no code point that ends lexemes, but the closing parenthesis is one. -/
theorem isSolid_symbol {symbol : Symbol} (found : Symbol.atStart? whole = some (symbol, length)) :
    IsSolid whole length ∨ whole.head? = some 41 ∧ length = 1 := by
  unfold Symbol.atStart? at found
  obtain ⟨entry, isEntry, same⟩ := Option.map_eq_some_iff.mp found
  cases same
  have known : entry ∈ Symbol.spellings := List.mem_of_find?_eq_some isEntry
  have spelled : text entry.1 <+: whole := by
    have found := List.find?_some isEntry
    exact List.isPrefixOf_iff_prefix.mp found
  have plain : ∀ entry ∈ Symbol.spellings, (text entry.1).length = entry.1.length ∧
      ((∀ point ∈ text entry.1, endsLexeme point = false) ∨ text entry.1 = [41]) := by decide
  obtain ⟨count, solid | isParen⟩ := plain entry known
  · left
    unfold IsSolid
    rwa [← count, ← List.prefix_iff_eq_take.mp spelled]
  · right
    obtain ⟨behind, rfl⟩ := spelled
    rw [← count, isParen]
    exact ⟨rfl, rfl⟩

/-- A lexeme that is no string is solid, unless it is a closing parenthesis. -/
theorem isSolid_readLexeme (noString : stringLetters? whole = none)
    (read : readLexeme whole = some (lexeme, length)) :
    IsSolid whole length ∨ whole.head? = some 41 ∧ length = 1 := by
  unfold readLexeme at read
  rw [noString] at read
  cases whole with
  | nil => cases read
  | cons first rest =>
      dsimp only at read
      split at read
      · obtain ⟨⟨value, count⟩, number, same⟩ := Option.map_eq_some_iff.mp read
        cases same
        exact .inl (isSolid_readNumber number)
      split at read
      · exact .inl (isSolid_readWord read)
      · obtain ⟨⟨symbol, count⟩, found, same⟩ := Option.map_eq_some_iff.mp read
        cases same
        exact isSolid_symbol found

/-- A lexeme that is no string stays in its line. -/
theorem lineFeed_notMem_readLexeme (noString : stringLetters? whole = none)
    (read : readLexeme whole = some (lexeme, length)) : lineFeed ∉ whole.take length := by
  rcases isSolid_readLexeme noString read with solid | ⟨isParen, rfl⟩
  · exact solid.lineFeed_notMem
  · obtain ⟨rest, rfl⟩ := List.head?_eq_some_iff.mp isParen
    exact fun member => nomatch List.mem_singleton.mp member

/-- A text ends with a line feed that no backslash stands before. -/
def EndsLine (lines : Text) : Prop :=
  ∃ front, lines = front ++ [lineFeed] ∧ front.getLast? ≠ some backslash

variable {lines behind : Text} {mark : CodePoint}

theorem EndsLine.ne_nil (ends : EndsLine lines) : lines ≠ [] := by
  obtain ⟨front, rfl, -⟩ := ends
  exact List.append_ne_nil_of_right_ne_nil _ (List.cons_ne_nil _ _)

theorem EndsLine.tail {first : CodePoint} (ends : EndsLine (first :: lines)) (held : lines ≠ []) :
    EndsLine lines := by
  obtain ⟨front, split, noBackslash⟩ := ends
  cases front with
  | nil => exact (held (List.cons.inj split).2).elim
  | cons other front =>
      refine ⟨front, (List.cons.inj split).2, fun isLast => noBackslash ?_⟩
      rw [List.getLast?_cons, isLast]
      rfl

/-- The last code point is a line feed. -/
theorem EndsLine.eq_of_singleton {point : CodePoint} (ends : EndsLine [point]) :
    point = lineFeed := by
  obtain ⟨front, split, -⟩ := ends
  cases front with
  | nil => exact (List.cons.inj split).1
  | cons other front => cases front <;> cases (List.cons.inj split).2

/-- A backslash stands before no line feed at the end. -/
theorem EndsLine.ne_nil_behind_backslash {next : CodePoint}
    (ends : EndsLine (backslash :: next :: lines)) : lines ≠ [] := by
  rintro rfl
  obtain ⟨front, split, noBackslash⟩ := ends
  rw [← List.singleton_append] at split
  rw [← (List.append_inj' split rfl).1] at noBackslash
  exact noBackslash rfl

theorem EndsLine.drop (ends : EndsLine lines) (lt : count < lines.length) :
    EndsLine (lines.drop count) := by
  induction count generalizing lines with
  | zero => exact ends
  | succ count ih =>
      cases lines with
      | nil => cases lt
      | cons first lines =>
          have lt := Nat.lt_of_succ_lt_succ lt
          exact ih (ends.tail (List.ne_nil_of_length_pos (Nat.zero_lt_of_lt lt))) lt

/-- What stays in its line ends before the line feed at the end. -/
theorem EndsLine.lt_of_notMem (ends : EndsLine lines)
    (stays : lineFeed ∉ (lines ++ behind).take length) : length < lines.length := by
  obtain ⟨front, rfl, -⟩ := ends
  by_contra reaches
  refine stays (List.mem_take_iff_getElem.mpr ⟨front.length, ?_, ?_⟩)
  · simp only [List.length_append, List.length_singleton] at reaches ⊢
    omega
  · rw [List.getElem_append_left (by simp), List.getElem_concat_length]
    rfl

theorem ne_lineFeed_of_isQuotationMark (quotes : isQuotationMark mark = true) :
    mark ≠ lineFeed := by
  rintro rfl
  cases quotes

/-- The body of a string ends, with its marks, before the line feed at the end, unless the string
is a long one that ends in the text behind. -/
theorem EndsLine.lt_of_bodyLength {isLong : Bool} (quotes : isQuotationMark mark = true)
    (noLong : isLong = true → bodyLength mark true behind = none) :
    ∀ {lines : Text} {count : Nat}, EndsLine lines →
      bodyLength mark isLong (lines ++ behind) = some count →
      count + (if isLong then 3 else 1) < lines.length
  | [], _, ends, _ => (ends.ne_nil rfl).elim
  | [point], count, ends, found => by
      -- Only a long string goes on behind the last line feed.
      obtain rfl := ends.eq_of_singleton
      have notMark : lineFeed ≠ mark := (ne_lineFeed_of_isQuotationMark quotes).symm
      cases behind with
      | nil => simp [bodyLength, notMark] at found
      | cons next rest =>
          have notBackslash : lineFeed ≠ backslash := by decide
          cases isLong with
          | false => simp [bodyLength, notMark, notBackslash] at found
          | true =>
              have none := noLong rfl
              simp [bodyLength, notMark, notBackslash, none] at found
  | point :: next :: lines, count, ends, found => by
      have endsNext : EndsLine (next :: lines) := ends.tail (List.cons_ne_nil _ _)
      rw [List.cons_append, List.cons_append, bodyLength] at found
      split at found
      · next isBackslash =>
          obtain ⟨inner, deeper, rfl⟩ := Option.map_eq_some_iff.mp found
          subst isBackslash
          have shorter := lt_of_bodyLength quotes noLong
            (endsNext.tail ends.ne_nil_behind_backslash) deeper
          simp only [List.length_cons]
          omega
      split at found
      · next closes =>
          cases found
          have notMark := ne_lineFeed_of_isQuotationMark quotes
          cases isLong with
          | false =>
              simp only [Bool.false_eq_true, ↓reduceIte, List.length_cons]
              omega
          | true =>
              -- None of the three marks is the line feed at the end.
              simp only [Bool.not_true, Bool.false_or, Bool.and_eq_true, decide_eq_true_eq] at closes
              obtain ⟨-, isSecond, isThird⟩ := closes
              cases lines with
              | nil => exact (notMark (isSecond ▸ endsNext.eq_of_singleton)).elim
              | cons third more =>
                  obtain rfl := Option.some.inj isThird
                  cases more with
                  | nil =>
                      exact (notMark (endsNext.tail (List.cons_ne_nil _ _)).eq_of_singleton).elim
                  | cons fourth more =>
                      simp only [↓reduceIte, List.length_cons]
                      omega
      split at found
      · cases found
      · obtain ⟨inner, deeper, rfl⟩ := Option.map_eq_some_iff.mp found
        have shorter := lt_of_bodyLength quotes noLong endsNext deeper
        simp only [List.length_cons] at shorter ⊢
        omega

/-- A string ends, with its marks, before the line feed at the end. -/
theorem EndsLine.lt_of_readString {letters : Nat} (ends : EndsLine lines)
    (noLong : ∀ mark, isQuotationMark mark = true → bodyLength mark true behind = none)
    (quotes : ((lines ++ behind).drop letters).head?.any isQuotationMark = true)
    (read : readString letters (lines ++ behind) = some (lexeme, length)) :
    length < lines.length := by
  unfold readString at read
  obtain ⟨kind, announces, read⟩ := Option.bind_eq_some_iff.mp read
  obtain ⟨mark, isHead, isMark⟩ := (Option.any_eq_true _ _).mp quotes
  -- The letters are no line feeds, and neither is the mark behind them.
  have stays : IsSolid (lines ++ behind) (letters + 1) := by
    refine IsSolid.add (fun point member => ?_)
      (isSolid_of_head isHead (endsLexeme_eq_false (fun _ => isQuotationMark_eq_false) isMark))
    exact endsLexeme_eq_false (fun _ => couldContinueWord_eq_false)
      (couldContinueWord_of_stringPrefix? (Option.isSome_of_mem announces) member)
  have inside := ends.lt_of_notMem stays.lineFeed_notMem
  obtain ⟨after, split⟩ := List.head?_eq_some_iff.mp isHead
  have rest : after = lines.drop (letters + 1) ++ behind := by
    have dropped := congrArg (List.drop 1) split
    rw [List.drop_drop, List.drop_append_of_le_length (Nat.le_of_lt inside)] at dropped
    exact dropped.symm
  have endsAfter := ends.drop inside
  rw [split] at read
  dsimp only at read
  have total : (lines.drop (letters + 1)).length + (letters + 1) = lines.length := by
    rw [List.length_drop]
    omega
  rw [rest] at read
  generalize lines.drop (letters + 1) = within at read endsAfter total
  split at read
  · next long =>
      obtain ⟨count, found, read⟩ := Option.bind_eq_some_iff.mp read
      cases read
      have notMark := ne_lineFeed_of_isQuotationMark isMark
      obtain ⟨more, marks⟩ := List.isPrefixOf_iff_prefix.mp long
      match within, endsAfter with
      | [], endsAfter => exact (endsAfter.ne_nil rfl).elim
      | [first], endsAfter =>
          exact (notMark ((List.cons.inj marks).1 ▸ endsAfter.eq_of_singleton)).elim
      | [first, second], endsAfter =>
          have isSecond := (List.cons.inj (List.cons.inj marks).2).1
          exact (notMark (isSecond ▸
            (endsAfter.tail (List.cons_ne_nil _ _)).eq_of_singleton)).elim
      | first :: second :: third :: rest, endsAfter =>
          have endsRest : EndsLine (third :: rest) :=
            (endsAfter.tail (List.cons_ne_nil _ _)).tail (List.cons_ne_nil _ _)
          have shorter := endsRest.lt_of_bodyLength isMark (fun _ => noLong mark isMark) found
          simp only [↓reduceIte, List.length_cons] at shorter total
          omega
  · obtain ⟨count, found, read⟩ := Option.bind_eq_some_iff.mp read
    cases read
    have short : false = true → bodyLength mark true behind = none := fun isLong => nomatch isLong
    have shorter := endsAfter.lt_of_bodyLength isMark short found
    simp only [Bool.false_eq_true, ↓reduceIte] at shorter
    omega

/-- **A lexeme ends before the line feed at the end of some lines**, unless the text behind them
holds three marks that close a string. -/
theorem EndsLine.lt_of_readLexeme (ends : EndsLine lines)
    (noLong : ∀ mark, isQuotationMark mark = true → bodyLength mark true behind = none)
    (read : readLexeme (lines ++ behind) = some (lexeme, length)) : length < lines.length := by
  cases announced : stringLetters? (lines ++ behind) with
  | none => exact ends.lt_of_notMem (lineFeed_notMem_readLexeme announced read)
  | some letters =>
      have found := List.find?_some announced
      rw [Bool.and_eq_true] at found
      unfold readLexeme at read
      rw [announced] at read
      exact ends.lt_of_readString noLong found.1 read

end Stencil.Script
