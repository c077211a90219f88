import Mathlib.Data.List.Find
import Stencil.Proofs.Script.LexemeExtent

/-! # Lexemes of a line

A lexeme that is no string is decided by what stands in front of the next blank, line feed or closing
parenthesis (`Stencil.Script.SameRun.readLexeme`), and a string ends with its marks. So a lexeme is
the same whatever stands behind such a code point (`Stencil.Script.readLexeme_congr`), and the lexemes
of whole lines are the same whatever stands behind the lines (`Stencil.Script.readLexeme_append`).
-/

namespace Stencil.Script

open CodePoint

/-- Two texts are the same up to code points that end lexemes. -/
inductive SameRun : Text → Text → Prop
  | ends {left right : Text} {stop stopRight : CodePoint} (endsLeft : endsLexeme stop = true)
      (endsRight : endsLexeme stopRight = true) : SameRun (stop :: left) (stopRight :: right)
  | cons {left right : Text} (first : CodePoint) (same : SameRun left right) :
      SameRun (first :: left) (first :: right)

variable {left right whole tail rest : Text} {length count : Nat} {isDigit : CodePoint → Bool}
  {lexeme : Lexeme} {point stop stopRight : CodePoint}

theorem sameRun_append (run : Text) (endsLeft : endsLexeme stop = true)
    (endsRight : endsLexeme stopRight = true) :
    SameRun (run ++ stop :: left) (run ++ stopRight :: right) := by
  induction run with
  | nil => exact .ends endsLeft endsRight
  | cons first run ih => exact .cons first ih

/-- What stands behind a line feed does not change what stands in front of it. -/
theorem sameRun_append_of_mem (ends : lineFeed ∈ whole) : SameRun whole (whole ++ tail) := by
  obtain ⟨front, behind, rfl⟩ := List.append_of_mem ends
  rw [List.append_assoc]
  exact sameRun_append front rfl rfl

namespace SameRun

theorem symm (same : SameRun left right) : SameRun right left := by
  induction same with
  | ends endsLeft endsRight => exact .ends endsRight endsLeft
  | cons first _ ih => exact .cons first ih

/-- The first code points are alike for a test that holds of none that ends a lexeme. -/
theorem head?_any {holds : CodePoint → Bool}
    (stops : ∀ point, endsLexeme point = true → holds point = false) (same : SameRun left right) :
    left.head?.any holds = right.head?.any holds := by
  cases same with
  | ends endsLeft endsRight =>
      rw [List.head?_cons, List.head?_cons, Option.any_some, Option.any_some, stops _ endsLeft,
        stops _ endsRight]
  | cons => rfl

theorem head?_eq_iff (solid : endsLexeme point = false) (same : SameRun left right) :
    left.head? = some point ↔ right.head? = some point := by
  cases same with
  | ends endsLeft endsRight =>
      refine ⟨fun isHead => ?_, fun isHead => ?_⟩
      · rw [← Option.some.inj isHead, endsLeft] at solid
        cases solid
      · rw [← Option.some.inj isHead, endsRight] at solid
        cases solid
  | cons => exact Iff.rfl

theorem isPrefixOf {word : Text} (plain : ∀ point ∈ word, endsLexeme point = false)
    (same : SameRun left right) : word.isPrefixOf left = word.isPrefixOf right := by
  induction word generalizing left right with
  | nil => rfl
  | cons point word ih =>
      obtain ⟨solid, plain⟩ := List.forall_mem_cons.mp plain
      cases same with
      | ends endsLeft endsRight =>
          have differs {stop : CodePoint} (ends : endsLexeme stop = true) : (point == stop) = false := by
            rw [beq_eq_false_iff_ne]
            rintro rfl
            rw [ends] at solid
            cases solid
          rw [List.isPrefixOf, List.isPrefixOf, differs endsLeft, differs endsRight]
          rfl
      | cons first same => rw [List.isPrefixOf, List.isPrefixOf, ih plain same]

theorem takeWhile {holds : CodePoint → Bool}
    (stops : ∀ point, endsLexeme point = true → holds point = false) (same : SameRun left right) :
    left.takeWhile holds = right.takeWhile holds := by
  induction same with
  | ends endsLeft endsRight =>
      rw [List.takeWhile_cons, List.takeWhile_cons, stops _ endsLeft, stops _ endsRight]
      rfl
  | cons _ _ ih => rw [List.takeWhile_cons, List.takeWhile_cons, ih]

/-- The first code points are the same. -/
theorem take (same : SameRun left right) (solid : IsSolid left count) :
    left.take count = right.take count ∧ SameRun (left.drop count) (right.drop count) := by
  induction same generalizing count with
  | ends endsLeft endsRight =>
      cases count with
      | zero => exact ⟨rfl, .ends endsLeft endsRight⟩
      | succ count =>
          have isSolid := solid _ List.mem_cons_self
          rw [endsLeft] at isSolid
          cases isSolid
  | cons first same ih =>
      cases count with
      | zero => exact ⟨rfl, .cons first same⟩
      | succ count =>
          obtain ⟨front, behind⟩ := ih fun point member => solid point (List.mem_cons_of_mem _ member)
          exact ⟨by rw [List.take_succ_cons, List.take_succ_cons, front], behind⟩

theorem groupTail (noDigit : ∀ point, endsLexeme point = true → isDigit point = false)
    (same : SameRun left right) : Script.groupTail isDigit left = Script.groupTail isDigit right := by
  have ends : ∀ {stop : CodePoint} rest, endsLexeme stop = true →
      Script.groupTail isDigit (stop :: rest) = some 0 := by
    intro stop rest isStop
    have noScore : stop ≠ 95 := by
      rintro rfl
      cases isStop
    cases rest <;> simp [Script.groupTail, noDigit stop isStop, noScore]
  -- An underscore takes the digit behind it, so the code point in front is part of the claim.
  have both : Script.groupTail isDigit left = Script.groupTail isDigit right ∧
      ∀ point, Script.groupTail isDigit (point :: left) = Script.groupTail isDigit (point :: right) := by
    induction same with
    | ends endsLeft endsRight =>
        exact ⟨by rw [ends _ endsLeft, ends _ endsRight], fun point => by
          simp only [Script.groupTail, noDigit _ endsLeft, noDigit _ endsRight, ends _ endsLeft,
            ends _ endsRight, Bool.false_eq_true, ↓reduceIte]⟩
    | cons first _ ih =>
        exact ⟨ih.2 first, fun point => by simp only [Script.groupTail, ih.1, ih.2 first]⟩
  exact both.1

theorem groupLength (noDigit : ∀ point, endsLexeme point = true → isDigit point = false)
    (same : SameRun left right) :
    Script.groupLength isDigit left = Script.groupLength isDigit right := by
  cases same with
  | ends endsLeft endsRight =>
      simp only [Script.groupLength, noDigit _ endsLeft, noDigit _ endsRight]
      rfl
  | cons _ same => simp only [Script.groupLength, same.groupTail noDigit]

theorem mayFollowNumber (same : SameRun left right) :
    Script.mayFollowNumber left = Script.mayFollowNumber right := by
  have plain : ∀ word ∈ wordsAfterNumber, ∀ point ∈ word, endsLexeme point = false := by decide
  have words : (wordsAfterNumber.any fun word => word.isPrefixOf left) =
      wordsAfterNumber.any fun word => word.isPrefixOf right := by
    rw [Bool.eq_iff_iff, List.any_eq_true, List.any_eq_true]
    refine exists_congr fun word => and_congr_right fun member => ?_
    rw [same.isPrefixOf (plain word member)]
  cases same with
  | ends endsLeft endsRight =>
      simp only [Script.mayFollowNumber, couldContinueWord_eq_false endsLeft,
        couldContinueWord_eq_false endsRight, Bool.not_false, Bool.true_or]
  | cons => simp only [Script.mayFollowNumber, words]

/-- What is made of the digits of a group does not depend on what stands behind. -/
theorem groupLength_bind {α : Type} {next nextRight : Nat → Option α}
    (noDigit : ∀ point, endsLexeme point = true → isDigit point = false) (same : SameRun left right)
    (follow : ∀ length, left.take length = right.take length →
      SameRun (left.drop length) (right.drop length) → IsSolid left length →
      next length = nextRight length) :
    (Script.groupLength isDigit left >>= next) = (Script.groupLength isDigit right >>= nextRight) := by
  rw [same.groupLength noDigit]
  cases found : Script.groupLength isDigit right with
  | none => rfl
  | some length =>
      have solid := isSolid_groupLength noDigit ((same.groupLength noDigit).trans found)
      obtain ⟨taken, after⟩ := same.take solid
      exact follow length taken after solid

theorem readBased (base : Nat) (start : IsSolid left 2) (same : SameRun left right) :
    Script.readBased base left = Script.readBased base right := by
  obtain ⟨-, digits⟩ := same.take start
  unfold Script.readBased
  dsimp only
  generalize left.drop 2 = digitsLeft at digits
  generalize right.drop 2 = digitsRight at digits
  simp only [digits.head?_eq_iff (show endsLexeme 95 = false by decide)]
  generalize skipping : (if digitsRight.head? = some 95 then 1 else 0) = skipped
  have skips : IsSolid digitsLeft skipped := by
    split at skipping
    · next isScore =>
        subst skipping
        exact isSolid_of_head ((digits.head?_eq_iff (by decide)).mpr isScore) (by decide)
    · subst skipping
      exact isSolid_zero
  refine (digits.take skips).2.groupLength_bind (baseDigit_eq_false base)
    fun length taken after _ => ?_
  rw [List.drop_drop, List.drop_drop] at after
  rw [after.head?_any fun _ => isDigit_eq_false, after.mayFollowNumber, taken]

theorem readExponent (same : SameRun left right) :
    Script.readExponent left = Script.readExponent right := by
  have none {stop : CodePoint} (rest : Text) (ends : endsLexeme stop = true) :
      Script.readExponent (stop :: rest) = some none := by
    rcases endsLexeme_cases ends with rfl | rfl | rfl | rfl | rfl <;> rfl
  have noneBehind {stop : CodePoint} (mark : CodePoint) (rest : Text)
      (ends : endsLexeme stop = true) :
      Script.readExponent (mark :: stop :: rest) = some Option.none := by
    rcases endsLexeme_cases ends with rfl | rfl | rfl | rfl | rfl <;> exact ite_self _
  cases same with
  | ends endsLeft endsRight => rw [none _ endsLeft, none _ endsRight]
  | cons mark same =>
      cases same with
      | ends endsLeft endsRight => rw [noneBehind _ _ endsLeft, noneBehind _ _ endsRight]
      | cons sign same =>
          unfold Script.readExponent
          dsimp only
          refine if_congr Iff.rfl (if_congr Iff.rfl ?_ (if_congr Iff.rfl ?_ rfl)) rfl
          · exact same.groupLength_bind (fun _ => isDigit_eq_false)
              fun length taken _ _ => by rw [taken]
          · exact (same.cons sign).groupLength_bind (fun _ => isDigit_eq_false)
              fun length taken _ _ => by rw [taken]

theorem readFraction (same : SameRun left right) :
    Script.readFraction left = Script.readFraction right := by
  have none {first : CodePoint} (rest : Text) (noDot : first ≠ 46) :
      Script.readFraction (first :: rest) = some Option.none := by
    unfold Script.readFraction
    split
    · next isMark => exact (noDot (List.cons.inj isMark).1).elim
    · rfl
  cases same with
  | ends endsLeft endsRight =>
      have noDot {stop : CodePoint} (ends : endsLexeme stop = true) : stop ≠ 46 := by
        rintro rfl
        cases ends
      rw [none _ (noDot endsLeft), none _ (noDot endsRight)]
  | cons mark same =>
      by_cases isDot : mark = 46
      · subst isDot
        simp only [Script.readFraction, same.head?_any fun _ => isDigit_eq_false]
        refine if_congr Iff.rfl ?_ rfl
        exact same.groupLength_bind (fun _ => isDigit_eq_false)
          fun length taken _ _ => by rw [taken]
      · rw [none _ isDot, none _ isDot]

theorem wholePart (same : SameRun left right) : Script.wholePart left = Script.wholePart right := by
  unfold Script.wholePart
  rw [same.head?_any fun _ => isDigit_eq_false, same.groupLength fun _ => isDigit_eq_false]

theorem readDecimal (same : SameRun left right) :
    Script.readDecimal left = Script.readDecimal right := by
  unfold Script.readDecimal
  rw [same.wholePart]
  cases isWhole : Script.wholePart right with
  | none => rfl
  | some wholeLength =>
  have staysWhole := isSolid_wholePart (same.wholePart.trans isWhole)
  obtain ⟨wholeDigits, behind⟩ := same.take staysWhole
  simp only [Option.bind_eq_bind, Option.bind_some, wholeDigits, behind.readFraction]
  cases isFraction : Script.readFraction (right.drop wholeLength) with
  | none => rfl
  | some fraction =>
  simp only [Option.bind_some]
  generalize fractionParts : fraction.getD ([], 0) = parts
  obtain ⟨fractionDigits, fractionLength⟩ := parts
  have staysFraction : IsSolid (left.drop wholeLength) fractionLength := by
    cases fraction with
    | none => cases fractionParts; exact isSolid_zero
    | some found =>
        cases fractionParts
        exact isSolid_readFraction (behind.readFraction.trans isFraction)
  have staysDigits := staysWhole.add staysFraction
  have rest := (same.take staysDigits).2
  simp only [rest.readExponent]
  cases isExponent : Script.readExponent (right.drop (wholeLength + fractionLength)) with
  | none => rfl
  | some exponent =>
  simp only [Option.bind_some]
  generalize exponentParts : exponent.getD (0, 0) = parts
  obtain ⟨power, exponentLength⟩ := parts
  have staysExponent : IsSolid (left.drop (wholeLength + fractionLength)) exponentLength := by
    cases exponent with
    | none => cases exponentParts; exact isSolid_zero
    | some found =>
        cases exponentParts
        exact isSolid_readExponent (rest.readExponent.trans isExponent)
  have after := (same.take (staysDigits.add staysExponent)).2
  dsimp only
  simp only [after.head?_eq_iff (show endsLexeme 106 = false by decide),
    after.head?_eq_iff (show endsLexeme 74 = false by decide), after.mayFollowNumber]
  refine ite_congr rfl (fun isLetter => ?_) fun _ => rfl
  have letter : IsSolid (left.drop (wholeLength + fractionLength + exponentLength)) 1 := by
    rw [Bool.or_eq_true, decide_eq_true_eq, decide_eq_true_eq] at isLetter
    rcases isLetter with isLetter | isLetter
    · exact isSolid_of_head ((after.head?_eq_iff (by decide)).mpr isLetter) (by decide)
    · exact isSolid_of_head ((after.head?_eq_iff (by decide)).mpr isLetter) (by decide)
  rw [(after.take letter).2.mayFollowNumber]

theorem readNumber (same : SameRun left right) :
    Script.readNumber left = Script.readNumber right := by
  have decimal := same.readDecimal
  have noMark : ∀ {first rest}, first ≠ 48 →
      Script.readNumber (first :: rest) = Script.readDecimal (first :: rest) := by
    intro first rest differs
    unfold Script.readNumber
    split
    · next isZero => exact (differs (List.cons.inj isZero).1).elim
    · rfl
  cases same with
  | ends endsLeft endsRight =>
      have noZero {stop : CodePoint} (ends : endsLexeme stop = true) : stop ≠ 48 := by
        rintro rfl
        cases ends
      rw [noMark (noZero endsLeft), noMark (noZero endsRight), decimal]
  | cons first inner =>
      by_cases isZero : first = 48
      · subst isZero
        cases inner with
        | ends endsLeft endsRight =>
            have noLetter {stop : CodePoint} (rest : Text) (ends : endsLexeme stop = true) :
                Script.readNumber (48 :: stop :: rest) = Script.readDecimal (48 :: stop :: rest) := by
              rcases endsLexeme_cases ends with rfl | rfl | rfl | rfl | rfl <;> rfl
            rw [noLetter _ endsLeft, noLetter _ endsRight, decimal]
        | cons mark behind =>
            have based {base : Nat} (solid : endsLexeme mark = false) :=
              readBased base (.cons (by decide) (.cons solid isSolid_zero))
                ((behind.cons mark).cons 48)
            simp only [Script.readNumber, decimal]
            refine ite_congr rfl (fun isLetter => ?_) fun _ => ite_congr rfl (fun isLetter => ?_)
              fun _ => ite_congr rfl (fun isLetter => ?_) fun _ => rfl
            · exact based (endsLexeme_of_eq (by decide) (by decide) isLetter)
            · exact based (endsLexeme_of_eq (by decide) (by decide) isLetter)
            · exact based (endsLexeme_of_eq (by decide) (by decide) isLetter)
      · rw [noMark isZero, noMark isZero, decimal]

theorem readWord (same : SameRun left right) : Script.readWord left = Script.readWord right := by
  unfold Script.readWord
  rw [same.takeWhile fun _ => couldContinueWord_eq_false]

/-- The first code point of a symbol may end lexemes, the others do not. -/
theorem symbol (same : SameRun left right) (first : CodePoint) :
    Symbol.atStart? (first :: left) = Symbol.atStart? (first :: right) := by
  have plain : ∀ entry ∈ Symbol.spellings,
      ∀ point ∈ (text entry.1).tail, endsLexeme point = false := by decide
  unfold Symbol.atStart?
  have spelled : (Symbol.spellings.find? fun entry => (text entry.1).isPrefixOf (first :: left)) =
      Symbol.spellings.find? fun entry => (text entry.1).isPrefixOf (first :: right) := by
    refine List.find?_congr fun entry member => ?_
    have solid := plain entry member
    cases spelling : text entry.1 with
    | nil => rfl
    | cons point others =>
        rw [spelling, List.tail_cons] at solid
        rw [List.isPrefixOf, List.isPrefixOf, same.isPrefixOf solid]
  rw [spelled]

/-- The letters before a quotation mark stand in its line. -/
theorem stringLetters? (same : SameRun left right) :
    Script.stringLetters? left = Script.stringLetters? right := by
  have announced : ∀ {left right : Text}, SameRun left right → ∀ letters,
      (((left.drop letters).head?.any isQuotationMark) &&
        (stringPrefix? (left.take letters)).isSome) = true →
      (((right.drop letters).head?.any isQuotationMark) &&
        (stringPrefix? (right.take letters)).isSome) = true := by
    intro left right same letters announces
    rw [Bool.and_eq_true] at announces ⊢
    have solid : IsSolid left letters := fun point member =>
      endsLexeme_eq_false (fun _ => couldContinueWord_eq_false)
        (couldContinueWord_of_stringPrefix? announces.2 member)
    obtain ⟨taken, behind⟩ := same.take solid
    rwa [← behind.head?_any fun _ => isQuotationMark_eq_false, ← taken]
  unfold Script.stringLetters?
  refine List.find?_congr fun letters _ => ?_
  rw [Bool.eq_iff_iff]
  exact ⟨announced same letters, announced same.symm letters⟩

/-- A lexeme that is no string is decided by what stands in front of the next code point that ends
one. -/
theorem readLexeme (same : SameRun left right) (first : CodePoint)
    (noString : Script.stringLetters? (first :: left) = none) :
    Script.readLexeme (first :: left) = Script.readLexeme (first :: right) := by
  have whole := same.cons first
  unfold Script.readLexeme
  rw [← whole.stringLetters?, noString, whole.readNumber, whole.readWord, same.symbol]
  simp only [same.head?_any fun _ => isDigit_eq_false]

end SameRun

/-- The marks in front of the body of a string and behind it. -/
def stringMarks (mark : CodePoint) (isLong : Bool) : Text :=
  List.replicate (if isLong then 3 else 1) mark

variable {mark : CodePoint} {isLong : Bool}

/-- A body that the marks follow at once is empty. -/
theorem bodyLength_stringMarks (quotes : isQuotationMark mark = true) :
    bodyLength mark isLong (stringMarks mark isLong ++ rest) = some 0 := by
  have noBackslash : mark ≠ backslash := by
    rintro rfl
    cases quotes
  cases isLong with
  | false => cases rest <;> simp [stringMarks, bodyLength, noBackslash]
  | true => simp [stringMarks, List.replicate, bodyLength, noBackslash]

/-- The body of a string ends where its marks stand, whatever stands behind them. -/
theorem exists_body_of_bodyLength (quotes : isQuotationMark mark = true)
    (found : bodyLength mark isLong whole = some length) :
    ∃ body behind, whole = body ++ (stringMarks mark isLong ++ behind) ∧ body.length = length ∧
      ∀ rest, bodyLength mark isLong (body ++ (stringMarks mark isLong ++ rest)) = some length := by
  fun_induction bodyLength mark isLong whole generalizing length with
  | case1 => cases found
  | case2 point closes =>
      cases found
      rw [Bool.and_eq_true, decide_eq_true_eq, Bool.not_eq_true'] at closes
      obtain ⟨rfl, rfl⟩ := closes
      exact ⟨[], [], rfl, rfl, fun rest => bodyLength_stringMarks quotes⟩
  | case3 => cases found
  | case4 next rest ih =>
      obtain ⟨inner, deeper, rfl⟩ := Option.map_eq_some_iff.mp found
      obtain ⟨body, behind, rfl, rfl, goesOn⟩ := ih deeper
      refine ⟨backslash :: next :: body, behind, rfl, rfl, fun rest => ?_⟩
      rw [List.cons_append, List.cons_append, bodyLength, if_pos rfl, goesOn]
      rfl
  | case5 point next rest escapes closes =>
      cases found
      simp only [Bool.and_eq_true, decide_eq_true_eq, Bool.or_eq_true, Bool.not_eq_true'] at closes
      obtain ⟨rfl, isShort | ⟨rfl, isThird⟩⟩ := closes
      · subst isShort
        exact ⟨[], next :: rest, rfl, rfl, fun rest => bodyLength_stringMarks quotes⟩
      · obtain ⟨others, rfl⟩ := List.head?_eq_some_iff.mp isThird
        cases isLong with
        | false =>
            exact ⟨[], next :: next :: others, rfl, rfl, fun rest => bodyLength_stringMarks quotes⟩
        | true => exact ⟨[], others, rfl, rfl, fun rest => bodyLength_stringMarks quotes⟩
  | case6 => cases found
  | case7 point next rest escapes noClose noFeed ih =>
      obtain ⟨inner, deeper, rfl⟩ := Option.map_eq_some_iff.mp found
      obtain ⟨body, behind, split, rfl, goesOn⟩ := ih deeper
      refine ⟨point :: body, behind, congrArg (point :: ·) split, rfl, fun other => ?_⟩
      -- Only a long string looks beyond the first mark, and it has three of them.
      obtain ⟨first, others, longer⟩ : ∃ first others,
          body ++ (stringMarks mark isLong ++ other) = first :: others :=
        List.exists_cons_of_ne_nil (List.append_ne_nil_of_right_ne_nil _
          (List.append_ne_nil_of_left_ne_nil (by cases isLong <;> exact List.cons_ne_nil _ _) _))
      have stillOpen : ¬(decide (point = mark) && (!isLong ||
          (decide (first = mark) && decide (others.head? = some mark)))) = true := by
        cases isLong with
        | false => exact noClose
        | true =>
            rcases body with _ | ⟨_, _ | ⟨_, _⟩⟩
            all_goals
              cases split
              cases longer
              exact noClose
      rw [List.cons_append, longer, bodyLength, if_neg escapes, if_neg stillOpen, if_neg noFeed,
        ← longer, goesOn]
      rfl

/-- A string as it is written: letters, and a body between marks. What stands behind the string
makes no long string of a short one. -/
structure IsString (letters : Text) (kind : StringLiteral) (mark : CodePoint) (isLong : Bool)
    (body rest : Text) : Prop where
  announces : stringPrefix? letters = some kind
  quotes : isQuotationMark mark = true
  closes : ∀ behind, bodyLength mark isLong (body ++ (stringMarks mark isLong ++ behind)) =
    some body.length
  short : isLong = false →
    [mark, mark].isPrefixOf (body ++ (stringMarks mark isLong ++ rest)) = false

/-- The text of a string. -/
def stringText (letters : Text) (mark : CodePoint) (isLong : Bool) (body : Text) : Text :=
  letters ++ (stringMarks mark isLong ++ (body ++ stringMarks mark isLong))

variable {letters body : Text} {kind : StringLiteral}

/-- A string ends with its mark. -/
theorem getLast?_stringText : (stringText letters mark isLong body).getLast? = some mark := by
  unfold stringText
  rw [List.getLast?_append, List.getLast?_append, List.getLast?_append]
  cases isLong <;> rfl

/-- A string is read as it is written. -/
theorem IsString.readString_eq (isString : IsString letters kind mark isLong body rest) :
    readString letters.length (stringText letters mark isLong body ++ rest) =
      some (.string { kind with body := body }, (stringText letters mark isLong body).length) := by
  have whole : stringText letters mark isLong body ++ rest =
      letters ++ (stringMarks mark isLong ++ (body ++ (stringMarks mark isLong ++ rest))) := by
    simp only [stringText, List.append_assoc]
  have closes := isString.closes rest
  rw [whole]
  unfold readString stringText
  rw [List.take_left, List.drop_left, isString.announces]
  cases isLong with
  | true =>
      have two : ∀ inside, stringMarks mark true ++ inside = mark :: mark :: mark :: inside :=
        fun _ => rfl
      rw [two (body ++ _), Option.bind_eq_bind, Option.bind_some]
      dsimp only
      rw [if_pos (by simp [List.isPrefixOf]), List.drop_succ_cons, List.drop_succ_cons,
        List.drop_zero, closes, Option.bind_eq_bind, Option.bind_some, List.take_left]
      simp only [List.length_append, stringMarks, List.length_replicate, ↓reduceIte]
      rw [show letters.length + body.length + 6 = letters.length + (3 + (body.length + 3)) by omega]
      rfl
  | false =>
      have one : ∀ inside, stringMarks mark false ++ inside = mark :: inside := fun _ => rfl
      rw [one (body ++ _), Option.bind_eq_bind, Option.bind_some]
      dsimp only
      rw [isString.short rfl, if_neg Bool.false_ne_true, closes, Option.bind_eq_bind,
        Option.bind_some, List.take_left]
      simp only [List.length_append, stringMarks, List.length_replicate, Bool.false_eq_true,
        ↓reduceIte]
      rw [show letters.length + body.length + 2 = letters.length + (1 + (body.length + 1)) by omega]
      rfl

/-- What is read as a string is the text of one. -/
theorem exists_isString {count : Nat} (quotes : (whole.drop count).head?.any isQuotationMark = true)
    (read : readString count whole = some (lexeme, length)) :
    ∃ letters kind mark isLong body rest, IsString letters kind mark isLong body rest ∧
      letters.length = count ∧ whole = stringText letters mark isLong body ++ rest := by
  obtain ⟨mark, isHead, isMark⟩ := (Option.any_eq_true _ _).mp quotes
  obtain ⟨after, split⟩ := List.head?_eq_some_iff.mp isHead
  unfold readString at read
  obtain ⟨kind, announces, goesOn⟩ := Option.bind_eq_some_iff.mp read
  have within : count ≤ whole.length := by
    by_contra beyond
    rw [List.drop_eq_nil_of_le (by omega)] at split
    cases split
  have whole_eq : whole = whole.take count ++ mark :: after := by
    rw [← split, List.take_append_drop]
  have isCount : (whole.take count).length = count := List.length_take_of_le within
  rw [split] at goesOn
  dsimp only at goesOn
  generalize whole.take count = letters at announces whole_eq isCount
  split at goesOn
  · next long =>
      obtain ⟨inner, found, -⟩ := Option.bind_eq_some_iff.mp goesOn
      obtain ⟨inside, rfl⟩ := List.isPrefixOf_iff_prefix.mp long
      obtain ⟨body, rest, splitBody, rfl, closes⟩ := exists_body_of_bodyLength isMark found
      change inside = _ at splitBody
      refine ⟨letters, kind, mark, true, body, rest, ⟨announces, isMark, closes, nofun⟩, isCount, ?_⟩
      rw [whole_eq, splitBody, stringText, List.append_assoc, List.append_assoc, List.append_assoc]
      rfl
  · next short =>
      obtain ⟨inner, found, -⟩ := Option.bind_eq_some_iff.mp goesOn
      obtain ⟨body, rest, rfl, rfl, closes⟩ := exists_body_of_bodyLength isMark found
      refine ⟨letters, kind, mark, false, body, rest,
        ⟨announces, isMark, closes, fun _ => Bool.eq_false_iff.mpr short⟩, isCount, ?_⟩
      rw [whole_eq, stringText, List.append_assoc, List.append_assoc, List.append_assoc]
      rfl

/-- In texts that are the same up to where a string ends, and then up to a code point that ends
lexemes, it is the same string. -/
theorem IsString.congr {behind : Text} (isString : IsString letters kind mark isLong body rest)
    (same : SameRun (stringText letters mark isLong body ++ rest)
      (stringText letters mark isLong body ++ behind)) :
    IsString letters kind mark isLong body behind := by
  refine ⟨isString.announces, isString.quotes, isString.closes, ?_⟩
  rintro rfl
  have solid := endsLexeme_eq_false (fun _ => isQuotationMark_eq_false) isString.quotes
  have plain : ∀ point ∈ [mark, mark], endsLexeme point = false := by
    simp only [List.mem_cons, List.not_mem_nil, or_false, or_self, forall_eq, solid]
  have whole : ∀ rest, stringText letters mark false body ++ rest =
      letters ++ [mark] ++ (body ++ (stringMarks mark false ++ rest)) := by
    intro rest
    simp only [stringText, List.append_assoc]
    rfl
  rw [whole, whole] at same
  have front : IsSolid (letters ++ [mark] ++ (body ++ (stringMarks mark false ++ rest)))
      (letters ++ [mark]).length := by
    intro point member
    rw [List.take_left] at member
    rcases List.mem_append.mp member with inLetters | isMark
    · exact endsLexeme_eq_false (fun _ => couldContinueWord_eq_false)
        (couldContinueWord_of_stringPrefix? (Option.isSome_of_mem isString.announces) inLetters)
    · rw [List.mem_singleton.mp isMark]
      exact solid
  have after := (same.take front).2
  rw [List.drop_left, List.drop_left] at after
  rw [← after.isPrefixOf plain]
  exact isString.short rfl

/-- A parenthesis is a lexeme of its own, whatever stands behind it. -/
theorem readLexeme_paren {symbol : Symbol}
    (isParen : point = 40 ∧ symbol = .leftParen ∨ point = 41 ∧ symbol = .rightParen) :
    readLexeme (point :: rest) = some (.symbol symbol, 1) := by
  have noString : stringLetters? (point :: rest) = none :=
    @stringLetters?_eq_none (point :: rest) [] (fun _ member => nomatch member) fun other isHead => by
      rw [← Option.some.inj isHead]
      rcases isParen with ⟨rfl, -⟩ | ⟨rfl, -⟩ <;> decide
  have found : Symbol.atStart? (point :: rest) = some (symbol, 1) := by
    rcases isParen with ⟨rfl, rfl⟩ | ⟨rfl, rfl⟩
    all_goals
      simp [Symbol.atStart?, Symbol.spellings, text, List.isPrefixOf]
      rfl
  unfold readLexeme
  rw [noString]
  dsimp only
  rw [found]
  rcases isParen with ⟨rfl, rfl⟩ | ⟨rfl, rfl⟩ <;> rfl

theorem readLexeme_rightParen : readLexeme (41 :: rest) = some (.symbol .rightParen, 1) :=
  readLexeme_paren (.inr ⟨rfl, rfl⟩)

/-- What is solid ends in front of the first code point that ends lexemes. -/
theorem SameRun.lt_of_isSolid (same : SameRun left right) (solid : IsSolid left count) :
    count < left.length := by
  induction same generalizing count with
  | ends endsLeft _ =>
      cases count with
      | zero => exact Nat.succ_pos _
      | succ count =>
          have isSolid := solid _ List.mem_cons_self
          rw [endsLeft] at isSolid
          cases isSolid
  | cons first same ih =>
      cases count with
      | zero => exact Nat.succ_pos _
      | succ count =>
          exact Nat.succ_lt_succ (ih fun point member => solid point (List.mem_cons_of_mem _ member))

/-- A lexeme that is announced as a string is the text of one. -/
theorem exists_string_of_readLexeme {count : Nat} (announced : stringLetters? whole = some count)
    (read : readLexeme whole = some (lexeme, length)) :
    ∃ letters kind mark isLong body rest, IsString letters kind mark isLong body rest ∧
      letters.length = count ∧ whole = stringText letters mark isLong body ++ rest ∧
      lexeme = .string { kind with body := body } ∧
      length = (stringText letters mark isLong body).length := by
  have found := List.find?_some announced
  unfold readLexeme at read
  rw [announced] at read
  obtain ⟨letters, kind, mark, isLong, body, rest, isString, rfl, rfl⟩ :=
    exists_isString (Bool.and_eq_true_iff.mp found).1 read
  dsimp only at read
  rw [isString.readString_eq] at read
  cases read
  exact ⟨letters, kind, mark, isLong, body, rest, isString, rfl, rfl, rfl, rfl⟩

/-- **A lexeme is the same in texts that are the same up to where it ends** and then up to a code
point that ends lexemes. -/
theorem readLexeme_congr {other : Text} (same : SameRun whole other)
    (read : readLexeme whole = some (lexeme, length)) (taken : whole.take length = other.take length) :
    readLexeme other = some (lexeme, length) := by
  cases announced : stringLetters? whole with
  | none =>
      cases same with
      | @ends left right stop stopRight endsLeft _ =>
          -- Only a closing parenthesis is a lexeme of its own.
          rcases endsLexeme_cases endsLeft with rfl | rfl | rfl | rfl | rfl
          iterate 4
            unfold readLexeme at read
            rw [announced] at read
            cases read
          rw [readLexeme_rightParen] at read
          cases read
          obtain rfl := (List.cons.inj taken).1
          exact readLexeme_rightParen
      | cons first same => rw [← same.readLexeme first announced, read]
  | some count =>
      obtain ⟨letters, kind, mark, isLong, body, rest, isString, rfl, rfl, rfl, rfl⟩ :=
        exists_string_of_readLexeme announced read
      rw [List.take_left] at taken
      obtain ⟨behind, rfl⟩ : ∃ behind, other = stringText letters mark isLong body ++ behind :=
        ⟨_, by rw [taken, List.take_append_drop]⟩
      unfold readLexeme
      rw [← same.stringLetters?, announced]
      exact (isString.congr same).readString_eq

/-- A lexeme ends with the text, at the latest. -/
theorem length_le_of_readLexeme (ends : lineFeed ∈ whole) (read : readLexeme whole = some (lexeme, length)) :
    length ≤ whole.length := by
  cases announced : stringLetters? whole with
  | none =>
      have inLine := lineFeed_notMem_readLexeme announced read
      by_contra beyond
      refine inLine ?_
      rwa [List.take_of_length_le (by omega)]
  | some count =>
      obtain ⟨letters, kind, mark, isLong, body, rest, isString, rfl, rfl, rfl, rfl⟩ :=
        exists_string_of_readLexeme announced read
      rw [List.length_append]
      exact Nat.le_add_right _ _

/-- **A lexeme in whole lines is the same lexeme whatever stands behind the lines.** -/
theorem readLexeme_append (tail : Text) (ends : lineFeed ∈ whole)
    (read : readLexeme whole = some (lexeme, length)) :
    readLexeme (whole ++ tail) = some (lexeme, length) ∧ length ≤ whole.length := by
  have within := length_le_of_readLexeme ends read
  refine ⟨readLexeme_congr (sameRun_append_of_mem ends) read ?_, within⟩
  rw [List.take_append_of_le_length within]

end Stencil.Script
