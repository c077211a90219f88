import Stencil.Source.LineText

/-! # The tokens of a line

A line falls into strings with both of their marks and into points outside of strings that do not
begin a comment (`Stencil.FallsIntoTokens`). Names, numbers, operators and blanks are made of such
points, so a line of any tokens falls apart like this. Then no comment begins in the line, and one
that stands behind it begins where the line ends (`Stencil.FallsIntoTokens.beforeComment_append`).
-/

namespace Stencil

open Script Source CodePoint Text

variable {line rest tail body : Text} {mark point : CodePoint}

/-- What stands between single marks: points other than the mark, and pairs behind a backslash. -/
inductive IsShortBody (mark : CodePoint) : Text → Prop
  | nil : IsShortBody mark []
  | plain {point : CodePoint} {rest : Text} (noMark : point ≠ mark) (noPair : point ≠ backslash)
      (noFeed : point ≠ lineFeed) (body : IsShortBody mark rest) : IsShortBody mark (point :: rest)
  | pair {point : CodePoint} {rest : Text} (body : IsShortBody mark rest) :
      IsShortBody mark (backslash :: point :: rest)

/-- What stands behind three marks, up to the three marks that close the string. -/
inductive IsLongBody (mark : CodePoint) : Text → Prop
  | close : IsLongBody mark [mark, mark, mark]
  | plain {point : CodePoint} {rest : Text} (noMark : point ≠ mark) (noPair : point ≠ backslash)
      (body : IsLongBody mark rest) : IsLongBody mark (point :: rest)
  | pair {point : CodePoint} {rest : Text} (body : IsLongBody mark rest) :
      IsLongBody mark (backslash :: point :: rest)
  /-- A mark without two others behind it belongs to the string. -/
  | lone {rest : Text} (alone : ¬ [mark, mark] <+: rest) (body : IsLongBody mark rest) :
      IsLongBody mark (mark :: rest)

/-- A line falls into strings with both of their marks, and into points outside of strings that
begin neither a string nor a comment. -/
inductive FallsIntoTokens : Text → Prop
  | nil : FallsIntoTokens []
  | plain {point : CodePoint} {rest : Text} (noComment : point ≠ hash)
      (noString : isQuotationMark point = false) (tokens : FallsIntoTokens rest) :
      FallsIntoTokens (point :: rest)
  /-- A string between single marks; an empty one is not the beginning of three marks. -/
  | short {mark : CodePoint} {body rest : Text} (isMark : isQuotationMark mark = true)
      (isBody : IsShortBody mark body) (apart : body = [] → rest.head? ≠ some mark)
      (tokens : FallsIntoTokens rest) : FallsIntoTokens (mark :: (body ++ mark :: rest))
  | long {mark : CodePoint} {body rest : Text} (isMark : isQuotationMark mark = true)
      (isBody : IsLongBody mark body) (tokens : FallsIntoTokens rest) :
      FallsIntoTokens (mark :: mark :: mark :: (body ++ rest))

theorem ne_backslash_of_isQuotationMark (isMark : isQuotationMark mark = true) : mark ≠ backslash := by
  rintro rfl
  cases isMark

theorem ne_hash_of_isQuotationMark (isMark : isQuotationMark mark = true) : mark ≠ hash := by
  rintro rfl
  cases isMark

theorem bodyLength_cons {isLong : Bool} (held : rest ≠ []) :
    bodyLength mark isLong (point :: rest) =
      if point = backslash then (bodyLength mark isLong rest.tail).map (· + 2)
      else if point = mark && (!isLong || [mark, mark].isPrefixOf rest) then some 0
      else if point = lineFeed && !isLong then none
      else (bodyLength mark isLong rest).map (· + 1) := by
  obtain ⟨next, rest, rfl⟩ := List.exists_cons_of_ne_nil held
  have marks : (next = mark && rest.head? = some mark : Bool) = [mark, mark].isPrefixOf (next :: rest) := by
    cases rest with
    | nil => simp [List.isPrefixOf]
    | cons third rest =>
        rw [Bool.eq_iff_iff]
        simp [List.isPrefixOf, @eq_comm _ mark]
  rw [bodyLength, marks]
  rfl

/-- A string between single marks ends with its closing mark. -/
theorem IsShortBody.bodyLength_append (isBody : IsShortBody mark body)
    (isMark : isQuotationMark mark = true) :
    bodyLength mark false (body ++ mark :: rest) = some body.length := by
  induction isBody with
  | nil =>
      cases rest with
      | nil => simp [bodyLength]
      | cons next rest => simp [bodyLength, ne_backslash_of_isQuotationMark isMark]
  | plain noMark noPair noFeed _ ih =>
      rw [List.cons_append, bodyLength_cons (by simp), ih]
      simp [noMark, noPair, noFeed]
  | pair _ ih =>
      rw [List.cons_append, bodyLength_cons (by simp), if_pos rfl, List.cons_append, List.tail_cons, ih]
      rfl

theorem IsLongBody.three_le_length (isBody : IsLongBody mark body) : 3 ≤ body.length := by
  induction isBody with
  | close => exact Nat.le_refl 3
  | plain _ _ _ ih => exact Nat.le_succ_of_le ih
  | pair _ ih => exact Nat.le_succ_of_le (Nat.le_succ_of_le ih)
  | lone _ _ ih => exact Nat.le_succ_of_le ih

/-- A string between three marks ends with the three marks that close it. -/
theorem IsLongBody.bodyLength_append (isBody : IsLongBody mark body)
    (isMark : isQuotationMark mark = true) :
    (bodyLength mark true (body ++ rest)).map (· + 3) = some body.length := by
  have noPair := ne_backslash_of_isQuotationMark isMark
  induction isBody with
  | close =>
      rw [List.cons_append, bodyLength_cons (by simp), if_neg noPair]
      simp
  | @plain point body noMark noPair isBody ih =>
      have held : body ++ rest ≠ [] := by
        apply List.append_ne_nil_of_left_ne_nil
        rintro rfl
        cases isBody
      rw [List.cons_append, bodyLength_cons held, if_neg noPair]
      obtain ⟨length, found, total⟩ := Option.map_eq_some_iff.mp ih
      simp [noMark, found, ← total]
  | @pair point body isBody ih =>
      obtain ⟨length, found, total⟩ := Option.map_eq_some_iff.mp ih
      rw [List.cons_append, bodyLength_cons (by simp), if_pos rfl, List.cons_append, List.tail_cons,
        found]
      simp [← total]
  | @lone body alone isBody ih =>
      have held : body ++ rest ≠ [] := by
        apply List.append_ne_nil_of_left_ne_nil
        rintro rfl
        cases isBody
      have apart : ¬ [mark, mark] <+: body ++ rest := by
        intro begins
        apply alone
        exact List.prefix_of_prefix_length_le begins (List.prefix_append _ _)
          (Nat.le_of_succ_le isBody.three_le_length)
      have noMarks : [mark, mark].isPrefixOf (body ++ rest) = false :=
        Bool.eq_false_iff.mpr (mt List.isPrefixOf_iff_prefix.mp apart)
      obtain ⟨length, found, total⟩ := Option.map_eq_some_iff.mp ih
      rw [List.cons_append, bodyLength_cons held, if_neg noPair]
      simp [noMarks, found, ← total]

/-- The rest of an open string is read over. -/
theorem beforeComment_pending (inside : Text) :
    beforeComment inside.length (inside ++ tail) = (beforeComment 0 tail).map (inside ++ ·) := by
  induction inside with
  | nil => cases found : beforeComment 0 tail <;> exact found
  | cons point inside ih =>
      rw [List.length_cons, List.cons_append, beforeComment, if_pos (Nat.succ_pos _),
        Nat.add_sub_cancel, ih]
      cases beforeComment 0 tail <;> rfl

/-- Neither a string nor a comment begins with a blank. -/
theorem plain_of_isBlank (blank : point.isBlank = true) :
    point ≠ hash ∧ isQuotationMark point = false := by
  constructor
  · rintro rfl
    cases blank
  · rw [Bool.eq_false_iff]
    intro isMark
    simp only [isQuotationMark, Bool.or_eq_true, beq_iff_eq] at isMark
    rcases isMark with rfl | rfl <;> cases blank

/-- Points outside of strings are read over on the way to a comment. -/
theorem beforeComment_plain (plain : ∀ point ∈ line, point ≠ hash ∧ isQuotationMark point = false) :
    beforeComment 0 (line ++ tail) = (beforeComment 0 tail).map (line ++ ·) := by
  induction line with
  | nil => cases found : beforeComment 0 tail <;> exact found
  | cons point line ih =>
      obtain ⟨⟨noHash, noMark⟩, plain⟩ := List.forall_mem_cons.mp plain
      rw [List.cons_append, beforeComment, if_neg (Nat.lt_irrefl 0), if_neg noHash, noMark, ih plain]
      cases beforeComment 0 tail <;> rfl

/-- **A comment behind the tokens of a line begins where they end.** -/
theorem FallsIntoTokens.beforeComment_append (tokens : FallsIntoTokens line)
    (apart : ∀ first ∈ tail.head?, isQuotationMark first = false) :
    beforeComment 0 (line ++ tail) = (beforeComment 0 tail).map (line ++ ·) := by
  induction tokens with
  | nil => cases found : beforeComment 0 tail <;> exact found
  | plain noComment noString _ ih =>
      rw [List.cons_append, beforeComment, if_neg (Nat.lt_irrefl 0), if_neg noComment, noString, ih]
      cases beforeComment 0 tail <;> rfl
  | @short mark body rest isMark isBody noThird _ ih =>
      have noMarks : [mark, mark].isPrefixOf (body ++ mark :: (rest ++ tail)) = false := by
        cases isBody with
        | nil =>
            have differs : (rest ++ tail).head? ≠ some mark := by
              cases rest with
              | nil =>
                  intro isNext
                  rw [List.nil_append] at isNext
                  rw [apart mark isNext] at isMark
                  cases isMark
              | cons next rest => exact noThird rfl
            cases behind : rest ++ tail with
            | nil => simp [List.isPrefixOf]
            | cons next others =>
                have noMark : mark ≠ next := fun same => differs (by rw [behind, same]; rfl)
                simp [List.isPrefixOf, noMark]
        | plain noMark _ _ _ => simp [List.isPrefixOf, Ne.symm noMark]
        | pair _ => simp [List.isPrefixOf, ne_backslash_of_isQuotationMark isMark]
      have extent : stringExtent mark (body ++ mark :: (rest ++ tail)) =
          some (body ++ [mark]).length := by
        rw [stringExtent, noMarks, isBody.bodyLength_append isMark]
        simp
      have inside := @beforeComment_pending (rest ++ tail) (body ++ [mark])
      rw [List.append_assoc, List.singleton_append, ih] at inside
      rw [List.cons_append, List.append_assoc, List.cons_append, beforeComment,
        if_neg (Nat.lt_irrefl 0), if_neg (ne_hash_of_isQuotationMark isMark), if_pos isMark, extent,
        Option.bind_eq_bind, Option.bind_some, inside]
      cases beforeComment 0 tail <;> simp
  | @long mark body rest isMark isBody _ ih =>
      have extent : stringExtent mark (mark :: mark :: (body ++ (rest ++ tail))) =
          some (mark :: mark :: body).length := by
        obtain ⟨length, found, total⟩ :=
          Option.map_eq_some_iff.mp (@IsLongBody.bodyLength_append (rest ++ tail) body mark isBody isMark)
        have marks : [mark, mark].isPrefixOf (mark :: mark :: (body ++ (rest ++ tail))) = true := by
          simp [List.isPrefixOf]
        rw [stringExtent, if_pos marks]
        change (bodyLength mark true (body ++ (rest ++ tail))).map (· + 5) = _
        rw [found]
        simp [← total]
      have inside := @beforeComment_pending (rest ++ tail) (mark :: mark :: body)
      rw [ih] at inside
      rw [List.cons_append, List.cons_append, List.cons_append, List.append_assoc, beforeComment,
        if_neg (Nat.lt_irrefl 0), if_neg (ne_hash_of_isQuotationMark isMark), if_pos isMark, extent,
        Option.bind_eq_bind, Option.bind_some]
      change (beforeComment _ (mark :: mark :: body ++ (rest ++ tail))).map _ = _
      rw [inside]
      cases beforeComment 0 tail <;> simp

/-- Points outside of strings are tokens. -/
theorem FallsIntoTokens.append_plain {front : Text}
    (plain : ∀ point ∈ front, point ≠ hash ∧ isQuotationMark point = false)
    (tokens : FallsIntoTokens line) : FallsIntoTokens (front ++ line) := by
  induction front with
  | nil => exact tokens
  | cons point front ih =>
      obtain ⟨first, plain⟩ := List.forall_mem_cons.mp plain
      exact .plain first.1 first.2 (ih plain)

end Stencil
