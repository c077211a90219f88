import Mathlib.Data.List.DropRight
import Mathlib.Data.List.Induction
import Mathlib.Data.List.TakeWhile
import Stencil.Proofs.Text.Normal
import Stencil.Text.Blank

/-! # Stripping and the normal form

Stripping takes blanks off the ends of a text, and blanks around a text make no difference to
the result (`Stencil.Text.strip_append_blanks`). Line breaks are blanks that the normal form
hides behind backslashes, so stripping the normal form takes off the other blanks only; the
rest comes off when the pairs have been read (`Stencil.Text.strip_restore_strip_normalize`).
-/

namespace Stencil

theorem CodePoint.isBlank_of_isSpaceOrTab {point : CodePoint} (margin : point.isSpaceOrTab = true) :
    point.isBlank = true := by
  simp only [CodePoint.isSpaceOrTab, Bool.or_eq_true, beq_iff_eq] at margin
  rcases margin with rfl | rfl <;> rfl

namespace Text

open CodePoint

variable {raw whole left right : Text} {point : CodePoint} {test : CodePoint → Bool}

theorem dropEndWhile_concat : dropEndWhile test (whole ++ [point]) =
    if test point = true then dropEndWhile test whole else whole ++ [point] := by
  unfold dropEndWhile
  rw [List.reverse_append, List.reverse_singleton, List.singleton_append, List.dropWhile_cons]
  split
  · rfl
  · rw [List.reverse_cons, List.reverse_reverse]

/-- What comes off the end of a text satisfies the test. -/
theorem exists_dropEndWhile_append (test : CodePoint → Bool) (whole : Text) :
    ∃ ending, whole = dropEndWhile test whole ++ ending ∧ ∀ point ∈ ending, test point = true := by
  refine ⟨(whole.reverse.takeWhile test).reverse, ?_, ?_⟩
  · unfold dropEndWhile
    rw [← List.reverse_append, List.takeWhile_append_dropWhile, List.reverse_reverse]
  · intro point member
    exact List.mem_takeWhile_imp (List.mem_reverse.mp member)

theorem dropEndWhile_append_of_all (all : ∀ point ∈ right, test point = true) :
    dropEndWhile test (left ++ right) = dropEndWhile test left := by
  unfold dropEndWhile
  rw [List.reverse_append, List.dropWhile_append_of_pos]
  intro point member
  exact all point (List.mem_reverse.mp member)

theorem stripEnd_append_blanks (blank : ∀ point ∈ right, point.isBlank = true) :
    stripEnd (left ++ right) = stripEnd left := dropEndWhile_append_of_all blank

/-- No blank is left at the end of a text. -/
theorem not_isBlank_of_getLast?_stripEnd :
    ∀ last ∈ (stripEnd whole).getLast?, last.isBlank = false := by
  intro last isLast
  unfold stripEnd dropEndWhile at isLast
  rw [List.getLast?_reverse] at isLast
  have stops := List.head?_dropWhile_not CodePoint.isBlank whole.reverse
  rw [isLast] at stops
  simpa using stops

/-- A text that ends with no blank stays as it is. -/
theorem stripEnd_eq_self (ends : ∀ last ∈ whole.getLast?, last.isBlank = false) :
    stripEnd whole = whole := by
  rcases List.eq_nil_or_concat whole with rfl | ⟨front, last, rfl⟩
  · rfl
  · rw [List.concat_eq_append] at ends ⊢
    unfold stripEnd
    rw [dropEndWhile_concat, ends last List.getLast?_concat]
    rfl

/-- Stripping the end of a text does not reach a point that is no blank. -/
theorem stripEnd_cons (noBlank : point.isBlank = false) :
    stripEnd (point :: whole) = point :: stripEnd whole := by
  unfold stripEnd dropEndWhile
  rw [List.reverse_cons, List.dropWhile_append]
  by_cases none : whole.reverse.dropWhile isBlank = []
  · simp [none, noBlank]
  · simp [List.isEmpty_eq_false_iff.mpr none]

/-- A text that begins with no blank is stripped at its end alone. -/
theorem strip_of_head (begins : ∃ first ∈ whole.head?, first.isBlank = false) :
    strip whole = stripEnd whole := by
  obtain ⟨first, isFirst, noBlank⟩ := begins
  obtain ⟨rest, rfl⟩ := List.head?_eq_some_iff.mp isFirst
  unfold strip stripStart
  rw [List.dropWhile_cons_of_neg (by simp [noBlank])]

/-- Blanks around a text make no difference once it is stripped. -/
theorem strip_append_blanks (blankLeft : ∀ point ∈ left, point.isBlank = true)
    (blankRight : ∀ point ∈ right, point.isBlank = true) :
    strip (left ++ whole ++ right) = strip whole := by
  unfold strip stripStart
  rw [List.append_assoc, List.dropWhile_append_of_pos blankLeft]
  by_cases allBlank : ∀ point ∈ whole, point.isBlank = true
  · have bothBlank : ∀ point ∈ whole ++ right, point.isBlank = true := by
      intro point member
      rcases List.mem_append.mp member with first | second
      · exact allBlank point first
      · exact blankRight point second
    rw [List.dropWhile_eq_nil_iff.mpr bothBlank, List.dropWhile_eq_nil_iff.mpr allBlank]
  · have remains : whole.dropWhile isBlank ≠ [] :=
      fun empty => allBlank (List.dropWhile_eq_nil_iff.mp empty)
    rw [List.dropWhile_append, List.isEmpty_eq_false_iff.mpr remains]
    exact stripEnd_append_blanks blankRight

theorem strip_eq_nil_iff : strip whole = [] ↔ ∀ point ∈ whole, point.isBlank = true := by
  constructor
  · intro empty
    by_contra held
    have remains : stripStart whole ≠ [] := fun none => held (List.dropWhile_eq_nil_iff.mp none)
    obtain ⟨first, rest, split⟩ := List.exists_cons_of_ne_nil remains
    have stops := List.head?_dropWhile_not isBlank whole
    rw [← stripStart, split] at stops
    rw [strip, split, stripEnd_cons (by simpa using stops)] at empty
    cases empty
  · intro blank
    have around := @strip_append_blanks [] whole [] blank (fun _ none => nomatch none)
    rwa [List.append_nil, List.append_nil] at around

theorem strip_stripEnd (whole : Text) : strip (stripEnd whole) = strip whole := by
  obtain ⟨ending, split, blank⟩ := exists_dropEndWhile_append isBlank whole
  change whole = stripEnd whole ++ ending at split
  have around := @strip_append_blanks (stripEnd whole) [] ending (fun _ none => nomatch none) blank
  rw [List.nil_append, ← split] at around
  exact around.symm

/-- What a text without blanks at its end has in front makes no difference to its end. -/
theorem stripStart_stripEnd (whole : Text) : stripStart (stripEnd whole) = strip whole := by
  rw [← strip_stripEnd]
  refine (stripEnd_eq_self fun last isLast => ?_).symm
  refine @not_isBlank_of_getLast?_stripEnd whole last ?_
  obtain ⟨front, split⟩ := List.dropWhile_suffix (l := stripEnd whole) isBlank
  rw [← split, List.getLast?_append]
  exact congrArg (Option.or · _) isLast

theorem stripStart_strip (whole : Text) : stripStart (strip whole) = strip whole := by
  rw [← stripStart_stripEnd]
  exact List.dropWhile_idempotent _ _

/-- No blank stands at the beginning of a stripped text. -/
theorem exists_head_of_stripped (held : whole ≠ []) (stripped : strip whole = whole) :
    ∃ first ∈ whole.head?, first.isBlank = false := by
  have starts := stripStart_strip whole
  rw [stripped] at starts
  obtain ⟨first, rest, split⟩ := List.exists_cons_of_ne_nil held
  have stops := List.head?_dropWhile_not isBlank whole
  rw [← stripStart, starts, split] at stops
  exact ⟨first, by rw [split]; rfl, by simpa using stops⟩

/-- No blank stands at the end of a stripped text. -/
theorem stripEnd_of_stripped (stripped : strip whole = whole) : stripEnd whole = whole := by
  have starts := stripStart_strip whole
  rw [stripped] at starts
  rwa [strip, starts] at stripped

/-- A blank that the normal form leaves as it is. -/
def isPlainBlank (point : CodePoint) : Bool := point.isBlank && !point.isEscaped

theorem not_isBlank_letter {letter : CodePoint} (meant : unescape? letter = some point) :
    letter.isBlank = false := by
  rcases eq_of_unescape? meant with rfl | rfl | rfl <;> rfl

/-- Stripping the start of a normal form takes off the blanks that it leaves as they are. -/
theorem stripStart_normalize :
    stripStart (normalize raw) = normalize (raw.dropWhile isPlainBlank) := by
  unfold stripStart
  induction raw with
  | nil => rfl
  | cons point raw ih =>
      rw [normalize_cons, List.dropWhile_cons]
      cases escaped : point.isEscaped with
      | false =>
          rw [normalPoint_of_not_escaped escaped, List.singleton_append, List.dropWhile_cons]
          simp only [isPlainBlank, escaped, Bool.not_false, Bool.and_true]
          split
          · exact ih
          · rw [normalize_cons, normalPoint_of_not_escaped escaped, List.singleton_append]
      | true =>
          obtain ⟨letter, pair, -⟩ := exists_pair_of_escaped escaped
          simp only [isPlainBlank, escaped, Bool.not_true, Bool.and_false, Bool.false_eq_true,
            ↓reduceIte, normalize_cons, pair]
          rfl

theorem stripEnd_normalize :
    stripEnd (normalize raw) = normalize (dropEndWhile isPlainBlank raw) := by
  unfold stripEnd
  induction raw using List.reverseRecOn with
  | nil => rfl
  | append_singleton raw point ih =>
      rw [normalize_append, dropEndWhile_concat]
      cases escaped : point.isEscaped with
      | false =>
          have single : normalize [point] = [point] := by
            rw [normalize_cons, normalPoint_of_not_escaped escaped]
            rfl
          rw [single, dropEndWhile_concat]
          simp only [isPlainBlank, escaped, Bool.not_false, Bool.and_true]
          split
          · exact ih
          · rw [normalize_append, single]
      | true =>
          obtain ⟨letter, pair, meant⟩ := exists_pair_of_escaped escaped
          have double : normalize raw ++ normalize [point] =
              (normalize raw ++ [backslash]) ++ [letter] := by
            rw [normalize_cons, pair, normalize_nil, List.append_nil, List.append_assoc]
            rfl
          rw [double, dropEndWhile_concat, not_isBlank_letter meant, ← double]
          simp only [isPlainBlank, escaped, Bool.not_true, Bool.and_false, Bool.false_eq_true,
            ↓reduceIte, normalize_append]

/-- A text that is stripped in its normal form is stripped once its pairs have been read and it
is stripped again. -/
theorem strip_restore_strip_normalize : strip (restore (strip (normalize raw))) = strip raw := by
  obtain ⟨ending, split, blankEnd⟩ :=
    exists_dropEndWhile_append isPlainBlank (raw.dropWhile isPlainBlank)
  have whole : raw = raw.takeWhile isPlainBlank ++
      dropEndWhile isPlainBlank (raw.dropWhile isPlainBlank) ++ ending := by
    rw [List.append_assoc, ← split, List.takeWhile_append_dropWhile]
  have isBlank_of_plain : ∀ {point : CodePoint}, isPlainBlank point = true →
      point.isBlank = true := fun plain => ((Bool.and_eq_true _ _).mp plain).1
  conv_rhs => rw [whole]
  rw [strip_append_blanks
    (fun point member => isBlank_of_plain (List.mem_takeWhile_imp member))
    (fun point member => isBlank_of_plain (blankEnd point member))]
  congr 1
  unfold strip
  rw [stripStart_normalize, stripEnd_normalize, restore_normalize]

end Text

end Stencil
