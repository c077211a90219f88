import Mathlib.Data.List.Forall2
import Stencil.Proofs.Text.HeldLines

/-! # The lines of a text as they are written down

The lines of a text that hold anything are written down without the blanks at their ends, but with
their margins (`Stencil.Text.writtenLines`). Spaces and tabulators behind a text are lost
(`Stencil.Text.writtenLines_append_spacing`), those in front of it stand at most in front of its
first line (`Stencil.Text.deepens_writtenLines`), and the lines of a text without its margin are
found one by one (`Stencil.Text.writtenLines_dedent`).
-/

namespace Stencil.Text

open CodePoint

variable {whole front rest line gap : Text} {stop : CodePoint}

/-- Nothing but spaces and tabulators. -/
def IsSpacing (gap : Text) : Prop := ∀ point ∈ gap, point.isSpaceOrTab = true

instance (gap : Text) : Decidable (IsSpacing gap) := inferInstanceAs (Decidable (∀ _ ∈ _, _))

theorem IsSpacing.isBlank (spacing : IsSpacing gap) : ∀ point ∈ gap, point.isBlank = true :=
  fun point member => isBlank_of_isSpaceOrTab (spacing point member)

theorem IsSpacing.not_isLineBreak (spacing : IsSpacing gap) :
    ∀ point ∈ gap, point.isLineBreak = false := by
  intro point member
  have either := spacing point member
  simp only [isSpaceOrTab, Bool.or_eq_true, beq_iff_eq] at either
  rcases either with rfl | rfl <;> rfl

/-- A line is another one with spaces and tabulators in front of it. -/
def Deepens (deeper line : Text) : Prop := ∃ gap, IsSpacing gap ∧ deeper = gap ++ line

theorem Deepens.refl (line : Text) : Deepens line line := ⟨[], by decide, rfl⟩

theorem stripEnd_append_of_held (held : strip line ≠ []) :
    stripEnd (front ++ line) = front ++ stripEnd line := by
  have remains : line.reverse.dropWhile CodePoint.isBlank ≠ [] := by
    intro empty
    apply held
    rw [← strip_stripEnd, stripEnd, dropEndWhile, empty]
    rfl
  unfold stripEnd dropEndWhile
  rw [List.reverse_append, List.dropWhile_append, List.isEmpty_eq_false_iff.mpr remains]
  simp

/-- The lines of a text that hold anything, without the blanks at their ends. -/
def writtenLines (whole : Text) : List Text :=
  ((splitLines whole).filter fun line => !(strip line).isEmpty).map stripEnd

theorem writtenLines_eq_splitOnP (whole : Text) : writtenLines whole =
    ((whole.splitOnP isLineBreak).filter fun line => !(strip line).isEmpty).map stripEnd :=
  congrArg (List.map stripEnd) (filter_splitLines rfl whole)

theorem map_strip_writtenLines (whole : Text) : (writtenLines whole).map strip = heldLines whole := by
  unfold writtenLines heldLines heldOf
  rw [List.map_map, List.filter_map]
  exact List.map_congr_left fun line _ => strip_stripEnd line

/-- The lines of a text are those on the two sides of a break. -/
theorem writtenLines_append_break (breaks : stop.isLineBreak = true) :
    writtenLines (front ++ stop :: rest) = writtenLines front ++ writtenLines rest := by
  rw [writtenLines_eq_splitOnP, writtenLines_eq_splitOnP, writtenLines_eq_splitOnP,
    List.splitOnP_append_cons _ _ breaks, List.filter_append, List.map_append]

theorem writtenLines_of_blank (blank : ∀ point ∈ whole, point.isBlank = true) :
    writtenLines whole = [] := by
  rw [← List.map_eq_nil_iff (f := strip), map_strip_writtenLines]
  exact heldLines_of_blank blank

theorem writtenLines_of_plain (plain : ∀ point ∈ line, point.isLineBreak = false) :
    writtenLines line = if strip line = [] then [] else [stripEnd line] := by
  rw [writtenLines_eq_splitOnP, List.splitOnP_eq_singleton plain, List.filter_singleton]
  by_cases empty : strip line = []
  · simp [empty]
  · simp [empty, List.isEmpty_eq_false_iff.mpr empty]

/-- Spaces and tabulators behind a text are lost. -/
theorem writtenLines_append_spacing (whole : Text) (spacing : IsSpacing gap) :
    writtenLines (whole ++ gap) = writtenLines whole := by
  by_cases breaks : ∃ stop ∈ whole, stop.isLineBreak = true
  · obtain ⟨stop, member, isBreak⟩ := breaks
    obtain ⟨front, rest, rfl⟩ := List.append_of_mem member
    rw [List.append_assoc, List.cons_append, writtenLines_append_break isBreak,
      writtenLines_append_break isBreak, writtenLines_append_spacing rest spacing]
  · have plain : ∀ point ∈ whole, point.isLineBreak = false := by
      intro point member
      exact Bool.eq_false_iff.mpr fun isBreak => breaks ⟨point, member, isBreak⟩
    have same : strip (whole ++ gap) = strip whole :=
      @strip_append_blanks whole [] gap (fun _ none => nomatch none) spacing.isBlank
    rw [writtenLines_of_plain plain, writtenLines_of_plain (List.forall_mem_append.mpr
      ⟨plain, spacing.not_isLineBreak⟩), same, stripEnd_append_blanks spacing.isBlank]
termination_by whole.length
decreasing_by subst_vars; rw [List.length_append, List.length_cons]; omega

/-- Spaces and tabulators in front of a text stand at most in front of its first line. -/
theorem deepens_writtenLines (whole : Text) (spacing : IsSpacing gap) :
    List.Forall₂ Deepens (writtenLines (gap ++ whole)) (writtenLines whole) := by
  by_cases breaks : ∃ stop ∈ whole, stop.isLineBreak = true
  · obtain ⟨stop, member, isBreak⟩ := breaks
    obtain ⟨front, rest, rfl⟩ := List.append_of_mem member
    rw [← List.append_assoc, writtenLines_append_break isBreak, writtenLines_append_break isBreak]
    exact List.rel_append (deepens_writtenLines front spacing)
      (List.forall₂_same.mpr fun line _ => .refl line)
  · have plain : ∀ point ∈ whole, point.isLineBreak = false := by
      intro point member
      exact Bool.eq_false_iff.mpr fun isBreak => breaks ⟨point, member, isBreak⟩
    have same : strip (gap ++ whole) = strip whole := by
      have around := @strip_append_blanks whole gap [] spacing.isBlank (fun _ none => nomatch none)
      rwa [List.append_nil] at around
    rw [writtenLines_of_plain plain, writtenLines_of_plain (List.forall_mem_append.mpr
      ⟨spacing.not_isLineBreak, plain⟩), same]
    by_cases empty : strip whole = []
    · simp [empty]
    · rw [if_neg empty, if_neg empty, stripEnd_append_of_held empty]
      exact .cons ⟨gap, spacing, rfl⟩ .nil
termination_by whole.length
decreasing_by subst_vars; rw [List.length_append, List.length_cons]; omega

theorem clearIfBlank_of_spacing (spacing : IsSpacing line) : clearIfBlank line = [] :=
  if_pos (List.all_eq_true.mpr spacing)

theorem clearIfBlank_of_held (held : ¬ IsSpacing line) : clearIfBlank line = line :=
  if_neg fun all => held (List.all_eq_true.mp all)

/-- The indentation of a line ends inside the line when it holds anything. -/
theorem indentation_append (held : ¬ IsSpacing line) : indentation (line ++ rest) = indentation line := by
  have short : (line.takeWhile isSpaceOrTab).length ≠ line.length := by
    intro whole
    have same := (List.takeWhile_prefix isSpaceOrTab).eq_of_length whole
    exact held fun point member => List.mem_takeWhile_imp (same.symm ▸ member)
  rw [indentation, List.takeWhile_append, if_neg short]
  rfl

theorem indentation_front (spacing : IsSpacing gap) :
    indentation (gap ++ line) = gap ++ indentation line :=
  List.takeWhile_append_of_pos spacing

/-- The margin of a text. -/
def marginOf (whole : Text) : Text := margin ((splitOn lineFeed whole).map clearIfBlank)

/-- The margin of a text is the greatest common beginning of the indentations of its lines that hold
anything. -/
theorem prefix_marginOf_iff {start : Text}
    (held : ∃ line ∈ splitOn lineFeed whole, ¬ IsSpacing line) :
    start <+: marginOf whole ↔
      ∀ line ∈ splitOn lineFeed whole, ¬ IsSpacing line → start <+: indentation line := by
  have kept : ∀ line, ¬ IsSpacing line → clearIfBlank line = line ∧ line ≠ [] := by
    intro line noSpacing
    refine ⟨clearIfBlank_of_held noSpacing, ?_⟩
    rintro rfl
    exact noSpacing (by decide)
  obtain ⟨line, isLine, noSpacing⟩ := held
  have remains : ∃ line ∈ (splitOn lineFeed whole).map clearIfBlank, line ≠ [] :=
    ⟨line, List.mem_map.mpr ⟨line, isLine, (kept line noSpacing).1⟩, (kept line noSpacing).2⟩
  rw [marginOf, prefix_margin_iff remains, List.forall_mem_map]
  constructor
  · intro each line isLine noSpacing
    have inside := each line isLine
    rw [(kept line noSpacing).1] at inside
    exact inside (kept line noSpacing).2
  · intro each line isLine remains
    by_cases spacing : IsSpacing line
    · exact (remains (clearIfBlank_of_spacing spacing)).elim
    · rw [clearIfBlank_of_held spacing]
      exact each line isLine spacing

/-- A line that holds anything is indented with the margin. -/
theorem marginOf_prefix_indentation (isLine : line ∈ splitOn lineFeed whole)
    (held : ¬ IsSpacing line) : marginOf whole <+: indentation line :=
  (prefix_marginOf_iff ⟨line, isLine, held⟩).mp List.prefix_rfl line isLine held

theorem writtenLines_join (lines : List Text) :
    writtenLines (join [lineFeed] lines) = lines.flatMap writtenLines :=
  read_join rfl (fun _ _ => writtenLines_append_break rfl) lines

theorem writtenLines_drop_of_spacing (spacing : IsSpacing line) (removed : Nat) :
    writtenLines (line.drop removed) = [] :=
  writtenLines_of_blank fun point member => spacing.isBlank point (List.mem_of_mem_drop member)

/-- **The lines of a text without its margin are found one by one.** -/
theorem writtenLines_dedent (whole : Text) : writtenLines (dedent whole) =
    (splitOn lineFeed whole).flatMap fun line => writtenLines (line.drop (marginOf whole).length) := by
  rw [dedent, writtenLines_join, List.map_map, List.flatMap_map]
  refine List.flatMap_congr fun line _ => ?_
  by_cases spacing : IsSpacing line
  · rw [writtenLines_drop_of_spacing spacing, Function.comp_apply, clearIfBlank_of_spacing spacing,
      List.drop_nil]
    rfl
  · rw [Function.comp_apply, clearIfBlank_of_held spacing]
    rfl

/-- Without a line that holds anything, no line is written down. -/
theorem flatMap_writtenLines_of_unheld {lines : List Text} (removed : Nat)
    (unheld : ¬ ∃ line ∈ lines, ¬ IsSpacing line) :
    (lines.flatMap fun line => writtenLines (line.drop removed)) = [] := by
  rw [List.flatMap_eq_nil_iff]
  intro line isLine
  apply writtenLines_drop_of_spacing
  by_contra held
  exact unheld ⟨line, isLine, held⟩

end Stencil.Text
