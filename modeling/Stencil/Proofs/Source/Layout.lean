import Stencil.Proofs.Text.WrittenLines
import Stencil.Source.Assembly

/-! # The layout of a statement

A statement may be laid out anew: all of its lines moved by the same spaces and tabulators, empty
lines put between them, and spaces and tabulators put behind them (`Stencil.IsLaidOut`). The margin
then grows by just what the lines are moved by (`Stencil.LaysOut.marginOf_eq`), so the lines without
it are the same, and so is what becomes of the statement (`Stencil.emit_of_isLaidOut`).
-/

namespace Stencil

open Source CodePoint Text

variable {front : Text} {lines others : List Text} {other body : Text}

/-- Lines that are moved by the same front, with spaces and tabulators behind them and lines of
nothing else between them. -/
inductive LaysOut (front : Text) : List Text → List Text → Prop
  | nil : LaysOut front [] []
  | line {line back : Text} {lines others : List Text} (spacing : IsSpacing back)
      (laysOut : LaysOut front lines others) :
      LaysOut front (line :: lines) ((front ++ line ++ back) :: others)
  | blank {blank : Text} {lines others : List Text} (spacing : IsSpacing blank)
      (laysOut : LaysOut front lines others) : LaysOut front lines (blank :: others)

/-- A text is another one with its lines laid out anew. -/
def IsLaidOut (other body : Text) : Prop :=
  ∃ front, IsSpacing front ∧ LaysOut front (splitOn lineFeed body) (splitOn lineFeed other)

/-- A line holds as much between spaces and tabulators as by itself. -/
theorem isSpacing_around_iff {line back : Text} (spacing : IsSpacing front) (isBack : IsSpacing back) :
    IsSpacing (front ++ line ++ back) ↔ IsSpacing line := by
  unfold IsSpacing at *
  rw [List.forall_mem_append, List.forall_mem_append]
  exact ⟨fun all => all.1.2, fun inside => ⟨⟨spacing, inside⟩, isBack⟩⟩

namespace LaysOut

/-- The lines that hold anything are the same, and they are indented deeper by the front. -/
theorem forall_indentation_iff {holds : Text → Prop} (laysOut : LaysOut front lines others)
    (spacing : IsSpacing front) :
    (∀ line ∈ others, ¬ IsSpacing line → holds (indentation line)) ↔
      ∀ line ∈ lines, ¬ IsSpacing line → holds (front ++ indentation line) := by
  induction laysOut with
  | nil => simp
  | @line line back lines others isBack _ ih =>
      rw [List.forall_mem_cons, List.forall_mem_cons, ih, isSpacing_around_iff spacing isBack]
      by_cases blank : IsSpacing line
      · simp [blank]
      · rw [List.append_assoc, indentation_front spacing, indentation_append blank]
  | blank isBlank _ ih =>
      rw [List.forall_mem_cons, ih]
      simp [isBlank]

theorem held_iff (laysOut : LaysOut front lines others) (spacing : IsSpacing front) :
    (∃ line ∈ others, ¬ IsSpacing line) ↔ ∃ line ∈ lines, ¬ IsSpacing line := by
  have none := @forall_indentation_iff front lines others (fun _ => False) laysOut spacing
  simpa using not_congr none

/-- Without the margins, the lines are the same but for what stands behind them. -/
theorem flatMap_writtenLines (laysOut : LaysOut front lines others) (removed : Nat) :
    (others.flatMap fun line => writtenLines (line.drop (front.length + removed))) =
      lines.flatMap fun line => writtenLines (line.drop removed) := by
  induction laysOut with
  | nil => rfl
  | @line line back lines others isBack _ ih =>
      have tail : IsSpacing (back.drop (removed - line.length)) := fun point member =>
        isBack point (List.mem_of_mem_drop member)
      rw [List.flatMap_cons, List.flatMap_cons, ih, List.append_assoc, ← List.drop_drop,
        List.drop_left, List.drop_append, writtenLines_append_spacing _ tail]
  | blank isBlank _ ih =>
      rw [List.flatMap_cons, ih, writtenLines_drop_of_spacing isBlank, List.nil_append]

end LaysOut

/-- **The margin grows by what the lines are moved by.** -/
theorem LaysOut.marginOf_eq (laysOut : LaysOut front (splitOn lineFeed body) (splitOn lineFeed other))
    (spacing : IsSpacing front) (held : ∃ line ∈ splitOn lineFeed body, ¬ IsSpacing line) :
    marginOf other = front ++ marginOf body := by
  have heldOther := (laysOut.held_iff spacing).mpr held
  have inside : front ++ marginOf body <+: marginOf other := by
    rw [prefix_marginOf_iff heldOther, laysOut.forall_indentation_iff spacing]
    intro line isLine held
    exact (List.prefix_append_right_inj front).mpr (marginOf_prefix_indentation isLine held)
  obtain ⟨further, split⟩ := inside
  rw [List.append_assoc] at split
  have around : marginOf body ++ further <+: marginOf body := by
    have whole : front ++ (marginOf body ++ further) <+: marginOf other := by rw [split]
    rw [prefix_marginOf_iff heldOther, laysOut.forall_indentation_iff spacing] at whole
    rw [prefix_marginOf_iff held]
    intro line isLine held
    exact (List.prefix_append_right_inj front).mp (whole line isLine held)
  rw [← split, around.eq_of_length (around.length_le.antisymm (by simp))]

theorem codeLines_normalize (raw : Text) : codeLines (normalize raw) = writtenLines (dedent raw) := by
  conv_rhs => rw [← @restore_normalize raw]
  rfl

/-- The lines of a statement that is laid out anew are the same once the margin is off. -/
theorem IsLaidOut.writtenLines_dedent_eq (laidOut : IsLaidOut other body) :
    writtenLines (dedent other) = writtenLines (dedent body) := by
  obtain ⟨front, spacing, laysOut⟩ := laidOut
  rw [writtenLines_dedent, writtenLines_dedent]
  by_cases held : ∃ line ∈ splitOn lineFeed body, ¬ IsSpacing line
  · rw [laysOut.marginOf_eq spacing held, List.length_append, laysOut.flatMap_writtenLines]
  -- Without a line that holds anything there is no margin, but no line either.
  · rw [flatMap_writtenLines_of_unheld _ held,
      flatMap_writtenLines_of_unheld _ (mt (laysOut.held_iff spacing).mp held)]

/-- What becomes of a statement depends on its lines alone. -/
theorem emit_congr (same : writtenLines (dedent other) = writtenLines (dedent body))
    (generator : Generator) (offset place : Nat) :
    generator.emit ⟨.control, normalize other, place⟩ =
      generator.emit ⟨.control, normalize body, offset⟩ := by
  unfold Generator.emit Source.emit emitControl
  dsimp only
  rw [codeLines_normalize, codeLines_normalize, same]

/-- **The layout of a statement does not matter.** In any state of the generator, a statement and the
same statement laid out anew become the same fragment and leave the same state, or they fail
alike. -/
theorem emit_of_isLaidOut (laidOut : IsLaidOut other body) (generator : Generator)
    (offset place : Nat) :
    generator.emit ⟨.control, normalize other, place⟩ =
      generator.emit ⟨.control, normalize body, offset⟩ :=
  emit_congr laidOut.writtenLines_dedent_eq generator offset place

theorem emit_of_isLaidOut_margins :
    IsLaidOut (text "\n\t x = 1  \n \n\t \tif x:\t\n") (text "x = 1\n\tif x:") ∧
      (Generator.start.emit ⟨.control, normalize (text "\n\t x = 1  \n \n\t \tif x:\t\n"), 0⟩).map
        Prod.fst = .ok (text "    x = 1\n    \tif x:\n        pass\n") := by
  have laidOut : IsLaidOut (text "\n\t x = 1  \n \n\t \tif x:\t\n") (text "x = 1\n\tif x:") := by
    have lines : splitOn lineFeed (text "x = 1\n\tif x:") = [text "x = 1", text "\tif x:"] := by
      decide
    have others : splitOn lineFeed (text "\n\t x = 1  \n \n\t \tif x:\t\n") =
        [[], text "\t " ++ text "x = 1" ++ text "  ", text " ",
          text "\t " ++ text "\tif x:" ++ text "\t", []] := by
      decide
    unfold IsLaidOut
    rw [lines, others]
    have between : LaysOut (text "\t ") [text "\tif x:"]
        [text " ", text "\t " ++ text "\tif x:" ++ text "\t", []] :=
      .blank (by decide) (.line (by decide) (.blank (by decide) .nil))
    exact ⟨text "\t ", by decide, .blank (by decide) (.line (by decide) between)⟩
  refine ⟨laidOut, ?_⟩
  rw [emit_of_isLaidOut laidOut Generator.start 0 0]
  decide

end Stencil
