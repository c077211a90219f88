import Stencil.Proofs.Script.DeepLines
import Stencil.Proofs.Text.Strip
import Stencil.Source.Assembly

/-! # The lines of a body

Every fragment of a body is made of whole lines that begin at least as deep as the body
(`Stencil.BodyLines`). This holds of literal text, of statements and of the lines that take names
from the context whatever they contain, and of an expression as long as its own lines keep to the
margin. Fragments one behind the other are such lines again (`Stencil.BodyLines.append`).
-/

namespace Stencil

open Script Source CodePoint Text

variable {front rest lines upper lower line value : Text} {point stop : CodePoint} {depth : Nat}

theorem unifyLineEnds_append (plain : carriageReturn ∉ front) (held : rest ≠ []) :
    unifyLineEnds (front ++ rest) = front ++ unifyLineEnds rest := by
  induction front with
  | nil => rfl
  | cons point front ih =>
      rw [List.mem_cons, not_or] at plain
      obtain ⟨next, others, split⟩ :=
        List.exists_cons_of_ne_nil (List.append_ne_nil_of_right_ne_nil front held)
      rw [List.cons_append, split, unifyLineEnds, if_neg (Ne.symm plain.1), ← split, ih plain.2]
      rfl

/-- The lines before a line feed do not depend on what stands behind it. -/
theorem unifyLineEnds_lineFeed (held : rest ≠ []) :
    unifyLineEnds (front ++ lineFeed :: rest) =
      unifyLineEnds (front ++ [lineFeed]) ++ unifyLineEnds rest := by
  induction front with
  | nil =>
      obtain ⟨next, others, rfl⟩ := List.exists_cons_of_ne_nil held
      rfl
  | cons point front ih =>
      cases front with
      | nil =>
          rw [List.nil_append, List.nil_append] at ih
          rw [List.singleton_append, List.singleton_append, unifyLineEnds, unifyLineEnds]
          split
          · exact ih
          · rw [ih, List.cons_append]
      | cons next front =>
          simp only [List.cons_append] at ih ⊢
          rw [unifyLineEnds, unifyLineEnds]
          split
          · split
            · exact ih
            · rw [ih, List.cons_append]
          · rw [ih, List.cons_append]

/-- A text that does not end with a line break is followed by what follows it. -/
theorem exists_unifyLineEnds_append :
    ∀ {value : Text}, (∀ last ∈ value.getLast?, last ≠ carriageReturn ∧ last ≠ lineFeed) →
      ∃ unified, unifyLineEnds value = unified ++ [lineFeed] ∧
        ∀ rest, rest ≠ [] → unifyLineEnds (value ++ rest) = unified ++ unifyLineEnds rest
  | [], _ => ⟨[], rfl, fun _ _ => rfl⟩
  | [point], noBreak => by
      obtain ⟨noReturn, noFeed⟩ := noBreak point rfl
      refine ⟨[point], ?_, fun rest held => unifyLineEnds_append ?_ held⟩
      · rw [unifyLineEnds, decide_eq_false noReturn, decide_eq_false noFeed]
        rfl
      · rw [List.mem_singleton]
        exact Ne.symm noReturn
  | point :: next :: value, noBreak => by
      obtain ⟨unified, same, follows⟩ := @exists_unifyLineEnds_append (next :: value)
        fun last isLast => noBreak last isLast
      simp only [List.cons_append] at follows ⊢
      by_cases isReturn : point = carriageReturn
      · by_cases isFeed : next = lineFeed
        · refine ⟨unified, ?_, fun rest held => ?_⟩
          · rw [unifyLineEnds, if_pos isReturn, if_pos isFeed, same]
          · rw [unifyLineEnds, if_pos isReturn, if_pos isFeed, follows rest held]
        · refine ⟨lineFeed :: unified, ?_, fun rest held => ?_⟩
          · rw [unifyLineEnds, if_pos isReturn, if_neg isFeed, same, List.cons_append]
          · rw [unifyLineEnds, if_pos isReturn, if_neg isFeed, follows rest held, List.cons_append]
      · refine ⟨point :: unified, ?_, fun rest held => ?_⟩
        · rw [unifyLineEnds, if_neg isReturn, same, List.cons_append]
        · rw [unifyLineEnds, if_neg isReturn, follows rest held, List.cons_append]

namespace Script

instance (rest : Text) : Decidable (IsDeep rest) := inferInstanceAs (Decidable (_ ∧ _))

theorem linesDeep_nil : LinesDeep [] := fun front _ split =>
  absurd split.symm (List.append_ne_nil_of_right_ne_nil front (List.cons_ne_nil _ _))

theorem linesDeep_cons : LinesDeep (point :: rest) ↔
    (point = lineFeed → rest = [] ∨ IsDeep rest) ∧ LinesDeep rest := by
  constructor
  · intro deep
    refine ⟨?_, deep.tail⟩
    rintro rfl
    exact deep [] rest rfl
  · rintro ⟨first, later⟩ front behind split
    cases front with
    | nil =>
        obtain ⟨isFeed, rfl⟩ := List.cons.inj split
        exact first isFeed
    | cons other front => exact later front behind (List.cons.inj split).2

/-- Whether all lines of a text behind the first one are deep is decided line by line. -/
def decideLinesDeep : (rest : Text) → Decidable (LinesDeep rest)
  | [] => .isTrue linesDeep_nil
  | _ :: rest =>
      have := decideLinesDeep rest
      decidable_of_iff _ linesDeep_cons.symm

instance (rest : Text) : Decidable (LinesDeep rest) := decideLinesDeep rest

/-- Only the blanks of a line decide how deep it begins. -/
theorem isDeep_append_cons (stops : isInnerBlank stop = false) :
    IsDeep (front ++ stop :: rest) ↔ IsDeep front := by
  unfold IsDeep
  rw [takeWhile_append_stop stops]
  refine and_congr_left fun _ => ⟨fun starts => ?_, fun starts => ?_⟩
  · obtain ⟨behind, whole⟩ := starts
    rcases List.append_eq_append_iff.mp whole with ⟨more, rfl, -⟩ | ⟨more, split, inRest⟩
    · exact List.prefix_append _ _
    · cases more with
      | nil => exact (List.append_nil front ▸ split) ▸ List.prefix_rfl
      | cons first more =>
          have isSpace : first = space := List.eq_of_mem_replicate (n := 4)
            (show first ∈ Text.spaces 4 by rw [split]; simp)
          obtain ⟨rfl, -⟩ := List.cons.inj inRest
          rw [isSpace] at stops
          cases stops
  · exact starts.trans (List.prefix_append _ _)

/-- Whole lines that all begin at least as deep as the body of a function. -/
structure DeepLines (lines : Text) : Prop where
  starts : IsDeep lines
  later : LinesDeep lines
  last : lines.getLast? = some lineFeed

theorem DeepLines.append (deep : DeepLines upper) (below : DeepLines lower) :
    DeepLines (upper ++ lower) := by
  obtain ⟨front, rfl⟩ := List.getLast?_eq_some_iff.mp deep.last
  have starts := (isDeep_append_cons rfl).mp deep.starts
  refine ⟨?_, ?_, ?_⟩
  · rw [List.append_assoc, List.singleton_append]
    exact (isDeep_append_cons rfl).mpr starts
  · intro before behind split
    rcases List.append_eq_append_iff.mp split with ⟨between, atBefore, atLower⟩ |
      ⟨between, atUpper, atBehind⟩
    · exact below.later between behind atLower
    · cases between with
      | nil =>
          exact below.later [] behind (by rw [List.nil_append, ← List.nil_append lower, atBehind])
      | cons first between =>
          obtain ⟨rfl, rfl⟩ := List.cons.inj atBehind
          rcases deep.later before between atUpper with rfl | deepBetween
          · exact .inr below.starts
          · refine .inr ?_
            have held : between ≠ [] := by
              rintro rfl
              exact absurd (List.prefix_nil.mp deepBetween.1) (by decide)
            obtain ⟨inner, last, rfl⟩ := (List.eq_nil_or_concat between).resolve_left held
            rw [List.concat_eq_append] at atUpper deepBetween ⊢
            rw [← List.cons_append, ← List.append_assoc] at atUpper
            obtain rfl := (List.cons.inj (List.append_inj' atUpper rfl).2).1
            change IsDeep (inner ++ [lineFeed] ++ lower)
            rw [List.append_assoc, List.singleton_append]
            exact (isDeep_append_cons rfl).mpr ((isDeep_append_cons rfl).mp deepBetween)
  · rw [List.getLast?_append, below.last]
    rfl

theorem EndsLine.append (ends : EndsLine lower) (noBackslash : upper.getLast? ≠ some backslash) :
    EndsLine (upper ++ lower) := by
  obtain ⟨front, rfl, noLast⟩ := ends
  refine ⟨upper ++ front, (List.append_assoc _ _ _).symm, ?_⟩
  rw [List.getLast?_append]
  cases isLast : front.getLast? with
  | none => exact noBackslash
  | some last => exact fun same => noLast (isLast.trans same)

/-- Behind a line without a line break inside it nothing else begins. -/
theorem linesDeep_of_plain (plain : lineFeed ∉ line) : LinesDeep (line ++ [lineFeed]) := by
  intro before behind split
  rcases List.append_eq_append_iff.mp split with ⟨between, rfl, atEnd⟩ | ⟨between, rfl, atEnd⟩
  · cases between with
    | nil => exact .inl (List.cons.inj atEnd).2.symm
    | cons first between => exact absurd (List.cons.inj atEnd).2 (by simp)
  · cases between with
    | nil => exact .inl (List.cons.inj atEnd).2
    | cons first between =>
        obtain ⟨rfl, -⟩ := List.cons.inj atEnd
        exact (plain (List.mem_append_right _ List.mem_cons_self)).elim

/-- A line without a line break inside it is deep when it begins so. -/
theorem deepLines_of_plain (starts : IsDeep line) (plain : lineFeed ∉ line) :
    DeepLines (line ++ [lineFeed]) where
  starts := (isDeep_append_cons rfl).mpr starts
  later := linesDeep_of_plain plain
  last := List.getLast?_concat

end Script

/-- A part of a body: nothing, or whole lines that begin at least as deep as the body and are not
joined with the line behind them. -/
inductive BodyLines (written : Text) : Prop
  | nothing (empty : written = [])
  | lines (last : written.getLast? = some lineFeed) (deep : DeepLines (unifyLineEnds written))
      (ends : EndsLine (unifyLineEnds written))

namespace BodyLines

theorem nil : BodyLines [] := .nothing rfl

/-- Lines may be joined with the lines behind them where there are some. -/
theorem prepend (last : upper.getLast? = some lineFeed) (deep : DeepLines (unifyLineEnds upper))
    (below : BodyLines lower) (held : lower ≠ []) : BodyLines (upper ++ lower) := by
  rcases below with empty | ⟨lastBelow, deepBelow, ends⟩
  · exact (held empty).elim
  · obtain ⟨front, rfl⟩ := List.getLast?_eq_some_iff.mp last
    have both : unifyLineEnds (front ++ [lineFeed] ++ lower) =
        unifyLineEnds (front ++ [lineFeed]) ++ unifyLineEnds lower := by
      rw [List.append_assoc]
      exact unifyLineEnds_lineFeed held
    refine .lines ?_ ?_ ?_
    · rw [List.getLast?_append, lastBelow]
      rfl
    · rw [both]
      exact deep.append deepBelow
    · rw [both]
      refine ends.append ?_
      rw [deep.last]
      decide

/-- **Parts of a body one behind the other are a part of the body.** -/
theorem append (above : BodyLines upper) (below : BodyLines lower) : BodyLines (upper ++ lower) := by
  by_cases held : lower = []
  · rw [held, List.append_nil]
    exact above
  rcases above with rfl | ⟨last, deep, -⟩
  · exact below
  · exact below.prepend last deep held

theorem flatten {parts : List Text} (each : ∀ part ∈ parts, BodyLines part) :
    BodyLines parts.flatten := by
  induction parts with
  | nil => exact nil
  | cons first parts ih =>
      rw [List.forall_mem_cons] at each
      exact each.1.append (ih each.2)

end BodyLines

/-- A text without the code points that end lines or lead back to the margin. -/
def IsPlainLine (line : Text) : Prop :=
  lineFeed ∉ line ∧ carriageReturn ∉ line ∧ formFeed ∉ line

theorem IsPlainLine.append (plain : IsPlainLine front) (behind : IsPlainLine rest) :
    IsPlainLine (front ++ rest) := by
  unfold IsPlainLine at *
  simp only [List.mem_append, not_or]
  exact ⟨⟨plain.1, behind.1⟩, ⟨plain.2.1, behind.2.1⟩, ⟨plain.2.2, behind.2.2⟩⟩

instance (line : Text) : Decidable (IsPlainLine line) := inferInstanceAs (Decidable (_ ∧ _ ∧ _))

theorem indentAt_eq : indentAt depth = Text.spaces (4 * (depth + 1)) := by
  unfold indentAt indentStep Text.spaces
  rw [List.flatten_replicate_replicate, Nat.mul_comm]

theorem isPlainLine_spaces (width : Nat) : IsPlainLine (Text.spaces width) :=
  ⟨fun member => absurd (List.eq_of_mem_replicate member) (by decide),
    fun member => absurd (List.eq_of_mem_replicate member) (by decide),
    fun member => absurd (List.eq_of_mem_replicate member) (by decide)⟩

theorem isPlainLine_indentAt (depth : Nat) : IsPlainLine (indentAt depth) :=
  indentAt_eq ▸ isPlainLine_spaces _

theorem spaces_prefix_indentAt : Text.spaces 4 <+: indentAt depth := by
  rw [indentAt_eq]
  exact ⟨Text.spaces (4 * depth), by simp only [Text.spaces, List.replicate_append_replicate]; congr 1; omega⟩

theorem isDeep_indentAt (plain : formFeed ∉ line) : IsDeep (indentAt depth ++ line) := by
  refine ⟨spaces_prefix_indentAt.trans (List.prefix_append _ _), fun member => ?_⟩
  rcases List.mem_append.mp ((List.takeWhile_sublist _).mem member) with inMargin | inLine
  · exact (isPlainLine_indentAt depth).2.2 inMargin
  · exact plain inLine

/-- The end of a line is no backslash, whether the line holds anything or not. -/
theorem endsLine_bodyLine (noBackslash : line.getLast? ≠ some backslash) :
    EndsLine (bodyLine depth line) := by
  refine ⟨_, rfl, ?_⟩
  rw [List.getLast?_append]
  cases isLast : line.getLast? with
  | some last => exact fun same => noBackslash (isLast.trans same)
  | none =>
      rw [Option.none_or]
      intro same
      obtain ⟨front, split⟩ := List.getLast?_eq_some_iff.mp same
      have member : backslash ∈ indentAt depth := by
        rw [split]
        simp
      rw [indentAt_eq] at member
      exact absurd (List.eq_of_mem_replicate member) (by decide)

/-- A plain line is deep. -/
theorem deepLines_bodyLine (plain : IsPlainLine line) :
    DeepLines (unifyLineEnds (bodyLine depth line)) := by
  have whole := (isPlainLine_indentAt depth).append plain
  have same : unifyLineEnds (bodyLine depth line) = bodyLine depth line :=
    unifyLineEnds_append whole.2.1 (List.cons_ne_nil _ _)
  rw [same]
  exact deepLines_of_plain (isDeep_indentAt plain.2.2) whole.1

/-- Lines of the body stand below any plain line. -/
theorem BodyLines.cons (below : BodyLines lower) (held : lower ≠ []) (plain : IsPlainLine line) :
    BodyLines (bodyLine depth line ++ lower) :=
  below.prepend List.getLast?_concat (deepLines_bodyLine plain) held

theorem BodyLines.flatMap_append {lines : List Text} (below : BodyLines lower) (held : lower ≠ [])
    (plain : ∀ line ∈ lines, IsPlainLine line) :
    BodyLines (lines.flatMap (bodyLine depth) ++ lower) := by
  induction lines with
  | nil => exact below
  | cons first lines ih =>
      rw [List.forall_mem_cons] at plain
      rw [List.flatMap_cons, List.append_assoc]
      exact (ih plain.2).cons (List.append_ne_nil_of_right_ne_nil _ held) plain.1

theorem bodyLines_bodyLine (plain : IsPlainLine line) (noBackslash : line.getLast? ≠ some backslash) :
    BodyLines (bodyLine depth line) := by
  refine .lines List.getLast?_concat (deepLines_bodyLine plain) ?_
  have whole := (isPlainLine_indentAt depth).append plain
  have same : unifyLineEnds (bodyLine depth line) = bodyLine depth line :=
    unifyLineEnds_append whole.2.1 (List.cons_ne_nil _ _)
  rw [same]
  exact endsLine_bodyLine noBackslash

end Stencil
