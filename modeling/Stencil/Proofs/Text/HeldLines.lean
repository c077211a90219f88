import Mathlib.Data.List.Infix
import Stencil.Proofs.Text.Lines
import Stencil.Proofs.Text.Strip

/-! # The margin of a text and the lines that hold anything

The margin is the greatest common beginning of the indentations: a text is a beginning of the margin
just when each line that holds anything is indented with it (`Stencil.Text.prefix_margin_iff`). So a
margin is known by its beginnings, and no argument has to follow how it is found.

A line counts with nothing but what stands between the blanks at its ends, and only when that is
something (`Stencil.Text.heldLines`). So such lines can be read part by part
(`Stencil.Text.heldLines_append_break`), and taking the margin off a text changes none of them
(`Stencil.Text.heldLines_dedent`).
-/

namespace Stencil.Text

open CodePoint

variable {whole front rest line left right start : Text} {lines : List Text}
  {point stop : CodePoint}

theorem prefix_commonStart_iff {left right : Text} :
    start <+: commonStart left right ↔ start <+: left ∧ start <+: right := by
  induction left, right using commonStart.induct generalizing start with
  | case1 point lefts rights ih =>
      rw [commonStart, if_pos rfl]
      cases start with
      | nil => simp
      | cons first start => simp only [List.cons_prefix_cons, ih]; tauto
  | case2 left lefts right rights differs =>
      rw [commonStart, if_neg differs]
      cases start with
      | nil => simp
      | cons first start =>
          simp only [List.prefix_nil, List.cons_ne_nil, List.cons_prefix_cons, false_iff, not_and]
          rintro ⟨rfl, -⟩ rfl
          exact (differs rfl).elim
  | case3 left right other =>
      rw [commonStart.eq_2 _ _ other]
      cases start with
      | nil => simp
      | cons first start =>
          simp only [List.prefix_nil, List.cons_ne_nil, false_iff, not_and]
          intro isLeft isRight
          obtain ⟨lefts, rfl⟩ := isLeft
          obtain ⟨rights, rfl⟩ := isRight
          exact other _ _ _ _ rfl rfl

theorem prefix_foldl_commonStart_iff {first : Text} {rest : List Text} :
    start <+: rest.foldl commonStart first ↔ start <+: first ∧ ∀ other ∈ rest, start <+: other := by
  induction rest generalizing first with
  | nil => simp
  | cons next rest ih =>
      rw [List.foldl_cons, ih, prefix_commonStart_iff, List.forall_mem_cons, and_assoc]

/-- **The margin is the greatest common beginning of the indentations.** -/
theorem prefix_margin_iff (held : ∃ line ∈ lines, line ≠ []) :
    start <+: margin lines ↔ ∀ line ∈ lines, line ≠ [] → start <+: indentation line := by
  have indented : (∀ other ∈ (lines.filter (!·.isEmpty)).map indentation, start <+: other) ↔
      ∀ line ∈ lines, line ≠ [] → start <+: indentation line := by
    simp only [List.mem_map, List.mem_filter, Bool.not_eq_true', List.isEmpty_eq_false_iff]
    constructor
    · intro each line isLine held
      exact each _ ⟨line, ⟨isLine, held⟩, rfl⟩
    · rintro each _ ⟨line, ⟨isLine, held⟩, rfl⟩
      exact each line isLine held
  rw [← indented, margin]
  cases indentations : (lines.filter (!·.isEmpty)).map indentation with
  | nil =>
      obtain ⟨line, isLine, held⟩ := held
      simp only [List.map_eq_nil_iff, List.filter_eq_nil_iff, Bool.not_eq_true', Bool.not_eq_false,
        List.isEmpty_iff] at indentations
      exact (held (indentations line isLine)).elim
  | cons first rest => rw [prefix_foldl_commonStart_iff, List.forall_mem_cons]

/-- Each line that holds anything is indented with the margin. -/
theorem margin_prefix_indentation (isLine : line ∈ lines) (held : line ≠ []) :
    margin lines <+: indentation line :=
  (prefix_margin_iff ⟨line, isLine, held⟩).mp List.prefix_rfl line isLine held

/-- Those of some lines that hold anything, without the blanks at their ends. -/
def heldOf (lines : List Text) : List Text := (lines.map strip).filter fun line => !line.isEmpty

/-- The lines of a text that hold anything, without the blanks at their ends. -/
def heldLines (whole : Text) : List Text := heldOf (splitLines whole)

theorem heldOf_append (upper lower : List Text) :
    heldOf (upper ++ lower) = heldOf upper ++ heldOf lower := by
  simp only [heldOf, List.map_append, List.filter_append]

/-- Lines from which a cut differs by empty lines only, behind the first line, are those of the cut
that are not empty. -/
theorem filter_eq_of_cut {keep : Text → Bool} (noEmpty : keep [] = false) {cut : List Text}
    (isCut : ∃ others, cut = lines.headD [] :: others ∧
      others.filter keep = lines.tail.filter keep) : cut.filter keep = lines.filter keep := by
  obtain ⟨others, rfl, same⟩ := isCut
  cases lines with
  | nil => rwa [List.headD_nil, List.filter_cons_of_neg (by simp [noEmpty])]
  | cons first lines =>
      rw [List.headD_cons, List.filter_cons, List.filter_cons, same]
      rfl

/-- Cutting a text at each of its breaks gives its lines, and empty ones between them. -/
theorem exists_splitOnP {keep : Text → Bool} (noEmpty : keep [] = false) (whole : Text) :
    ∃ others, whole.splitOnP isLineBreak = (splitLines whole).headD [] :: others ∧
      others.filter keep = (splitLines whole).tail.filter keep := by
  induction whole using splitLines.induct with
  | case1 => exact ⟨[], rfl, rfl⟩
  | case2 rest ih =>
      have isReturn : isLineBreak carriageReturn = true := rfl
      have isFeed : isLineBreak lineFeed = true := rfl
      rw [splitLines, List.splitOnP_cons_eq_if_modifyHead, if_pos isReturn,
        List.splitOnP_cons_eq_if_modifyHead, if_pos isFeed]
      refine ⟨_, rfl, ?_⟩
      rw [List.filter_cons_of_neg (by simp [noEmpty])]
      exact filter_eq_of_cut noEmpty ih
  | case3 point rest noPair breaks ih =>
      rw [splitLines.eq_3 _ _ noPair, if_pos breaks, List.splitOnP_cons_eq_if_modifyHead,
        if_pos breaks]
      exact ⟨_, rfl, filter_eq_of_cut noEmpty ih⟩
  | case4 point rest noPair plain none ih =>
      obtain ⟨others, isCut, same⟩ := ih
      rw [none] at isCut same
      rw [splitLines.eq_3 _ _ noPair, if_neg plain, none, List.splitOnP_cons_eq_if_modifyHead,
        if_neg plain, isCut]
      exact ⟨others, rfl, same⟩
  | case5 point rest noPair plain first lines split ih =>
      obtain ⟨others, isCut, same⟩ := ih
      rw [split] at isCut same
      rw [splitLines.eq_3 _ _ noPair, if_neg plain, split, List.splitOnP_cons_eq_if_modifyHead,
        if_neg plain, isCut]
      exact ⟨others, rfl, same⟩

/-- Where empty lines do not count, a text may be cut at each of its breaks. -/
theorem filter_splitLines {keep : Text → Bool} (noEmpty : keep [] = false) (whole : Text) :
    (splitLines whole).filter keep = (whole.splitOnP isLineBreak).filter keep :=
  (filter_eq_of_cut noEmpty (exists_splitOnP noEmpty whole)).symm

/-- Where only lines that hold anything count, a text may be cut at each of its breaks. -/
theorem heldLines_eq_splitOnP (whole : Text) :
    heldLines whole = heldOf (whole.splitOnP isLineBreak) := by
  unfold heldLines heldOf
  rw [List.filter_map, List.filter_map, filter_splitLines rfl]

/-- **The lines of a text are those on the two sides of a break.** -/
theorem heldLines_append_break (breaks : stop.isLineBreak = true) :
    heldLines (front ++ stop :: rest) = heldLines front ++ heldLines rest := by
  rw [heldLines_eq_splitOnP, heldLines_eq_splitOnP, heldLines_eq_splitOnP,
    List.splitOnP_append_cons _ _ breaks, heldOf_append]

theorem strip_cons (blank : point.isBlank = true) : strip (point :: rest) = strip rest := by
  unfold strip stripStart
  rw [List.dropWhile_cons_of_pos blank]

/-- Blanks in front of a text do not count. -/
theorem heldLines_append_blanks (blank : ∀ point ∈ front, point.isBlank = true) :
    heldLines (front ++ rest) = heldLines rest := by
  induction front with
  | nil => rfl
  | cons point front ih =>
      obtain ⟨isBlank, blank⟩ := List.forall_mem_cons.mp blank
      rw [← ih blank, List.cons_append, heldLines_eq_splitOnP, heldLines_eq_splitOnP,
        List.splitOnP_cons_eq_if_modifyHead]
      obtain ⟨first, others, split⟩ :=
        List.exists_cons_of_ne_nil (List.splitOnP_ne_nil isLineBreak (front ++ rest))
      rw [split]
      split
      · rfl
      · simp only [List.modifyHead_cons, heldOf, List.map_cons, strip_cons isBlank]

theorem heldLines_of_blank (blank : ∀ point ∈ whole, point.isBlank = true) :
    heldLines whole = [] := by
  rw [← List.append_nil whole, heldLines_append_blanks blank]
  rfl

/-- A line that holds anything is the only one of its own text. -/
theorem heldLines_of_plain (plain : ∀ point ∈ line, point.isLineBreak = false) :
    heldLines line = heldOf [line] := by
  rw [heldLines_eq_splitOnP, List.splitOnP_eq_singleton plain]

/-- The lines of a text hold what its lines hold one by one. -/
theorem heldLines_flatMap {written : Text → Text}
    (each : ∀ line ∈ lines, ∀ rest, heldLines (written line ++ rest) = heldOf [line] ++ heldLines rest) :
    heldLines (lines.flatMap written ++ rest) = heldOf lines ++ heldLines rest := by
  induction lines with
  | nil => rfl
  | cons line lines ih =>
      obtain ⟨first, each⟩ := List.forall_mem_cons.mp each
      rw [List.flatMap_cons, List.append_assoc, first, ih each, ← List.append_assoc,
        ← heldOf_append, List.singleton_append]

/-- What is read on the two sides of each line feed is read from the parts between them. -/
theorem read_join {read : Text → List Text} (empty : read [] = [])
    (breaks : ∀ front rest, read (front ++ lineFeed :: rest) = read front ++ read rest)
    (lines : List Text) : read (join [lineFeed] lines) = lines.flatMap read := by
  induction lines with
  | nil => exact empty
  | cons line lines ih =>
      cases lines with
      | nil => rw [List.flatMap_singleton, join]
      | cons next lines =>
          rw [join.eq_3 _ _ _ (List.cons_ne_nil _ _), List.append_assoc, List.singleton_append,
            breaks, ih]
          rfl

/-- Parts of a text with a line feed between them are its lines. -/
theorem heldLines_join (lines : List Text) :
    heldLines (join [lineFeed] lines) = lines.flatMap heldLines :=
  read_join rfl (fun _ _ => heldLines_append_break rfl) lines

/-- A line holds the same without its margin. -/
theorem heldLines_drop_margin (isLine : line ∈ (splitOn lineFeed whole)) :
    heldLines ((clearIfBlank line).drop
      (margin ((splitOn lineFeed whole).map clearIfBlank)).length) = heldLines line := by
  by_cases blank : line.all isSpaceOrTab = true
  · have cleared : clearIfBlank line = [] := if_pos blank
    rw [cleared, List.drop_nil, @heldLines_of_blank line fun point member =>
      isBlank_of_isSpaceOrTab (List.all_eq_true.mp blank point member)]
    rfl
  · have kept : clearIfBlank line = line := if_neg blank
    have held : line ≠ [] := by rintro rfl; exact blank rfl
    have short := (margin_prefix_indentation (List.mem_map_of_mem isLine) (kept.symm ▸ held)).length_le
    rw [kept] at short ⊢
    generalize (margin ((splitOn lineFeed whole).map clearIfBlank)).length = removed at short
    conv_rhs => rw [← List.take_append_drop removed line]
    refine (heldLines_append_blanks fun point member => ?_).symm
    have inMargin : line.take removed <+: indentation line :=
      List.prefix_of_prefix_length_le (List.take_prefix _ _) (List.takeWhile_prefix _)
        (by rw [List.length_take]; omega)
    exact isBlank_of_isSpaceOrTab (List.mem_takeWhile_imp (inMargin.sublist.mem member))

/-- **Taking the margin off a text changes none of its lines.** -/
theorem heldLines_dedent (whole : Text) : heldLines (dedent whole) = heldLines whole := by
  conv_rhs => rw [← join_splitOn lineFeed whole]
  rw [dedent, heldLines_join, heldLines_join, List.map_map, List.flatMap_map]
  refine List.flatMap_congr fun line isLine => ?_
  exact heldLines_drop_margin isLine

end Stencil.Text
