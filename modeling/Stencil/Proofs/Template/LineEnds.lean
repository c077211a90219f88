import Stencil.Proofs.Source.Layout
import Stencil.Proofs.Source.LineTokens
import Stencil.Proofs.Template.Compilation

/-! # The line ends of a statement

A carriage return may stand in front of each line feed of a statement. The lines are written down
without it, but a blank line no longer counts as empty when the margin is measured: it cuts the
margin off where it ends. So the lines are the same when the blank lines reach as far as the margin
(`Stencil.BlankLinesReachMargin`), and otherwise they stand deeper. The open blocks are the same in
both cases (`Stencil.emit_withReturns`).
-/

namespace Stencil

open Script Source CodePoint Text

variable {deeper line other content body : Text} {lines others : List Text} {blocks : List OpenBlock}

namespace Text.Deepens

theorem strip_eq (deepens : Deepens deeper line) : strip deeper = strip line := by
  obtain ⟨gap, spacing, rfl⟩ := deepens
  have around := @strip_append_blanks line gap [] spacing.isBlank (fun _ none => nomatch none)
  rwa [List.append_nil] at around

theorem leadingWord_eq (deepens : Deepens deeper line) : leadingWord deeper = leadingWord line := by
  obtain ⟨gap, spacing, rfl⟩ := deepens
  have same : stripStart (gap ++ line) = stripStart line :=
    List.dropWhile_append_of_pos spacing.isBlank
  rw [leadingWord, leadingWord, same]

/-- The code of a deeper line is the deeper code. -/
theorem stripComment (deepens : Deepens deeper line) :
    Deepens (stripComment deeper) (stripComment line) := by
  obtain ⟨gap, spacing, rfl⟩ := deepens
  have plain : ∀ point ∈ gap, point ≠ hash ∧ isQuotationMark point = false :=
    fun point member => plain_of_isBlank (spacing.isBlank point member)
  unfold Source.stripComment
  rw [beforeComment_plain plain]
  cases beforeComment 0 line with
  | none => exact ⟨gap, spacing, rfl⟩
  | some code =>
      change Deepens (stripEnd (gap ++ code)) (stripEnd code)
      by_cases blank : ∀ point ∈ code, point.isBlank = true
      · have none {whole : Text} (blank : ∀ point ∈ whole, point.isBlank = true) :
            stripEnd whole = [] := @stripEnd_append_blanks [] whole blank
        rw [none blank, none (List.forall_mem_append.mpr ⟨spacing.isBlank, blank⟩)]
        exact .refl []
      · exact ⟨gap, spacing, stripEnd_append_of_held (mt strip_eq_nil_iff.mp blank)⟩

theorem endsIn_colon_eq (deepens : Deepens deeper line) :
    endsIn (text ":") deeper = endsIn (text ":") line := by
  obtain ⟨gap, spacing, rfl⟩ := deepens
  rw [Bool.eq_iff_iff, endsIn, endsIn, List.isSuffixOf_iff_suffix, List.isSuffixOf_iff_suffix]
  constructor
  · intro ends
    by_cases empty : line = []
    · rw [empty, List.append_nil] at ends
      have colon := spacing _ (ends.subset List.mem_cons_self)
      exact absurd colon (by decide)
    · exact List.suffix_of_suffix_length_le ends (List.suffix_append gap line)
        (List.length_pos_iff.mpr empty)
  · intro ends
    exact ends.trans (List.suffix_append _ _)

end Text.Deepens

theorem deepens_find? (deepens : List.Forall₂ Deepens others lines) :
    Deepens ((others.find? fun code => !(strip code).isEmpty).getD [])
      ((lines.find? fun code => !(strip code).isEmpty).getD []) := by
  induction deepens with
  | nil => exact .refl []
  | @cons deeper line _ _ first _ ih =>
      rw [List.find?_cons, List.find?_cons, first.strip_eq]
      cases (strip line).isEmpty with
      | true => exact ih
      | false => exact first

theorem deepens_lastCode (deepens : List.Forall₂ Deepens others lines) :
    Deepens (lastCode others) (lastCode lines) := by
  unfold lastCode
  apply deepens_find?
  rw [List.forall₂_map_left_iff, List.forall₂_map_right_iff]
  exact (List.rel_reverse deepens).imp fun _ _ first => first.stripComment

/-- Deeper lines open the same block. -/
theorem snd_emitLines_of_deepens (deepens : List.Forall₂ Deepens others lines) :
    (emitLines others blocks).2 = (emitLines lines blocks).2 := by
  have last := deepens_lastCode deepens
  unfold emitLines
  dsimp only
  rw [last.endsIn_colon_eq, last.leadingWord_eq, last.strip_eq]
  split
  · split <;> rfl
  · rfl

/-- Deeper lines leave the same blocks open, or they fail alike. -/
theorem snd_emitControl_of_deepens
    (deepens : List.Forall₂ Deepens (codeLines other) (codeLines content)) :
    (emitControl other blocks).map Prod.snd = (emitControl content blocks).map Prod.snd := by
  unfold emitControl
  generalize codeLines other = others at deepens
  generalize codeLines content = lines at deepens
  cases deepens with
  | nil => rfl
  | @cons deeper line _ _ first rest =>
      have same : leaveContinued deeper blocks = leaveContinued line blocks := by
        rw [leaveContinued, leaveContinued, first.leadingWord_eq, first.strip_eq]
      dsimp only
      rw [first.strip_eq, same]
      split
      · rfl
      · cases leaveContinued line blocks with
        | error fault => rfl
        | ok left => exact congrArg Except.ok (snd_emitLines_of_deepens (.cons first rest))

/-- A text with a carriage return in front of each of its line feeds. -/
def withReturns (whole : Text) : Text := substitute lineFeed [carriageReturn, lineFeed] whole

/-- Lines with a carriage return behind each of them but the last. -/
def returned : List Text → List Text
  | [] => []
  | [last] => [last]
  | line :: next :: rest => (line ++ [carriageReturn]) :: returned (next :: rest)

theorem splitOn_withReturns (whole : Text) :
    splitOn lineFeed (withReturns whole) = returned (splitOn lineFeed whole) := by
  induction whole with
  | nil => rfl
  | cons point rest ih =>
      obtain ⟨part, parts, split⟩ := exists_splitOn lineFeed rest
      rw [split] at ih
      by_cases isFeed : point = lineFeed
      · have begins : withReturns (point :: rest) =
            carriageReturn :: lineFeed :: withReturns rest := by
          rw [withReturns, substitute, List.flatMap_cons, if_pos isFeed]
          rfl
        have noFeed : carriageReturn ≠ lineFeed := by decide
        rw [begins, splitOn, if_neg noFeed, splitOn, if_pos rfl, ih, splitOn, if_pos isFeed, split]
        rfl
      · have begins : withReturns (point :: rest) = point :: withReturns rest := by
          rw [withReturns, substitute, List.flatMap_cons, if_neg isFeed]
          rfl
        rw [begins, splitOn, if_neg isFeed, ih, splitOn, if_neg isFeed, split]
        cases parts with
        | nil => rfl
        | cons next parts => rfl

/-- A carriage return behind a line is not written down. -/
theorem writtenLines_drop_return (line : Text) (removed : Nat) :
    writtenLines ((line ++ [carriageReturn]).drop removed) = writtenLines (line.drop removed) := by
  have empty : writtenLines [] = [] := rfl
  rw [List.drop_append]
  cases removed - line.length with
  | zero => rw [List.drop_zero, writtenLines_append_break rfl, empty, List.append_nil]
  | succ further => rw [List.drop_succ_cons, List.drop_nil, List.append_nil]

theorem flatMap_returned (lines : List Text) (removed : Nat) :
    ((returned lines).flatMap fun line => writtenLines (line.drop removed)) =
      lines.flatMap fun line => writtenLines (line.drop removed) := by
  induction lines using returned.induct with
  | case1 => rfl
  | case2 last => rfl
  | case3 line next rest ih =>
      rw [returned, List.flatMap_cons, List.flatMap_cons, ih, writtenLines_drop_return]

theorem forall_indentation_returned_iff {holds : Text → Prop} (lines : List Text) :
    (∀ line ∈ returned lines, ¬ IsSpacing line → holds (indentation line)) ↔
      (∀ line ∈ lines, ¬ IsSpacing line → holds (indentation line)) ∧
        ∀ line ∈ lines.dropLast, IsSpacing line → holds line := by
  induction lines using returned.induct with
  | case1 => simp [returned]
  | case2 last => simp [returned]
  | case3 line next rest ih =>
      have held : ¬ IsSpacing (line ++ [carriageReturn]) := by
        intro spacing
        exact absurd (spacing carriageReturn List.mem_concat_self) (by decide)
      have indented : holds (indentation (line ++ [carriageReturn])) ↔
          (¬ IsSpacing line → holds (indentation line)) ∧ (IsSpacing line → holds line) := by
        by_cases spacing : IsSpacing line
        · have none : indentation [carriageReturn] = [] := rfl
          rw [indentation_front spacing, none, List.append_nil]
          simp [spacing]
        · rw [indentation_append spacing]
          simp [spacing]
      rw [returned, List.forall_mem_cons, ih, indented, List.dropLast_cons_cons,
        @List.forall_mem_cons _ _ line (next :: rest),
        @List.forall_mem_cons _ _ line (next :: rest).dropLast]
      tauto

/-- Each blank line that another line follows is indented with the margin. -/
def BlankLinesReachMargin (body : Text) : Prop :=
  ∀ line ∈ (splitOn lineFeed body).dropLast, IsSpacing line → marginOf body <+: line

instance (body : Text) : Decidable (BlankLinesReachMargin body) :=
  inferInstanceAs (Decidable (∀ _ ∈ _, _))

/-- With carriage returns, a text begins the margin when it begins the margin without them and each
blank line that another line follows. -/
theorem prefix_marginOf_withReturns_iff {start : Text}
    (held : ∃ line ∈ splitOn lineFeed body, ¬ IsSpacing line) :
    start <+: marginOf (withReturns body) ↔ start <+: marginOf body ∧
      ∀ line ∈ (splitOn lineFeed body).dropLast, IsSpacing line → start <+: line := by
  have heldAlso : ∃ line ∈ splitOn lineFeed (withReturns body), ¬ IsSpacing line := by
    rw [splitOn_withReturns]
    by_contra none
    have each := (@forall_indentation_returned_iff (fun _ => False) (splitOn lineFeed body)).mp
      fun line isLine held => none ⟨line, isLine, held⟩
    obtain ⟨line, isLine, noSpacing⟩ := held
    exact each.1 line isLine noSpacing
  rw [prefix_marginOf_iff heldAlso, splitOn_withReturns, forall_indentation_returned_iff,
    prefix_marginOf_iff held]

theorem writtenLines_dedent_withReturns (body : Text) :
    writtenLines (dedent (withReturns body)) = (splitOn lineFeed body).flatMap fun line =>
      writtenLines (line.drop (marginOf (withReturns body)).length) := by
  rw [writtenLines_dedent, splitOn_withReturns, flatMap_returned]

/-- The lines stay when the margin does. -/
theorem writtenLines_dedent_withReturns_eq (reach : BlankLinesReachMargin body) :
    writtenLines (dedent (withReturns body)) = writtenLines (dedent body) := by
  rw [writtenLines_dedent_withReturns, writtenLines_dedent]
  by_cases held : ∃ line ∈ splitOn lineFeed body, ¬ IsSpacing line
  · have inside := ((prefix_marginOf_withReturns_iff held).mp List.prefix_rfl).1
    have around := (prefix_marginOf_withReturns_iff held).mpr ⟨List.prefix_rfl, reach⟩
    rw [inside.eq_of_length (inside.length_le.antisymm around.length_le)]
  · rw [flatMap_writtenLines_of_unheld _ held, flatMap_writtenLines_of_unheld _ held]

/-- Lines stand deeper with less of their margin off. -/
theorem deepens_flatMap_writtenLines {margin gap : Text} (spacing : IsSpacing gap)
    (indented : ∀ line ∈ lines, ¬ IsSpacing line → margin ++ gap <+: line) :
    List.Forall₂ Deepens (lines.flatMap fun line => writtenLines (line.drop margin.length))
      (lines.flatMap fun line => writtenLines (line.drop (margin ++ gap).length)) := by
  induction lines with
  | nil => exact .nil
  | cons line lines ih =>
      obtain ⟨first, indented⟩ := List.forall_mem_cons.mp indented
      rw [List.flatMap_cons, List.flatMap_cons]
      refine List.rel_append ?_ (ih indented)
      by_cases blank : IsSpacing line
      · rw [writtenLines_drop_of_spacing blank, writtenLines_drop_of_spacing blank]
        exact .nil
      · obtain ⟨rest, rfl⟩ := first blank
        rw [List.drop_left, List.append_assoc, List.drop_left]
        exact deepens_writtenLines rest spacing

/-- With carriage returns, the lines stand deeper or where they stood. -/
theorem deepens_withReturns (body : Text) :
    List.Forall₂ Deepens (writtenLines (dedent (withReturns body))) (writtenLines (dedent body)) := by
  rw [writtenLines_dedent_withReturns, writtenLines_dedent]
  by_cases held : ∃ line ∈ splitOn lineFeed body, ¬ IsSpacing line
  · obtain ⟨gap, split⟩ := ((prefix_marginOf_withReturns_iff held).mp List.prefix_rfl).1
    have indented : ∀ line ∈ splitOn lineFeed body, ¬ IsSpacing line →
        marginOf (withReturns body) ++ gap <+: line := by
      intro line isLine noSpacing
      rw [split]
      exact (marginOf_prefix_indentation isLine noSpacing).trans (List.takeWhile_prefix _)
    have spacing : IsSpacing gap := by
      obtain ⟨line, isLine, noSpacing⟩ := held
      intro point member
      have inMargin : point ∈ marginOf body := split ▸ List.mem_append_right _ member
      exact List.mem_takeWhile_imp ((marginOf_prefix_indentation isLine noSpacing).subset inMargin)
    rw [← split]
    exact deepens_flatMap_writtenLines spacing indented
  · rw [flatMap_writtenLines_of_unheld _ held, flatMap_writtenLines_of_unheld _ held]
    exact .nil

/-- **Line ends decide nothing but how deep the lines stand.** In any state of the generator, a
statement with a carriage return in front of each of its line feeds leaves the state that the
statement leaves without them, or it fails alike; and the fragment is the same as well when each
blank line reaches as far as the margin. -/
theorem emit_withReturns (body : Text) (generator : Generator) (offset place : Nat) :
    (generator.emit ⟨.control, normalize (withReturns body), place⟩).map Prod.snd =
        (generator.emit ⟨.control, normalize body, offset⟩).map Prod.snd ∧
      (BlankLinesReachMargin body →
        generator.emit ⟨.control, normalize (withReturns body), place⟩ =
          generator.emit ⟨.control, normalize body, offset⟩) := by
  have deepens := deepens_withReturns body
  rw [← codeLines_normalize, ← codeLines_normalize] at deepens
  have same := @snd_emitControl_of_deepens _ _ generator.blocks deepens
  constructor
  · unfold Generator.emit Source.emit
    dsimp only
    generalize emitControl (normalize (withReturns body)) generator.blocks = moved at same
    generalize emitControl (normalize body) generator.blocks = plain at same
    rcases moved with fault | ⟨fragment, after⟩
    · rcases plain with plainFault | ⟨plainFragment, plainAfter⟩
      · cases same
        rfl
      · cases same
    · rcases plain with plainFault | ⟨plainFragment, plainAfter⟩
      · cases same
      · cases same
        rfl
  · intro reach
    exact emit_congr (writtenLines_dedent_withReturns_eq reach) generator offset place

theorem emit_withReturns_paragraphs :
    BlankLinesReachMargin (text "    if x:\n      \n        y = 1\n") ∧
      (Generator.start.emit
        ⟨.control, normalize (withReturns (text "    if x:\n      \n        y = 1\n")), 0⟩).map
        Prod.fst = .ok (text "    if x:\n        y = 1\n") := by
  have reach : BlankLinesReachMargin (text "    if x:\n      \n        y = 1\n") := by decide
  refine ⟨reach, ?_⟩
  rw [(emit_withReturns _ Generator.start 0 0).2 reach]
  decide

/-- An empty line in front of a statement takes its margin away when a carriage return stands in it.
Then the statement stands too deep, and its template is not compiled. -/
theorem not_compile_withReturns :
    (Generator.start.emit ⟨.control, normalize (text "\n    x = 1\n"), 0⟩).map Prod.fst =
      .ok (text "    x = 1\n") ∧
    (Generator.start.emit ⟨.control, normalize (withReturns (text "\n    x = 1\n")), 0⟩).map
      Prod.fst = .ok (text "        x = 1\n") ∧
    (∃ compiled, compile .standard none (text "<%\n    x = 1\n%>") = .ok compiled) ∧
    ∀ compiled, compile .standard none (withReturns (text "<%\n    x = 1\n%>")) ≠ .ok compiled := by
  let plain : List Token := [⟨.control, text "\\n    x = 1\\n", 0⟩]
  let returning : List Token := [⟨.control, text "\\r\\n    x = 1\\r\\n", 0⟩]
  refine ⟨by decide, by decide, ?_, ?_⟩
  · have tokenized : tokenize .standard none (normalize (text "<%\n    x = 1\n%>")) = .ok plain := by
      cbv
    have emitted : Generator.start.emitAll plain = .ok ([text "    x = 1\n"], ⟨[], []⟩) := by rfl
    obtain ⟨compiled, isCompiled, -⟩ :=
      exists_compile_of_unread tokenized emitted (by decide +kernel) (by decide +kernel)
    exact ⟨compiled, isCompiled⟩
  · have tokenized : tokenize .standard none (normalize (withReturns (text "<%\n    x = 1\n%>"))) =
        .ok returning := by cbv
    have emitted : Generator.start.emitAll returning = .ok ([text "        x = 1\n"], ⟨[], []⟩) := by
      rfl
    exact compile_ne_ok_of_unread tokenized emitted (by decide +kernel)

end Stencil
