import Stencil.Proofs.Script.Laid
import Stencil.Proofs.Script.LexemeExtent
import Stencil.Proofs.Script.Outline

/-! # The lines of a body

Lines that all stand deeper than the header of a function leave none of the blocks that the
function is in, whatever they hold. Where they end without an open bracket, an open string or a
backslash, what stands behind them is scanned as a line of its own
(`Stencil.Script.exists_lexemesFrom_eq`).
-/

namespace Stencil.Script

open CodePoint

/-- A line begins at least as deep as the body of a function. -/
def IsDeep (rest : Text) : Prop :=
  Text.spaces 4 <+: rest ∧ formFeed ∉ rest.takeWhile isInnerBlank

/-- All lines of a text behind the first one begin at least as deep as the body of a function. -/
def LinesDeep (rest : Text) : Prop :=
  ∀ front behind, rest = front ++ lineFeed :: behind → behind = [] ∨ IsDeep behind

variable {lines behind rest : Text} {margin found : Margin} {point : CodePoint} {count : Nat}

theorem LinesDeep.of_append {front : Text} (deep : LinesDeep (front ++ rest)) : LinesDeep rest := by
  rintro before behind rfl
  exact deep (front ++ before) behind (List.append_assoc _ _ _).symm

theorem LinesDeep.tail (deep : LinesDeep (point :: rest)) : LinesDeep rest := by
  rw [← List.singleton_append] at deep
  exact deep.of_append

/-- A blank that is no form feed does not lead back towards the margin. -/
theorem le_wide_of_advance? {column next : Column} (advances : column.advance? point = some next)
    (noFeed : point ≠ formFeed) : column.wide ≤ next.wide := by
  unfold Column.advance? at advances
  split at advances
  · cases advances
    exact Nat.le_succ _
  split at advances
  · cases advances
    dsimp only
    omega
  · cases advances

/-- The columns of a margin are deep. -/
structure Margin.IsDeep (margin : Margin) : Prop where
  column : 4 ≤ margin.column.wide
  joined : ∀ column ∈ margin.joined, 4 ≤ column.wide

theorem Margin.IsDeep.effective (deep : margin.IsDeep) : 4 ≤ margin.effective.wide := by
  unfold Margin.effective
  cases joined : margin.joined with
  | none => exact deep.column
  | some column => exact deep.joined column joined

theorem Margin.IsDeep.measureFrom (deep : margin.IsDeep) (lines : LinesDeep rest)
    (noFeed : formFeed ∉ rest.takeWhile isInnerBlank)
    (measured : margin.measureFrom rest = some found) : found.IsDeep := by
  have step : ∀ {margin : Margin} {point : CodePoint} {next : Column} {behind : Text},
      margin.IsDeep → formFeed ∉ (point :: behind).takeWhile isInnerBlank →
      margin.column.advance? point = some next →
      (Margin.mk next margin.joined (margin.length + 1)).IsDeep ∧
        formFeed ∉ behind.takeWhile isInnerBlank := by
    intro margin point next behind deep noFeed advances
    rw [List.takeWhile_cons_of_pos (isInnerBlank_of_advance? advances), List.mem_cons,
      not_or] at noFeed
    exact ⟨⟨Nat.le_trans deep.column (le_wide_of_advance? advances (Ne.symm noFeed.1)),
      deep.joined⟩, noFeed.2⟩
  fun_induction Margin.measureFrom margin rest with
  | case1 margin => cases measured; exact deep
  | case2 margin point next advances =>
      cases measured
      exact (step deep noFeed advances).1
  | case3 => cases measured
  | case4 => cases measured; exact deep
  | case5 margin point next rest column advances ih =>
      obtain ⟨deepNext, noFeedNext⟩ := step deep noFeed advances
      exact ih deepNext lines.tail noFeedNext measured
  | case6 margin next rest isJoin kept _ ih =>
      rw [Bool.and_eq_true, decide_eq_true_eq, Bool.not_eq_true', List.isEmpty_eq_false_iff] at isJoin
      obtain ⟨rfl, held⟩ := isJoin
      rcases lines [backslash] rest rfl with empty | deepRest
      · exact (held empty).elim
      · refine ih ⟨deep.column, ?_⟩ lines.tail.tail deepRest.2 measured
        intro column isKept
        dsimp only [kept] at isKept
        split at isKept
        · next earlier joined =>
            cases isKept
            exact deep.joined _ joined
        · split at isKept
          · cases isKept
          · cases isKept
            exact deep.column
  | case7 => cases measured
  | case8 => cases measured; exact deep

/-- A deep line has a deep margin. -/
theorem IsDeep.measureFrom (deep : IsDeep rest) (lines : LinesDeep rest)
    (measured : Margin.start.measureFrom rest = some found) : found.IsDeep := by
  obtain ⟨⟨behind, rfl⟩, noFeed⟩ := deep
  have spaces : Text.spaces 4 ++ behind = space :: space :: space :: space :: behind := rfl
  rw [spaces] at lines noFeed measured
  simp only [measureFrom_space] at measured
  have deepMargin : Margin.IsDeep ⟨⟨4, 4⟩, none, 4⟩ :=
    ⟨Nat.le_refl 4, fun _ isJoined => nomatch isJoined⟩
  refine deepMargin.measureFrom lines.tail.tail.tail.tail (fun member => noFeed ?_) measured
  iterate 4 rw [List.takeWhile_cons_of_pos (by rfl)]
  iterate 4 refine List.mem_cons_of_mem _ ?_
  exact member

/-- A margin ends before the line feed at the end. -/
theorem EndsLine.lt_of_measureFrom : ∀ {lines : Text} {margin : Margin}, EndsLine lines →
    margin.measureFrom (lines ++ behind) = some found →
      margin.length ≤ found.length ∧ found.length < margin.length + lines.length
  | [], _, ends, _ => (ends.ne_nil rfl).elim
  | [point], margin, ends, measured => by
      obtain rfl := ends.eq_of_singleton
      have noBlank : margin.column.advance? lineFeed = none := rfl
      have notBackslash : lineFeed ≠ backslash := by decide
      have same : margin = found := by
        cases behind with
        | nil => simpa [Margin.measureFrom, noBlank, notBackslash] using measured
        | cons next rest => simpa [Margin.measureFrom, noBlank, notBackslash] using measured
      subst same
      exact ⟨Nat.le_refl _, Nat.lt_succ_self _⟩
  | point :: next :: lines, margin, ends, measured => by
      have endsNext : EndsLine (next :: lines) := ends.tail (List.cons_ne_nil _ _)
      rw [List.cons_append, List.cons_append, Margin.measureFrom] at measured
      simp only [List.length_cons]
      split at measured
      · have bounds := lt_of_measureFrom endsNext measured
        simp only [List.length_cons] at bounds
        omega
      split at measured
      · next isBackslash =>
          split at measured
          · subst isBackslash
            have bounds := lt_of_measureFrom (endsNext.tail ends.ne_nil_behind_backslash) measured
            dsimp only at bounds
            omega
          · cases measured
      · cases measured
        omega

/-- The blocks inside the body of a function are deeper than the body. -/
def AllDeeper (inner : List Column) : Prop := ∀ column ∈ inner, 4 < column.wide

variable {inner remaining blocks : List Column} {column : Column} {changes : List Lexeme}
  {left : Nat}

/-- A deep line leaves blocks inside the body only. -/
theorem exists_of_leaveBlocks (deep : 4 ≤ column.wide)
    (found : leaveBlocks column (inner ++ levelStack 1) = some (left, remaining)) :
    ∃ outer kept, inner = outer ++ kept ∧ outer.length = left ∧
      remaining = kept ++ levelStack 1 := by
  induction inner generalizing left with
  | nil =>
      have shallow : ¬ column.wide < 4 * 1 := by omega
      rw [List.nil_append, levelStack, leaveBlocks] at found
      dsimp only at found
      rw [if_neg shallow] at found
      split at found
      · cases found
        exact ⟨[], [], rfl, rfl, rfl⟩
      · cases found
  | cons innermost inner ih =>
      rw [List.cons_append, leaveBlocks] at found
      split at found
      · obtain ⟨⟨count, others⟩, deeper, same⟩ := Option.map_eq_some_iff.mp found
        cases same
        obtain ⟨outer, kept, rfl, rfl, rfl⟩ := ih deeper
        exact ⟨innermost :: outer, kept, rfl, rfl, rfl⟩
      split at found
      · cases found
        exact ⟨[], innermost :: inner, rfl, rfl, rfl⟩
      · cases found

theorem level_replicate_dedent (outer depth : Nat) :
    level (outer + depth) (List.replicate outer .dedent) = some depth := by
  induction outer with
  | zero => rw [Nat.zero_add]; cases depth <;> rfl
  | succ outer ih => rw [Nat.succ_add, List.replicate_succ]; exact ih

/-- A deep line changes blocks inside the body only. -/
theorem exists_of_changeBlocks (deep : 4 ≤ column.wide) (deeper : AllDeeper inner)
    (changed : changeBlocks column (inner ++ levelStack 1) = some (changes, blocks)) :
    ∃ kept, blocks = kept ++ levelStack 1 ∧ AllDeeper kept ∧
      level inner.length changes = some kept.length := by
  unfold changeBlocks at changed
  split at changed
  · cases changed
  · next innermost outer split =>
      split at changed
      · next enters =>
          split at changed
          · cases changed
            refine ⟨column :: inner, by rw [List.cons_append, split], ?_, ?_⟩
            · refine List.forall_mem_cons.mpr ⟨Nat.lt_of_le_of_lt ?_ enters, deeper⟩
              cases inner with
              | nil => cases split; exact Nat.le_refl _
              | cons first inner =>
                  cases split
                  exact Nat.le_of_lt (deeper _ List.mem_cons_self)
            · rw [level_indent, List.length_cons]
              cases inner.length <;> rfl
          · cases changed
      · obtain ⟨⟨left, others⟩, leaves, same⟩ := Option.map_eq_some_iff.mp changed
        cases same
        obtain ⟨gone, kept, rfl, rfl, rfl⟩ := exists_of_leaveBlocks deep leaves
        refine ⟨kept, rfl, fun column member => deeper column (List.mem_append_right _ member), ?_⟩
        rw [List.length_append, level_replicate_dedent]

/-- What a step of the scanner leaves of some lines. -/
structure LeavesOf (behind lines after : Text) (step : LexemeStep) (left : Text) : Prop where
  rest_eq : after.drop step.extra = left ++ behind
  shorter : left.length < lines.length
  ends : left = [] ∨ EndsLine left
  starts : ∃ taken, lines = taken ++ left ∧ (step.atLineStart = true → taken.getLast? = some lineFeed)
  isOpen : left = [] → step.atLineStart = true ∨ step.awaited ≠ []

variable {awaited : List Symbol} {step : LexemeStep} {after : Text}

/-- A step inside the lines that ends before their last line feed. -/
theorem leavesOf_drop (ends : EndsLine lines) (whole : lines ++ behind = point :: after)
    (inside : step.atLineStart = false) (lt : step.extra + 1 < lines.length) :
    LeavesOf behind lines after step (lines.drop (step.extra + 1)) where
  rest_eq := by
    have dropped := congrArg (List.drop (step.extra + 1)) whole
    rw [List.drop_append_of_le_length (Nat.le_of_lt lt), List.drop_succ_cons] at dropped
    exact dropped.symm
  shorter := by
    rw [List.length_drop]
    omega
  ends := .inr (ends.drop lt)
  starts := ⟨lines.take (step.extra + 1), (List.take_append_drop _ _).symm,
    fun starts => nomatch inside.symm.trans starts⟩
  isOpen := fun empty => by
    have none := congrArg List.length empty
    rw [List.length_drop, List.length_nil] at none
    omega

/-- A line feed ends the line. -/
theorem leavesOf_lineFeed (ends : EndsLine (lineFeed :: lines)) (same : after = lines ++ behind)
    (single : step.extra = 0) (isOpen : step.atLineStart = true ∨ step.awaited ≠ []) :
    LeavesOf behind (lineFeed :: lines) after step lines where
  rest_eq := by rw [single, same, List.drop_zero]
  shorter := Nat.lt_succ_self _
  ends := by
    by_cases held : lines = []
    · exact .inl held
    · exact .inr (ends.tail held)
  starts := ⟨[lineFeed], rfl, fun _ => rfl⟩
  isOpen := fun _ => isOpen

/-- A comment ends before the line feed at the end. -/
theorem EndsLine.lt_of_takeWhile (ends : EndsLine lines) :
    ((lines ++ behind).takeWhile (· ≠ lineFeed)).length < lines.length := by
  refine @EndsLine.lt_of_notMem _ lines behind ends fun member => ?_
  rw [← List.prefix_iff_eq_take.mp (List.takeWhile_prefix _)] at member
  have differs := List.all_eq_true.mp List.all_takeWhile lineFeed member
  rw [decide_eq_true_eq] at differs
  exact differs rfl

/-- More than one code point is left where the first one is no line feed. -/
theorem EndsLine.one_lt_length (ends : EndsLine (point :: lines)) (differs : point ≠ lineFeed) :
    1 < (point :: lines).length := by
  cases lines with
  | nil => exact (differs ends.eq_of_singleton).elim
  | cons => exact Nat.succ_lt_succ (Nat.succ_pos _)

/-- What a step inside a line finds. -/
structure FindsInLine (blocks : List Column) (step : LexemeStep) : Prop where
  blocks_eq : step.blocks = blocks
  finds : (step.atLineStart = false ∧ Inline step.lexemes) ∨
    (step.atLineStart = true ∧ step.lexemes = [.lineEnd] ∧ step.awaited = [])

theorem exists_of_stepInLine (ends : EndsLine lines)
    (noLong : ∀ mark, isQuotationMark mark = true → bodyLength mark true behind = none)
    (whole : lines ++ behind = point :: after)
    (stepped : stepInLine blocks awaited point after = some step) :
    ∃ left, LeavesOf behind lines after step left ∧ FindsInLine blocks step := by
  obtain ⟨first, others, rfl⟩ := List.exists_cons_of_ne_nil ends.ne_nil
  obtain ⟨rfl, rfl⟩ := List.cons.inj whole
  unfold stepInLine at stepped
  split at stepped
  · next isBlank =>
      cases stepped
      have differs : first ≠ lineFeed := by
        rintro rfl
        cases isBlank
      exact ⟨_, leavesOf_drop ends rfl rfl (ends.one_lt_length differs), rfl, .inl ⟨rfl, inline_nil⟩⟩
  split at stepped
  · next isHash =>
      cases stepped
      subst isHash
      have longer := ends.one_lt_length (by decide)
      have held : others ≠ [] := by
        rintro rfl
        exact (Nat.lt_irrefl 1 longer).elim
      have lt : ((others ++ behind).takeWhile (· ≠ lineFeed)).length < others.length :=
        (ends.tail held).lt_of_takeWhile
      exact ⟨_, leavesOf_drop ends rfl rfl (Nat.succ_lt_succ lt), rfl, .inl ⟨rfl, inline_nil⟩⟩
  split at stepped
  · next isFeed =>
      subst isFeed
      split at stepped
      · next isEmpty =>
          cases stepped
          exact ⟨others, leavesOf_lineFeed ends rfl rfl (.inl rfl), rfl,
            .inr ⟨rfl, rfl, List.isEmpty_iff.mp isEmpty⟩⟩
      · next isOpen =>
          cases stepped
          rw [List.isEmpty_iff] at isOpen
          exact ⟨others, leavesOf_lineFeed ends rfl rfl (.inr isOpen), rfl, .inl ⟨rfl, inline_nil⟩⟩
  split at stepped
  · next isBackslash =>
      subst isBackslash
      split at stepped
      · next second third rest split =>
          cases stepped
          cases others with
          | nil => cases ends.eq_of_singleton
          | cons next others =>
              have held := List.length_pos_iff.mpr ends.ne_nil_behind_backslash
              refine ⟨_, leavesOf_drop ends rfl rfl ?_, rfl, .inl ⟨rfl, inline_nil⟩⟩
              simp only [List.length_cons]
              omega
      · cases stepped
  next notFeed notBackslash =>
  obtain ⟨⟨lexeme, length⟩, read, stepped⟩ := Option.bind_eq_some_iff.mp stepped
  obtain ⟨awaitedAfter, tracked, stepped⟩ := Option.bind_eq_some_iff.mp stepped
  cases stepped
  have lt := ends.lt_of_readLexeme noLong read
  have longer := ends.one_lt_length notFeed
  refine ⟨_, leavesOf_drop ends rfl rfl ?_, rfl, .inl ⟨rfl, ?_⟩⟩
  · dsimp only
    omega
  · exact inline_cons (isFitting_readLexeme read).inline inline_nil

/-- A line of a comment alone ends with its line feed. -/
theorem exists_leavesOf_comment (ends : EndsLine (point :: lines)) (differs : point ≠ lineFeed)
    (same : after = lines ++ behind) (isOpen : step.atLineStart = true)
    (extra : step.extra = (after.takeWhile (· ≠ lineFeed)).length + 1) :
    ∃ left, LeavesOf behind (point :: lines) after step left := by
  have longer := ends.one_lt_length differs
  have held : lines ≠ [] := by
    rintro rfl
    exact (Nat.lt_irrefl 1 longer).elim
  subst same
  have endsLines := ends.tail held
  have lt : ((lines ++ behind).takeWhile (· ≠ lineFeed)).length < lines.length :=
    endsLines.lt_of_takeWhile
  generalize comment : (lines ++ behind).takeWhile (· ≠ lineFeed) = taken at lt extra
  have whole := List.takeWhile_append_dropWhile (p := (· ≠ lineFeed)) (l := lines ++ behind)
  rw [comment] at whole
  obtain ⟨more, rfl⟩ : ∃ more, lines = taken ++ more := by
    refine ⟨lines.drop taken.length, ?_⟩
    have front := congrArg (List.take taken.length) whole
    rw [List.take_left, List.take_append_of_le_length (Nat.le_of_lt lt)] at front
    calc lines = lines.take taken.length ++ lines.drop taken.length :=
          (List.take_append_drop _ _).symm
      _ = taken ++ lines.drop taken.length := by rw [← front]
  rw [List.append_assoc, List.append_cancel_left_eq] at whole
  obtain ⟨last, left, rfl⟩ := List.exists_cons_of_ne_nil (l := more) fun empty => by
    rw [empty, List.append_nil] at lt
    exact Nat.lt_irrefl _ lt
  have isFeed : last = lineFeed := by
    have stops := List.head?_dropWhile_not (· ≠ lineFeed) (taken ++ (last :: left) ++ behind)
    rw [List.append_assoc, whole] at stops
    simpa using stops
  subst isFeed
  refine ⟨left, ?_, ?_, ?_, ⟨point :: taken ++ [lineFeed], ?_, fun _ => ?_⟩, fun _ => .inl isOpen⟩
  · rw [extra, List.append_assoc, ← List.drop_drop, List.drop_left]
    rfl
  · simp only [List.length_cons, List.length_append]
    omega
  · by_cases empty : left = []
    · exact .inl empty
    · refine .inr ?_
      have atFeed : EndsLine ((taken ++ lineFeed :: left).drop taken.length) :=
        endsLines.drop (by rw [List.length_append, List.length_cons]; omega)
      rw [List.drop_left] at atFeed
      exact atFeed.tail empty
  · simp only [List.cons_append, List.append_assoc, List.nil_append]
  · rw [List.getLast?_append]
    rfl

/-- What is left behind a margin is left of the whole lines. -/
theorem LeavesOf.behind_margin {within left : Text} {inside : LexemeStep} {front : Text}
    {first : CodePoint} (leaves : LeavesOf behind within after inside left)
    (split : lines = front ++ within) (whole : lines ++ behind = first :: rest)
    (place : within ++ behind = point :: after) (sameStart : step.atLineStart = inside.atLineStart)
    (sameAwaited : step.awaited = inside.awaited) (extra : step.extra = front.length + inside.extra) :
    LeavesOf behind lines rest step left := by
  subst split
  rw [List.append_assoc, place] at whole
  have dropped : rest.drop front.length = after := by
    have total := congrArg (List.drop (front.length + 1)) whole
    rw [List.drop_succ_cons, ← List.drop_drop, List.drop_left, List.drop_succ_cons,
      List.drop_zero] at total
    exact total.symm
  obtain ⟨taken, whole, starts⟩ := leaves.starts
  refine ⟨?_, ?_, leaves.ends, ⟨front ++ taken, ?_, fun isStart => ?_⟩, fun empty => ?_⟩
  · rw [extra, ← List.drop_drop, dropped, leaves.rest_eq]
  · rw [List.length_append]
    exact Nat.lt_of_lt_of_le leaves.shorter (Nat.le_add_left _ _)
  · rw [whole, List.append_assoc]
  · rw [List.getLast?_append, starts (sameStart ▸ isStart)]
    rfl
  · rw [sameStart, sameAwaited]
    exact leaves.isOpen empty

/-- What is left of deep lines is deep. -/
theorem LeavesOf.linesDeep {left : Text} (leaves : LeavesOf behind lines after step left)
    (ends : EndsLine left) (deep : LinesDeep (lines ++ behind)) :
    LinesDeep (left ++ behind) ∧ (step.atLineStart = true → IsDeep (left ++ behind)) := by
  obtain ⟨taken, split, starts⟩ := leaves.starts
  rw [split, List.append_assoc] at deep
  refine ⟨deep.of_append, fun isStart => ?_⟩
  obtain ⟨front, rfl⟩ := List.getLast?_eq_some_iff.mp (starts isStart)
  rw [List.append_assoc] at deep
  rcases deep front (left ++ behind) rfl with empty | deepLeft
  · exact (ends.ne_nil (List.append_eq_nil_iff.mp empty).1).elim
  · exact deepLeft

/-- What a step in deep lines does: it leaves the body of the function as it is, and where a line
has ended, the step ends with its mark unless the line holds nothing. -/
structure DeepStep (behind lines after : Text) (inner : List Column) (atLineStart : Bool)
    (step : LexemeStep) (left : Text) (kept : List Column) : Prop where
  leaves : LeavesOf behind lines after step left
  deeper : AllDeeper kept
  blocks_eq : step.blocks = kept ++ levelStack 1
  level_eq : level inner.length step.lexemes = some kept.length
  ended : step.atLineStart = true → step.awaited = [] ∧
    (step.lexemes.getLast? = some .lineEnd ∨ atLineStart = true ∧ step.lexemes = [])

theorem FindsInLine.level_eq {changes : List Lexeme} {depth : Nat} (finds : FindsInLine blocks step)
    (changed : level depth changes = some count) :
    level depth (changes ++ step.lexemes) = some count := by
  rw [level_append, changed, Option.bind_some]
  rcases finds.finds with ⟨-, inline⟩ | ⟨-, same, -⟩
  · exact inline.level_eq
  · rw [same]
    exact level_lineEnd

theorem FindsInLine.ended (finds : FindsInLine blocks step) (changes : List Lexeme)
    (isStart : step.atLineStart = true) :
    step.awaited = [] ∧ (changes ++ step.lexemes).getLast? = some .lineEnd := by
  rcases finds.finds with ⟨inside, -⟩ | ⟨-, same, none⟩
  · rw [isStart] at inside
    cases inside
  · refine ⟨none, ?_⟩
    rw [same, List.getLast?_append]
    rfl

theorem exists_deepStep_inLine (ends : EndsLine lines)
    (noLong : ∀ mark, isQuotationMark mark = true → bodyLength mark true behind = none)
    (deeper : AllDeeper inner) (whole : lines ++ behind = point :: after)
    (stepped : stepInLine (inner ++ levelStack 1) awaited point after = some step) :
    ∃ left kept, DeepStep behind lines after inner false step left kept := by
  obtain ⟨left, leaves, finds⟩ := exists_of_stepInLine ends noLong whole stepped
  have stays : level inner.length [] = some inner.length := by cases inner.length <;> rfl
  refine ⟨left, inner, leaves, deeper, finds.blocks_eq, finds.level_eq stays, fun isStart => ?_⟩
  obtain ⟨none, last⟩ := finds.ended [] isStart
  exact ⟨none, .inl last⟩

theorem exists_deepStep_lineStart (ends : EndsLine lines)
    (noLong : ∀ mark, isQuotationMark mark = true → bodyLength mark true behind = none)
    (deep : IsDeep (lines ++ behind)) (linesDeep : LinesDeep (lines ++ behind))
    (deeper : AllDeeper inner) {first : CodePoint} (whole : lines ++ behind = first :: rest)
    (stepped : stepAtLineStart (inner ++ levelStack 1) first rest = some step) :
    ∃ left kept, DeepStep behind lines rest inner true step left kept := by
  unfold stepAtLineStart at stepped
  obtain ⟨margin, measured, stepped⟩ := Option.bind_eq_some_iff.mp stepped
  rw [← whole] at measured
  have deepColumn := (deep.measureFrom linesDeep measured).effective
  have lt : margin.length < lines.length := by
    have bound := (ends.lt_of_measureFrom measured).2
    change margin.length < 0 + lines.length at bound
    omega
  have endsWithin := ends.drop lt
  have split : lines = lines.take margin.length ++ lines.drop margin.length :=
    (List.take_append_drop _ _).symm
  have length : (lines.take margin.length).length = margin.length :=
    List.length_take_of_le (Nat.le_of_lt lt)
  have place : (first :: rest).drop margin.length = lines.drop margin.length ++ behind := by
    rw [← whole, List.drop_append_of_le_length (Nat.le_of_lt lt)]
  generalize lines.drop margin.length = within at endsWithin split place
  generalize lines.take margin.length = front at split length
  obtain ⟨start, others, rfl⟩ := List.exists_cons_of_ne_nil endsWithin.ne_nil
  rw [place] at stepped
  dsimp only [List.cons_append] at stepped
  have stays : level inner.length [] = some inner.length := by cases inner.length <;> rfl
  split at stepped
  · next isHash =>
      cases stepped
      subst isHash
      obtain ⟨left, leaves⟩ : ∃ left, LeavesOf behind (hash :: others) (others ++ behind)
          ⟨[], [], [], true, ((others ++ behind).takeWhile (· ≠ lineFeed)).length + 1⟩ left :=
        exists_leavesOf_comment endsWithin (by decide) rfl rfl rfl
      refine ⟨left, inner, leaves.behind_margin split whole rfl rfl rfl ?_, deeper, rfl, stays,
        fun _ => ⟨rfl, .inr ⟨rfl, rfl⟩⟩⟩
      rw [length]
      dsimp only
      omega
  split at stepped
  · next isFeed =>
      cases stepped
      subst isFeed
      have leaves : LeavesOf behind (lineFeed :: others) (others ++ behind) ⟨[], [], [], true, 0⟩
          others := leavesOf_lineFeed endsWithin rfl rfl (.inl rfl)
      exact ⟨others, inner, leaves.behind_margin split whole rfl rfl rfl length.symm, deeper, rfl,
        stays, fun _ => ⟨rfl, .inr ⟨rfl, rfl⟩⟩⟩
  obtain ⟨⟨changes, blocks⟩, changed, stepped⟩ := Option.bind_eq_some_iff.mp stepped
  obtain ⟨inside, inLine, stepped⟩ := Option.bind_eq_some_iff.mp stepped
  cases stepped
  obtain ⟨kept, rfl, deeperKept, marks⟩ := exists_of_changeBlocks deepColumn deeper changed
  obtain ⟨left, leaves, finds⟩ := exists_of_stepInLine endsWithin noLong rfl inLine
  refine ⟨left, kept, leaves.behind_margin split whole rfl rfl rfl ?_, deeperKept, finds.blocks_eq,
    finds.level_eq marks, fun isStart => ?_⟩
  · rw [length]
  · obtain ⟨none, last⟩ := finds.ended changes isStart
    exact ⟨none, .inl last⟩

/-- A text that gives what is left open in front of it no end: neither a long string nor a
bracket. -/
structure Withholds (behind : Text) : Prop where
  noLong : ∀ mark, isQuotationMark mark = true → bodyLength mark true behind = none
  noBracket : ∀ blocks awaited, awaited ≠ [] → lexemesFrom blocks awaited false behind = none

/-- The lexemes of deep lines: they leave the body of the function open, and end with a line unless
the lines hold nothing. -/
structure DeepLexemes (inner : List Column) (atLineStart : Bool) (lexemes : List Lexeme)
    (kept : List Column) : Prop where
  deeper : AllDeeper kept
  level_eq : level inner.length lexemes = some kept.length
  ended : lexemes.getLast? = some .lineEnd ∨ atLineStart = true ∧ lexemes = []

theorem DeepStep.deepLexemes {atLineStart : Bool} {left : Text} {kept last : List Column}
    {later : List Lexeme}
    (deepStep : DeepStep behind lines after inner atLineStart step left kept)
    (deep : DeepLexemes kept step.atLineStart later last) :
    DeepLexemes inner atLineStart (step.lexemes ++ later) last := by
  refine ⟨deep.deeper, ?_, ?_⟩
  · rw [level_append, deepStep.level_eq, Option.bind_some, deep.level_eq]
  · rcases deep.ended with isLast | ⟨isStart, rfl⟩
    · rw [List.getLast?_append, isLast]
      exact .inl rfl
    · rw [List.append_nil]
      exact (deepStep.ended isStart).2

/-- **What stands behind deep lines is scanned as a line of its own**: lines that end without a
backslash leave no string and no bracket open that the text behind them does not close. -/
theorem exists_lexemesFrom_eq (withholds : Withholds behind) {lines : Text} {inner : List Column}
    {awaited : List Symbol} {atLineStart : Bool} {found : List Lexeme} (ends : EndsLine lines)
    (linesDeep : LinesDeep (lines ++ behind)) (deeper : AllDeeper inner)
    (starts : atLineStart = true → IsDeep (lines ++ behind))
    (read : lexemesFrom (inner ++ levelStack 1) awaited atLineStart (lines ++ behind) = some found) :
    ∃ front tail kept, found = front ++ tail ∧ DeepLexemes inner atLineStart front kept ∧
      lexemesFrom (kept ++ levelStack 1) [] true behind = some tail := by
  obtain ⟨first, after, whole⟩ := List.exists_cons_of_ne_nil
    (List.append_ne_nil_of_left_ne_nil ends.ne_nil behind)
  obtain ⟨step, left, kept, deepStep, later, readLater, rfl⟩ : ∃ step left kept,
      DeepStep behind lines after inner atLineStart step left kept ∧ ∃ later,
        lexemesFrom step.blocks step.awaited step.atLineStart (after.drop step.extra) =
          some later ∧ step.lexemes ++ later = found := by
    rw [whole, lexemesFrom] at read
    cases atLineStart with
    | true =>
        obtain ⟨step, stepped, read⟩ := Option.bind_eq_some_iff.mp read
        obtain ⟨later, readLater, same⟩ := Option.bind_eq_some_iff.mp read
        obtain ⟨left, kept, deepStep⟩ := exists_deepStep_lineStart ends withholds.noLong
          (starts rfl) linesDeep deeper whole stepped
        exact ⟨step, left, kept, deepStep, later, readLater, Option.some.inj same⟩
    | false =>
        obtain ⟨step, stepped, read⟩ := Option.bind_eq_some_iff.mp read
        obtain ⟨later, readLater, same⟩ := Option.bind_eq_some_iff.mp read
        obtain ⟨left, kept, deepStep⟩ :=
          exists_deepStep_inLine ends withholds.noLong deeper whole stepped
        exact ⟨step, left, kept, deepStep, later, readLater, Option.some.inj same⟩
  rw [deepStep.leaves.rest_eq, deepStep.blocks_eq] at readLater
  rcases deepStep.leaves.ends with rfl | endsLeft
  · -- The lines are read to their end.
    rw [List.nil_append] at readLater
    cases isStart : step.atLineStart with
    | false =>
        rw [isStart] at readLater
        rcases deepStep.leaves.isOpen rfl with starts | isOpen
        · rw [isStart] at starts
          cases starts
        · rw [withholds.noBracket _ _ isOpen] at readLater
          cases readLater
    | true =>
        obtain ⟨none, ended⟩ := deepStep.ended isStart
        rw [isStart, none] at readLater
        exact ⟨step.lexemes, later, kept, rfl, ⟨deepStep.deeper, deepStep.level_eq, ended⟩, readLater⟩
  · obtain ⟨linesLeft, deepLeft⟩ := deepStep.leaves.linesDeep endsLeft linesDeep
    have shorter := deepStep.leaves.shorter
    obtain ⟨front, tail, last, rfl, deepLexemes, readTail⟩ :=
      exists_lexemesFrom_eq withholds endsLeft linesLeft deepStep.deeper deepLeft readLater
    exact ⟨step.lexemes ++ front, tail, last, (List.append_assoc _ _ _).symm,
      deepStep.deepLexemes deepLexemes, readTail⟩
termination_by lines.length

end Stencil.Script
