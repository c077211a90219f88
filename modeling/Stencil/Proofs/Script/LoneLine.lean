import Stencil.Proofs.Script.DeepLines
import Stencil.Proofs.Script.SameLine
import Stencil.Proofs.Script.Twins

/-! # Lines by themselves

A text that by itself is read as one logical line is read as that line in front of any other lines,
whatever blocks are open (`Stencil.Script.IsLoneLine.isLogicalLine`). The line begins with the lexeme
that stands at its start (`Stencil.Script.IsLogicalLine.exists_first`), and when this is a word, the
line begins with its letters (`Stencil.Script.takeWhile_of_readLexeme`). Lines of a body that are read
by themselves are read in the same way in front of any others
(`Stencil.Script.exists_lexemesFrom_append`).
-/

namespace Stencil.Script

open CodePoint

variable {blocks kept : List Column} {awaited : List Symbol} {first : CodePoint}
  {whole after tail : Text} {count : Nat} {step : LexemeStep} {found : List Lexeme}
  {margin stop : Margin}

/-- A step inside whole lines is the same step whatever stands behind them, and whatever blocks are
open. -/
theorem stepInLine_append (kept : List Column) (tail : Text) (ends : lineFeed ∈ first :: after)
    (stepped : stepInLine blocks awaited first after = some step) :
    stepInLine kept awaited first (after ++ tail) = some { step with blocks := kept } ∧
      step.blocks = blocks ∧ step.extra ≤ after.length ∧
      ((step.atLineStart = true ∧ first = lineFeed ∧ awaited = [] ∧
          step = ⟨[.lineEnd], blocks, [], true, 0⟩) ∨
        (step.atLineStart = false ∧ Inline step.lexemes)) := by
  unfold stepInLine at stepped ⊢
  split at stepped
  · next isBlank =>
      cases stepped
      rw [if_pos isBlank]
      exact ⟨rfl, rfl, Nat.zero_le _, .inr ⟨rfl, inline_nil⟩⟩
  next noBlank =>
  rw [if_neg noBlank]
  split at stepped
  · next isHash =>
      cases stepped
      have endsAfter : lineFeed ∈ after := by
        refine (List.mem_cons.mp ends).resolve_left ?_
        rw [isHash]
        decide
      rw [if_pos isHash, takeWhile_append_of_mem (by decide) endsAfter]
      exact ⟨rfl, rfl, (List.takeWhile_sublist _).length_le, .inr ⟨rfl, inline_nil⟩⟩
  next noHash =>
  rw [if_neg noHash]
  split at stepped
  · next isFeed =>
      rw [if_pos isFeed]
      split at stepped
      · next isEmpty =>
          cases stepped
          obtain rfl := List.isEmpty_iff.mp isEmpty
          exact ⟨rfl, rfl, Nat.zero_le _, .inl ⟨rfl, isFeed, rfl, rfl⟩⟩
      · next isOpen =>
          cases stepped
          rw [if_neg isOpen]
          exact ⟨rfl, rfl, Nat.zero_le _, .inr ⟨rfl, inline_nil⟩⟩
  next noFeed =>
  rw [if_neg noFeed]
  split at stepped
  · next isBackslash =>
      rw [if_pos isBackslash]
      split at stepped
      · cases stepped
        exact ⟨rfl, rfl, Nat.succ_le_succ (Nat.zero_le _), .inr ⟨rfl, inline_nil⟩⟩
      · cases stepped
  next noBackslash =>
  rw [if_neg noBackslash]
  obtain ⟨⟨lexeme, length⟩, read, stepped⟩ := Option.bind_eq_some_iff.mp stepped
  obtain ⟨awaitedAfter, tracked, stepped⟩ := Option.bind_eq_some_iff.mp stepped
  cases stepped
  obtain ⟨readLonger, within⟩ := readLexeme_append tail ends read
  rw [List.cons_append] at readLonger
  refine ⟨Option.bind_eq_some_iff.mpr ⟨_, readLonger, Option.bind_eq_some_iff.mpr
    ⟨_, tracked, rfl⟩⟩, rfl, ?_, .inr ⟨rfl, inline_cons (isFitting_readLexeme read).inline inline_nil⟩⟩
  rw [List.length_cons] at within
  exact Nat.sub_le_of_le_add within

/-- The margin of a line is the same whatever stands behind the line, and it ends before a code point
that is neither a blank nor a backslash. -/
theorem measureFrom_append (tail : Text) (ends : whole.getLast? = some lineFeed)
    (measured : margin.measureFrom whole = some stop) :
    margin.measureFrom (whole ++ tail) = some stop ∧ margin.length ≤ stop.length ∧
      ∃ point more, whole.drop (stop.length - margin.length) = point :: more ∧
        isInnerBlank point = false ∧ point ≠ backslash := by
  fun_induction Margin.measureFrom margin whole with
  | case1 => cases ends
  | case2 margin point next advances =>
      cases ends
      cases advances
  | case3 => cases measured
  | case4 margin point stops noBackslash =>
      cases measured
      refine ⟨?_, Nat.le_refl _, point, [], ?_, advance?_eq_none_iff.mp stops, noBackslash⟩
      · cases tail with
        | nil => simp only [List.append_nil, Margin.measureFrom, stops, noBackslash, ↓reduceIte]
        | cons next rest =>
            simp only [List.singleton_append, Margin.measureFrom, stops, noBackslash, ↓reduceIte]
      · rw [Nat.sub_self, List.drop_zero]
  | case5 margin point next rest column advances ih =>
      rw [List.getLast?_cons_cons] at ends
      obtain ⟨same, le, behind⟩ := ih ends measured
      dsimp only at le behind
      refine ⟨?_, by omega, ?_⟩
      · simp only [List.cons_append] at same ⊢
        simp only [Margin.measureFrom, advances, same]
      · have split : stop.length - margin.length = stop.length - (margin.length + 1) + 1 := by omega
        rw [split]
        exact behind
  | case6 margin next rest joins kept stops ih =>
      have shape := joins
      rw [Bool.and_eq_true, decide_eq_true_eq, Bool.not_eq_true', List.isEmpty_eq_false_iff] at shape
      obtain ⟨rfl, held⟩ := shape
      have endsRest : rest.getLast? = some lineFeed := by
        obtain ⟨third, others, rfl⟩ := List.exists_cons_of_ne_nil held
        rwa [List.getLast?_cons_cons, List.getLast?_cons_cons] at ends
      obtain ⟨same, le, behind⟩ := ih endsRest measured
      dsimp only at le behind
      have goesOn : (decide (lineFeed = lineFeed) && !(rest ++ tail).isEmpty) = true := by
        rw [Bool.and_eq_true, decide_eq_true_eq, Bool.not_eq_true', List.isEmpty_eq_false_iff]
        exact ⟨rfl, List.append_ne_nil_of_left_ne_nil held _⟩
      refine ⟨?_, by omega, ?_⟩
      · rw [List.cons_append, List.cons_append, Margin.measureFrom, stops]
        dsimp only
        rw [if_pos rfl, if_pos goesOn]
        exact same
      · have split : stop.length - margin.length = stop.length - (margin.length + 2) + 1 + 1 := by
          omega
        rw [split]
        exact behind
  | case7 => cases measured
  | case8 margin point next rest stops noBackslash =>
      cases measured
      refine ⟨?_, Nat.le_refl _, point, next :: rest, ?_, advance?_eq_none_iff.mp stops,
        noBackslash⟩
      · simp only [List.cons_append, Margin.measureFrom, stops, noBackslash, ↓reduceIte]
      · rw [Nat.sub_self, List.drop_zero]

/-- The rest of a text behind some of its code points ends as it does. -/
theorem getLast?_drop_of_lt (ends : whole.getLast? = some lineFeed) (lt : count < whole.length) :
    (whole.drop count).getLast? = some lineFeed := by
  rw [List.getLast?_drop, if_neg (Nat.not_le.mpr lt), ends]

theorem lexemesFrom_cons {atLineStart : Bool} :
    lexemesFrom blocks awaited atLineStart (first :: after) =
      (if atLineStart then stepAtLineStart blocks first after
        else stepInLine blocks awaited first after).bind fun step =>
          (lexemesFrom step.blocks step.awaited step.atLineStart (after.drop step.extra)).map
            (step.lexemes ++ ·) := by
  rw [lexemesFrom]
  simp only [Option.bind_eq_bind, Option.pure_def]
  split
  all_goals
    refine congrArg (Option.bind _) (funext fun step => ?_)
    cases lexemesFrom step.blocks step.awaited step.atLineStart (after.drop step.extra) <;> rfl

/-- A step at the start of a line is the same step whatever stands behind the lines, and one over a
line without a lexeme is the same whatever blocks are open. -/
theorem stepAtLineStart_append (kept : List Column) (tail : Text)
    (ends : (first :: after).getLast? = some lineFeed)
    (stepped : stepAtLineStart blocks first after = some step) :
    step.extra ≤ after.length ∧ stepAtLineStart blocks first (after ++ tail) = some step ∧
      (step.lexemes = [] → step = ⟨[], blocks, [], true, step.extra⟩ ∧
        stepAtLineStart kept first (after ++ tail) = some ⟨[], kept, [], true, step.extra⟩) := by
  unfold stepAtLineStart at stepped
  obtain ⟨stop, measured, stepped⟩ := Option.bind_eq_some_iff.mp stepped
  obtain ⟨measuredLonger, -, point, more, split, noBlank, noBackslash⟩ :=
    measureFrom_append tail ends measured
  have start : Margin.start.length = 0 := rfl
  rw [start, Nat.sub_zero] at split
  have total := congrArg List.length split
  rw [List.length_drop, List.length_cons, List.length_cons] at total
  have splitLonger : (first :: (after ++ tail)).drop stop.length = point :: (more ++ tail) := by
    rw [← List.cons_append, List.drop_append_of_le_length (by rw [List.length_cons]; omega), split,
      List.cons_append]
  have endsMore : lineFeed ∈ point :: more := by
    have behind := @getLast?_drop_of_lt _ stop.length ends (by rw [List.length_cons]; omega)
    rw [split] at behind
    exact List.mem_of_getLast? behind
  rw [List.cons_append] at measuredLonger
  have longer (kept : List Column) : stepAtLineStart kept first (after ++ tail) =
      if point = hash then
        some ⟨[], kept, [], true, stop.length + ((more ++ tail).takeWhile (· ≠ lineFeed)).length + 1⟩
      else if point = lineFeed then some ⟨[], kept, [], true, stop.length⟩
      else do
        let moved ← changeBlocks stop.effective kept
        let step ← stepInLine moved.2 [] point (more ++ tail)
        return { step with lexemes := moved.1 ++ step.lexemes, extra := stop.length + step.extra } := by
    unfold stepAtLineStart
    rw [measuredLonger, Option.bind_eq_bind, Option.bind_some, splitLonger]
    rfl
  rw [split] at stepped
  dsimp only at stepped
  rw [longer, longer]
  split at stepped
  · next isHash =>
      cases stepped
      have endsComment : lineFeed ∈ more := by
        refine (List.mem_cons.mp endsMore).resolve_left ?_
        rw [isHash]
        decide
      have shorter : (more.takeWhile (· ≠ lineFeed)).length < more.length := by
        by_contra reaches
        have whole := (List.takeWhile_prefix (l := more) (· ≠ lineFeed)).eq_of_length_le
          (Nat.not_lt.mp reaches)
        rw [← whole] at endsComment
        cases List.mem_takeWhile_imp endsComment
      rw [if_pos isHash, if_pos isHash, takeWhile_append_of_mem (by decide) endsComment]
      refine ⟨?_, rfl, fun _ => ⟨rfl, rfl⟩⟩
      dsimp only
      omega
  next noHash =>
  rw [if_neg noHash, if_neg noHash]
  split at stepped
  · next isFeed =>
      cases stepped
      rw [if_pos isFeed, if_pos isFeed]
      refine ⟨?_, rfl, fun _ => ⟨rfl, rfl⟩⟩
      dsimp only
      omega
  next noFeed =>
  rw [if_neg noFeed, if_neg noFeed]
  -- Anything else is the first lexeme of a line.
  obtain ⟨⟨changes, others⟩, changed, stepped⟩ := Option.bind_eq_some_iff.mp stepped
  obtain ⟨inner, steppedInner, stepped⟩ := Option.bind_eq_some_iff.mp stepped
  cases stepped
  dsimp only at steppedInner
  obtain ⟨steppedLonger, isOthers, within, -⟩ := stepInLine_append others tail endsMore steppedInner
  refine ⟨?_, ?_, fun silent => ?_⟩
  · dsimp only
    omega
  · subst isOthers
    exact Option.bind_eq_some_iff.mpr ⟨_, changed, Option.bind_eq_some_iff.mpr
      ⟨_, steppedLonger, rfl⟩⟩
  · unfold stepInLine at steppedInner
    rw [if_neg (Bool.eq_false_iff.mp noBlank), if_neg noHash, if_neg noFeed, if_neg noBackslash]
      at steppedInner
    obtain ⟨lexeme, -, steppedInner⟩ := Option.bind_eq_some_iff.mp steppedInner
    obtain ⟨awaitedAfter, -, steppedInner⟩ := Option.bind_eq_some_iff.mp steppedInner
    cases steppedInner
    exact absurd silent (List.append_ne_nil_of_right_ne_nil _ (List.cons_ne_nil _ _))

/-- Lines without a lexeme leave no trace in front of others. -/
theorem lexemesFrom_append_of_nil (bound : Nat) : ∀ {whole : Text}, whole.length ≤ bound →
    whole.getLast? = some lineFeed → lexemesFrom blocks [] true whole = some [] →
    lexemesFrom kept [] true (whole ++ tail) = lexemesFrom kept [] true tail := by
  induction bound with
  | zero =>
      intro whole fits ends
      rw [List.length_eq_zero_iff.mp (Nat.le_zero.mp fits)] at ends
      cases ends
  | succ bound ih =>
      intro whole fits ends scanned
      cases whole with
      | nil => cases ends
      | cons first after =>
          rw [lexemesFrom_cons] at scanned
          obtain ⟨step, stepped, scanned⟩ := Option.bind_eq_some_iff.mp scanned
          obtain ⟨later, scannedLater, isNil⟩ := Option.map_eq_some_iff.mp scanned
          obtain ⟨silent, rfl⟩ := List.append_eq_nil_iff.mp isNil
          obtain ⟨within, -, overLine⟩ := stepAtLineStart_append kept tail ends stepped
          obtain ⟨isStep, steppedLonger⟩ := overLine silent
          rw [isStep] at scannedLater
          rw [List.cons_append, lexemesFrom_cons, if_pos rfl, steppedLonger, Option.bind_some]
          dsimp only at scannedLater ⊢
          rw [List.drop_append_of_le_length within]
          have behind : lexemesFrom kept [] true (after.drop step.extra ++ tail) =
              lexemesFrom kept [] true tail := by
            by_cases none : after.drop step.extra = []
            · rw [none, List.nil_append]
            · have longer : step.extra + 1 < (first :: after).length := by
                rw [List.drop_eq_nil_iff] at none
                rw [List.length_cons]
                omega
              refine ih ?_ (@getLast?_drop_of_lt _ (step.extra + 1) ends longer) scannedLater
              rw [List.length_cons] at fits
              rw [List.length_drop]
              omega
          rw [behind]
          cases lexemesFrom kept [] true tail <;> rfl

/-- The end of a line stands behind what is inside the line. -/
theorem Inline.exists_behind {front behind : List Lexeme} (inline : Inline front)
    (same : front ++ behind = found ++ [.lineEnd]) :
    ∃ between, found = front ++ between ∧ behind = between ++ [.lineEnd] := by
  rcases List.append_eq_append_iff.mp same with ⟨between, isFound, isBehind⟩ |
    ⟨between, isFront, isLast⟩
  · exact ⟨between, isFound, isBehind⟩
  · cases between with
    | nil => exact ⟨[], by rw [isFront, List.append_nil, List.append_nil], isLast.symm⟩
    | cons last between =>
        obtain ⟨rfl, -⟩ := List.cons.inj isLast
        cases inline .lineEnd (isFront ▸ List.mem_append_right _ List.mem_cons_self)

/-- **A line that is read by itself is read in the same way in front of any others**, whatever blocks
are open. -/
theorem lexemesFrom_append_of_line (bound : Nat) : ∀ {whole : Text} {awaited : List Symbol}
    {found : List Lexeme}, whole.length ≤ bound → whole.getLast? = some lineFeed → Inline found →
    lexemesFrom blocks awaited false whole = some (found ++ [.lineEnd]) →
    lexemesFrom kept awaited false (whole ++ tail) =
      (lexemesFrom kept [] true tail).map (found ++ .lineEnd :: ·) := by
  induction bound with
  | zero =>
      intro whole awaited found fits ends
      rw [List.length_eq_zero_iff.mp (Nat.le_zero.mp fits)] at ends
      cases ends
  | succ bound ih =>
      intro whole awaited found fits ends inline scanned
      cases whole with
      | nil => cases ends
      | cons first after =>
          rw [lexemesFrom_cons, if_neg Bool.false_ne_true] at scanned
          obtain ⟨step, stepped, scanned⟩ := Option.bind_eq_some_iff.mp scanned
          obtain ⟨later, scannedLater, isFound⟩ := Option.map_eq_some_iff.mp scanned
          obtain ⟨steppedLonger, isBlocks, within, shape⟩ := stepInLine_append kept tail
            (List.mem_of_getLast? ends) stepped
          rw [List.cons_append, lexemesFrom_cons, if_neg Bool.false_ne_true, steppedLonger,
            Option.bind_some]
          dsimp only
          rw [List.drop_append_of_le_length within]
          have longer : after.drop step.extra ≠ [] → step.extra + 1 < (first :: after).length := by
            intro held
            rw [ne_eq, List.drop_eq_nil_iff] at held
            rw [List.length_cons]
            omega
          rcases shape with ⟨-, -, -, rfl⟩ | ⟨goesOn, inlineStep⟩
          · cases found with
            | cons start found => cases (List.cons.inj isFound).1 ▸ inline start List.mem_cons_self
            | nil =>
                obtain ⟨-, rfl⟩ := List.cons.inj isFound
                dsimp only at scannedLater ⊢
                by_cases none : after = []
                · rw [none]
                  rfl
                · have endsAfter : after.getLast? = some lineFeed :=
                    @getLast?_drop_of_lt _ 1 ends (longer none)
                  rw [List.drop_zero] at scannedLater ⊢
                  rw [lexemesFrom_append_of_nil _ (Nat.le_refl _) endsAfter scannedLater]
                  rfl
          · rw [goesOn] at scannedLater ⊢
            -- The mark of the line's end is found behind this step.
            obtain ⟨behind, rfl, rfl⟩ := inlineStep.exists_behind isFound
            have held : after.drop step.extra ≠ [] := by
              intro none
              rw [none, lexemesFrom] at scannedLater
              split at scannedLater
              · have isDedents := Option.some.inj scannedLater
                have member : Lexeme.lineEnd ∈ List.replicate (step.blocks.length - 1) .dedent := by
                  rw [isDedents]
                  simp
                cases List.eq_of_mem_replicate member
              · cases scannedLater
            have inlineBehind : Inline behind := fun lexeme member =>
              inline lexeme (List.mem_append_right _ member)
            have endsBehind : (after.drop step.extra).getLast? = some lineFeed :=
              @getLast?_drop_of_lt _ (step.extra + 1) ends (longer held)
            rw [isBlocks] at scannedLater
            rw [ih ?_ endsBehind inlineBehind scannedLater, Option.map_map]
            · refine congrArg (Option.map · _) (funext fun rest => ?_)
              rw [Function.comp_apply, List.append_assoc]
            · rw [List.length_cons] at fits
              rw [List.length_drop]
              omega

/-- **Deep lines that are read by themselves are read in the same way in front of any others.** What
stands behind them is read in the blocks that they leave open. -/
theorem exists_lexemesFrom_append {lines : Text} {inner : List Column} {awaited : List Symbol}
    {atLineStart : Bool} {found : List Lexeme} (ends : EndsLine lines) (linesDeep : LinesDeep lines)
    (deeper : AllDeeper inner) (starts : atLineStart = true → IsDeep lines)
    (read : lexemesFrom (inner ++ levelStack 1) awaited atLineStart lines = some found) :
    ∃ front kept, found = front ++ List.replicate (kept.length + 1) .dedent ∧ AllDeeper kept ∧
      ∀ tail, lexemesFrom (inner ++ levelStack 1) awaited atLineStart (lines ++ tail) =
        (lexemesFrom (kept ++ levelStack 1) [] true tail).map (front ++ ·) := by
  obtain ⟨first, after, rfl⟩ := List.exists_cons_of_ne_nil ends.ne_nil
  have isWhole : first :: after ++ [] = first :: after := List.append_nil _
  have lastFeed : (first :: after).getLast? = some lineFeed := by
    obtain ⟨front, split, -⟩ := ends
    rw [split]
    exact List.getLast?_concat
  have noLong : ∀ mark, isQuotationMark mark = true → bodyLength mark true [] = none :=
    fun _ _ => rfl
  rw [lexemesFrom_cons] at read
  obtain ⟨step, stepped, read⟩ := Option.bind_eq_some_iff.mp read
  obtain ⟨later, readLater, rfl⟩ := Option.map_eq_some_iff.mp read
  -- The step is the same whatever stands behind the lines.
  obtain ⟨left, kept, deepStep, within, steppedLonger⟩ : ∃ left kept,
      DeepStep [] (first :: after) after inner atLineStart step left kept ∧
      step.extra ≤ after.length ∧ ∀ tail,
        (if atLineStart then stepAtLineStart (inner ++ levelStack 1) first (after ++ tail)
          else stepInLine (inner ++ levelStack 1) awaited first (after ++ tail)) = some step := by
    cases atLineStart with
    | true =>
        obtain ⟨left, kept, deepStep⟩ := exists_deepStep_lineStart ends noLong
          (isWhole.symm ▸ starts rfl) (isWhole.symm ▸ linesDeep) deeper isWhole stepped
        refine ⟨left, kept, deepStep, ?_, fun tail => ?_⟩
        · exact (stepAtLineStart_append [] [] lastFeed stepped).1
        · exact (stepAtLineStart_append [] tail lastFeed stepped).2.1
    | false =>
        obtain ⟨left, kept, deepStep⟩ := exists_deepStep_inLine ends noLong deeper isWhole stepped
        obtain ⟨-, -, within, -⟩ := stepInLine_append [] [] (List.mem_of_getLast? lastFeed) stepped
        refine ⟨left, kept, deepStep, within, fun tail => ?_⟩
        obtain ⟨same, isBlocks, -⟩ := stepInLine_append (inner ++ levelStack 1) tail
          (List.mem_of_getLast? lastFeed) stepped
        rw [if_neg Bool.false_ne_true, same, ← isBlocks]
  have rest : after.drop step.extra = left := by rw [deepStep.leaves.rest_eq, List.append_nil]
  have longer (tail : Text) : lexemesFrom (inner ++ levelStack 1) awaited atLineStart
      (first :: after ++ tail) = (lexemesFrom (kept ++ levelStack 1) step.awaited step.atLineStart
        (left ++ tail)).map (step.lexemes ++ ·) := by
    rw [List.cons_append, lexemesFrom_cons, steppedLonger, Option.bind_some,
      List.drop_append_of_le_length within, rest, deepStep.blocks_eq]
  rw [rest, deepStep.blocks_eq] at readLater
  rcases deepStep.leaves.ends with rfl | endsLeft
  · -- The lines are read to their end.
    rw [lexemesFrom] at readLater
    split at readLater
    case isFalse => cases readLater
    case isTrue isEmpty =>
      have none := List.isEmpty_iff.mp isEmpty
      have isStart := (deepStep.leaves.isOpen rfl).resolve_right fun isOpen => isOpen none
      refine ⟨step.lexemes, kept, ?_, deepStep.deeper, fun tail => ?_⟩
      · have length : (kept ++ levelStack 1).length - 1 = kept.length + 1 := by
          rw [List.length_append]
          rfl
        rw [← Option.some.inj readLater, length]
      · rw [longer, none, isStart]
        rfl
  · obtain ⟨linesLeft, deepLeft⟩ := deepStep.leaves.linesDeep endsLeft (isWhole.symm ▸ linesDeep)
    rw [List.append_nil] at linesLeft deepLeft
    have shorter := deepStep.leaves.shorter
    obtain ⟨front, last, rfl, deeperLast, reads⟩ :=
      exists_lexemesFrom_append endsLeft linesLeft deepStep.deeper deepLeft readLater
    refine ⟨step.lexemes ++ front, last, (List.append_assoc _ _ _).symm, deeperLast, fun tail => ?_⟩
    rw [longer, reads, Option.map_map]
    refine congrArg (Option.map · _) (funext fun behind => ?_)
    rw [Function.comp_apply, List.append_assoc]
termination_by lines.length

/-- A text is read as one logical line when it is read by itself, and it begins with a lexeme. -/
structure IsLoneLine (line : Text) (found : List Lexeme) : Prop where
  begins : line.head?.any (fun point => BeginsLexeme point ∧ point ≠ carriageReturn) = true
  inline : Inline found
  read : lexemes line = some (found ++ [.lineEnd])

theorem IsLoneLine.isLogicalLine {line content : Text} (lone : IsLoneLine line found)
    (same : unifyLineEnds line = content ++ [lineFeed]) : IsLogicalLine content found := by
  obtain ⟨first, isFirst, plain⟩ := (Option.any_eq_true _ _).mp lone.begins
  obtain ⟨begins, noReturn⟩ := of_decide_eq_true plain
  obtain ⟨rest, rfl⟩ := List.head?_eq_some_iff.mp isFirst
  have unified : unifyLineEnds (first :: rest) = first :: unifyLineEnds rest := by
    cases rest with
    | nil => simp [unifyLineEnds, noReturn, begins.2.2.1]
    | cons => simp [unifyLineEnds, noReturn]
  obtain ⟨others, rfl⟩ : ∃ others, content = first :: others := by
    rw [unified] at same
    cases content with
    | nil => exact (begins.2.2.1 (List.cons.inj same).1).elim
    | cons point others => exact ⟨others, by rw [(List.cons.inj same).1]⟩
  refine ⟨⟨first, others, rfl, begins⟩, fun blocks tail => ?_⟩
  have read := lone.read
  have margin : changeBlocks ⟨0, 0⟩ [Column.zero] = some ([], [Column.zero]) := rfl
  rw [lexemes, same, List.cons_append] at read
  have scanned := (@lexemesFrom_lineStart [Column.zero] first (others ++ [lineFeed]) 0 begins).symm.trans
    read
  rw [margin, Option.bind_some] at scanned
  obtain ⟨whole, scannedWhole, isWhole⟩ := Option.map_eq_some_iff.mp scanned
  rw [List.nil_append] at isWhole
  subst isWhole
  have ends : (first :: others ++ [lineFeed]).getLast? = some lineFeed := List.getLast?_concat
  have scans := @lexemesFrom_append_of_line [Column.zero] blocks tail _ _ _ _ (Nat.le_refl _) ends
    lone.inline scannedWhole
  rwa [List.append_assoc, List.singleton_append] at scans

/-- A logical line begins with the lexeme that stands at its start. -/
theorem IsLogicalLine.exists_first {content : Text} (isLine : IsLogicalLine content found) :
    ∃ start inside length, found = start :: inside ∧
      readLexeme (content ++ [lineFeed]) = some (start, length) := by
  obtain ⟨first, others, rfl, noBlank, noHash, noFeed, noBackslash⟩ := isLine.begins
  have scanned := isLine.scans [] []
  rw [List.cons_append, lexemesFrom_cons, if_neg Bool.false_ne_true] at scanned
  have empty : lexemesFrom [] [] true [] = some [] := by
    rw [lexemesFrom]
    rfl
  rw [empty, Option.map_some] at scanned
  obtain ⟨step, stepped, scanned⟩ := Option.bind_eq_some_iff.mp scanned
  obtain ⟨later, -, isFound⟩ := Option.map_eq_some_iff.mp scanned
  unfold stepInLine at stepped
  rw [if_neg (Bool.eq_false_iff.mp noBlank), if_neg noHash, if_neg noFeed, if_neg noBackslash]
    at stepped
  obtain ⟨⟨lexeme, length⟩, read, stepped⟩ := Option.bind_eq_some_iff.mp stepped
  obtain ⟨awaitedAfter, -, stepped⟩ := Option.bind_eq_some_iff.mp stepped
  cases stepped
  have inline := (isFitting_readLexeme read).inline
  cases found with
  | nil =>
      obtain ⟨rfl, -⟩ := List.cons.inj isFound
      cases inline
  | cons start inside =>
      obtain ⟨rfl, -⟩ := List.cons.inj isFound
      exact ⟨_, inside, length, rfl, read⟩

/-- Different words are different lexemes. -/
theorem wordLexeme_injective : Function.Injective wordLexeme := by
  have spelled : ∀ {word keyword}, Keyword.ofText? word = some keyword →
      ∃ entry ∈ Keyword.spellings, entry.2 = keyword ∧ text entry.1 = word := by
    intro word keyword isKeyword
    obtain ⟨entry, isEntry, same⟩ := Option.map_eq_some_iff.mp isKeyword
    have spells := List.find?_some isEntry
    exact ⟨entry, List.mem_of_find?_eq_some isEntry, same, eq_of_beq spells⟩
  have once : ∀ entry ∈ Keyword.spellings, ∀ other ∈ Keyword.spellings, entry.2 = other.2 →
      entry.1 = other.1 := by decide
  intro left right same
  unfold wordLexeme at same
  cases isLeft : Keyword.ofText? left with
  | none =>
      cases isRight : Keyword.ofText? right with
      | none => rw [isLeft, isRight] at same; exact Lexeme.name.inj same
      | some => rw [isLeft, isRight] at same; cases same
  | some keyword =>
      cases isRight : Keyword.ofText? right with
      | none => rw [isLeft, isRight] at same; cases same
      | some other =>
          rw [isLeft, isRight] at same
          obtain ⟨entry, member, isEntry, rfl⟩ := spelled isLeft
          obtain ⟨second, memberSecond, isSecond, rfl⟩ := spelled isRight
          rw [once entry member second memberSecond
            (isEntry.trans ((Lexeme.keyword.inj same).trans isSecond.symm))]

/-- A lexeme is a string, a number, a mark or a word. -/
theorem readWord_of_readLexeme {lexeme : Lexeme} {length : Nat}
    (read : readLexeme whole = some (lexeme, length)) :
    (∃ literal, lexeme = .string literal) ∨ (∃ number, lexeme = .number number) ∨
      (∃ symbol, lexeme = .symbol symbol) ∨ readWord whole = some (lexeme, length) := by
  unfold readLexeme at read
  split at read
  · unfold readString at read
    obtain ⟨kind, -, read⟩ := Option.bind_eq_some_iff.mp read
    split at read
    · cases read
    split at read
    all_goals
      obtain ⟨count, -, read⟩ := Option.bind_eq_some_iff.mp read
      cases read
      exact .inl ⟨_, rfl⟩
  · split at read
    · cases read
    split at read
    · obtain ⟨number, -, same⟩ := Option.map_eq_some_iff.mp read
      cases same
      exact .inr (.inl ⟨_, rfl⟩)
    split at read
    · exact .inr (.inr (.inr read))
    · obtain ⟨symbol, -, same⟩ := Option.map_eq_some_iff.mp read
      cases same
      exact .inr (.inr (.inl ⟨_, rfl⟩))

/-- A word is read where its letters stand. -/
theorem takeWhile_of_readLexeme {word : Text} {length : Nat}
    (read : readLexeme whole = some (wordLexeme word, length)) :
    whole.takeWhile couldContinueWord = word := by
  have spelled : readWord whole = some (wordLexeme word, length) := by
    have isWord : (∃ keyword, wordLexeme word = .keyword keyword) ∨
        ∃ name, wordLexeme word = .name name := by
      unfold wordLexeme
      cases Keyword.ofText? word with
      | none => exact .inr ⟨_, rfl⟩
      | some keyword => exact .inl ⟨_, rfl⟩
    rcases readWord_of_readLexeme read with ⟨_, same⟩ | ⟨_, same⟩ | ⟨_, same⟩ | spelled
    · rcases isWord with ⟨_, isWord⟩ | ⟨_, isWord⟩ <;> cases isWord.symm.trans same
    · rcases isWord with ⟨_, isWord⟩ | ⟨_, isWord⟩ <;> cases isWord.symm.trans same
    · rcases isWord with ⟨_, isWord⟩ | ⟨_, isWord⟩ <;> cases isWord.symm.trans same
    · exact spelled
  refine wordLexeme_injective ?_
  unfold readWord at spelled
  dsimp only at spelled
  generalize whole.takeWhile couldContinueWord = taken at spelled ⊢
  split at spelled
  · rw [wordLexeme]
    cases isKeyword : Keyword.ofText? taken with
    | none => rw [isKeyword] at spelled; exact (Prod.mk.inj (Option.some.inj spelled)).1
    | some keyword => rw [isKeyword] at spelled; exact (Prod.mk.inj (Option.some.inj spelled)).1
  · cases spelled

end Stencil.Script
