import Stencil.Proofs.Script.LoneLine

/-! # Scanning inside parentheses

A text that is read as a line is read in the same way inside further brackets
(`Stencil.Script.lexemesFrom_enclosed_text`), if these can be closed behind it: line ends are blanks
there, and only a comment in the last line keeps the brackets open
(`Stencil.Script.lexemesFrom_hash_closing`).
-/

namespace Stencil.Script

open CodePoint

variable {blocks kept : List Column} {awaited outer : List Symbol} {margin stop : Margin}
  {whole rest run : Text} {found : List Lexeme} {point first : CodePoint}

theorem stepInLine_of_begins {lexeme : Lexeme} {length : Nat} (begins : BeginsLexeme first)
    (read : readLexeme (first :: rest) = some (lexeme, length)) :
    stepInLine blocks awaited first rest = (trackBrackets awaited lexeme).map
      fun tracked => ⟨[lexeme], blocks, tracked, false, length - 1⟩ := by
  unfold stepInLine
  rw [if_neg (Bool.eq_false_iff.mp begins.1), if_neg begins.2.1, if_neg begins.2.2.1,
    if_neg begins.2.2.2, read, Option.bind_eq_bind, Option.bind_some]
  dsimp only
  cases trackBrackets awaited lexeme <;> rfl

/-- A step without a lexeme passes over what it takes. -/
theorem lexemesFrom_of_silent {extra : Nat}
    (stepped : stepInLine blocks awaited first rest = some ⟨[], blocks, awaited, false, extra⟩) :
    lexemesFrom blocks awaited false (first :: rest) =
      lexemesFrom blocks awaited false (rest.drop extra) := by
  rw [lexemesFrom_cons, if_neg Bool.false_ne_true, stepped, Option.bind_some]
  dsimp only
  cases lexemesFrom blocks awaited false (rest.drop extra) <;> rfl

theorem lexemesFrom_innerBlank (blank : isInnerBlank first = true) :
    lexemesFrom blocks awaited false (first :: rest) = lexemesFrom blocks awaited false rest := by
  refine @lexemesFrom_of_silent _ _ _ _ 0 ?_
  unfold stepInLine
  rw [if_pos blank]

/-- A line is joined with the next one. -/
theorem lexemesFrom_join (held : rest ≠ []) :
    lexemesFrom blocks awaited false (backslash :: lineFeed :: rest) =
      lexemesFrom blocks awaited false rest := by
  obtain ⟨first, rest, rfl⟩ := List.exists_cons_of_ne_nil held
  exact @lexemesFrom_of_silent _ _ _ _ 1 rfl

/-- A line goes on up to its line feed. -/
theorem takeWhile_lineFeed (plain : lineFeed ∉ run) :
    (run ++ lineFeed :: rest).takeWhile (· ≠ lineFeed) = run := by
  rw [takeWhile_append_stop (by decide), List.takeWhile_eq_self_iff]
  intro point member
  rw [decide_eq_true_eq]
  rintro rfl
  exact plain member

/-- A comment is passed over up to the end of its line. -/
theorem lexemesFrom_hash (plain : lineFeed ∉ run) :
    lexemesFrom blocks awaited false (hash :: (run ++ lineFeed :: rest)) =
      lexemesFrom blocks awaited false (lineFeed :: rest) := by
  have stepped : stepInLine blocks awaited hash (run ++ lineFeed :: rest) =
      some ⟨[], blocks, awaited, false, run.length⟩ := by
    unfold stepInLine
    rw [if_neg (by decide), if_pos rfl, takeWhile_lineFeed plain]
  rw [lexemesFrom_of_silent stepped, List.drop_left]

/-- Inside brackets a line end is a blank. -/
theorem lexemesFrom_lineFeed_open (isOpen : awaited ≠ []) :
    lexemesFrom blocks awaited false (lineFeed :: rest) = lexemesFrom blocks awaited false rest := by
  refine @lexemesFrom_of_silent _ _ _ _ 0 ?_
  unfold stepInLine
  rw [if_neg (by decide), if_neg (by decide), if_pos rfl, if_neg (by rwa [List.isEmpty_iff])]

/-- An opening parenthesis awaits a closing one. -/
theorem lexemesFrom_leftParen (room : awaited.length < bracketLimit) :
    lexemesFrom blocks awaited false (40 :: rest) =
      (lexemesFrom blocks (.rightParen :: awaited) false rest).map (.symbol .leftParen :: ·) := by
  have read : readLexeme ([40] ++ rest) = some (.symbol .leftParen, [(40 : CodePoint)].length) :=
    readLexeme_paren (.inl ⟨rfl, rfl⟩)
  refine lexemesFrom_lexeme rfl (by decide) read ?_
  simp only [trackBrackets, Symbol.closing?, room, ↓reduceIte]

theorem lexemesFrom_rightParen : lexemesFrom blocks (.rightParen :: awaited) false (41 :: rest) =
    (lexemesFrom blocks awaited false rest).map (.symbol .rightParen :: ·) := by
  have read : readLexeme ([41] ++ rest) = some (.symbol .rightParen, [(41 : CodePoint)].length) :=
    readLexeme_rightParen
  exact lexemesFrom_lexeme rfl (by decide) read rfl

/-- A margin ends with a blank or with a line end, and inside a line it is passed over. -/
theorem exists_margin (ends : whole.getLast? = some lineFeed)
    (measured : margin.measureFrom whole = some stop) :
    ∃ front point more, whole = front ++ point :: more ∧
      stop.length = margin.length + front.length ∧ isInnerBlank point = false ∧ point ≠ backslash ∧
      (∀ last ∈ front.getLast?, isInnerBlank last = true ∨ last = lineFeed) ∧
      ∀ blocks awaited rest, rest ≠ [] → lexemesFrom blocks awaited false (front ++ rest) =
        lexemesFrom blocks awaited false rest := by
  fun_induction Margin.measureFrom margin whole with
  | case1 => cases ends
  | case2 margin point next advances =>
      cases ends
      cases advances
  | case3 => cases measured
  | case4 margin point stops noBackslash =>
      cases measured
      exact ⟨[], point, [], rfl, rfl, advance?_eq_none_iff.mp stops, noBackslash,
        by rintro _ ⟨⟩, fun _ _ _ _ => rfl⟩
  | case5 margin point next rest column advances ih =>
      rw [List.getLast?_cons_cons] at ends
      obtain ⟨front, stopPoint, more, split, length, noBlank, noBackslash, isLast, passes⟩ :=
        ih ends measured
      have blank := isInnerBlank_of_advance? advances
      refine ⟨point :: front, stopPoint, more, by rw [split]; rfl, ?_, noBlank, noBackslash, ?_, ?_⟩
      · rw [length, List.length_cons]
        dsimp only
        omega
      · intro last isLastPoint
        cases front with
        | nil => exact .inl (Option.some.inj isLastPoint ▸ blank)
        | cons => exact isLast last (by rwa [List.getLast?_cons_cons] at isLastPoint)
      · intro blocks awaited rest held
        rw [List.cons_append, lexemesFrom_innerBlank blank, passes blocks awaited rest held]
  | case6 margin next rest joins kept stops ih =>
      rw [Bool.and_eq_true, decide_eq_true_eq, Bool.not_eq_true', List.isEmpty_eq_false_iff] at joins
      obtain ⟨rfl, held⟩ := joins
      have endsRest : rest.getLast? = some lineFeed := by
        obtain ⟨third, others, rfl⟩ := List.exists_cons_of_ne_nil held
        rwa [List.getLast?_cons_cons, List.getLast?_cons_cons] at ends
      obtain ⟨front, stopPoint, more, split, length, noBlank, noBackslash, isLast, passes⟩ :=
        ih endsRest measured
      refine ⟨backslash :: lineFeed :: front, stopPoint, more, by rw [split]; rfl, ?_, noBlank,
        noBackslash, ?_, ?_⟩
      · rw [length, List.length_cons, List.length_cons]
        dsimp only
        omega
      · intro last isLastPoint
        rw [List.getLast?_cons_cons] at isLastPoint
        cases front with
        | nil => exact .inr (Option.some.inj isLastPoint).symm
        | cons => exact isLast last (by rwa [List.getLast?_cons_cons] at isLastPoint)
      · intro blocks awaited rest held
        rw [List.cons_append, List.cons_append,
          lexemesFrom_join (List.append_ne_nil_of_right_ne_nil _ held), passes blocks awaited rest held]
  | case7 => cases measured
  | case8 margin point next rest stops noBackslash =>
      cases measured
      exact ⟨[], point, next :: rest, rfl, rfl, advance?_eq_none_iff.mp stops, noBackslash,
        by rintro _ ⟨⟩, fun _ _ _ _ => rfl⟩

/-- The changes of blocks are marks of indentation. -/
theorem edge_of_changeBlocks {column : Column} {changes : List Lexeme × List Column}
    (changed : changeBlocks column blocks = some changes) :
    ∀ lexeme ∈ changes.1, lexeme = .indent ∨ lexeme = .dedent := by
  unfold changeBlocks at changed
  split at changed
  · cases changed
  · split at changed
    · split at changed
      · cases changed
        exact fun lexeme member => .inl (List.mem_singleton.mp member)
      · cases changed
    · obtain ⟨left, -, rfl⟩ := Option.map_eq_some_iff.mp changed
      exact fun lexeme member => .inr (List.eq_of_mem_replicate member)

/-- Where a lexeme begins, a step takes it. -/
theorem exists_of_stepInLine_begins {step : LexemeStep} (begins : BeginsLexeme first)
    (stepped : stepInLine blocks awaited first rest = some step) :
    ∃ lexeme, step.lexemes = [lexeme] ∧ lexeme.isInline = true := by
  unfold stepInLine at stepped
  rw [if_neg (Bool.eq_false_iff.mp begins.1), if_neg begins.2.1, if_neg begins.2.2.1,
    if_neg begins.2.2.2] at stepped
  obtain ⟨⟨lexeme, length⟩, read, stepped⟩ := Option.bind_eq_some_iff.mp stepped
  obtain ⟨awaitedAfter, -, stepped⟩ := Option.bind_eq_some_iff.mp stepped
  cases stepped
  exact ⟨lexeme, rfl, (isFitting_readLexeme read).inline⟩

/-- A line is a margin with a comment, with nothing or with a lexeme behind it. -/
theorem exists_of_stepAtLineStart {step : LexemeStep}
    (ends : (first :: rest).getLast? = some lineFeed)
    (stepped : stepAtLineStart blocks first rest = some step) :
    ∃ front point more, first :: rest = front ++ point :: more ∧
      (∀ last ∈ front.getLast?, isInnerBlank last = true ∨ last = lineFeed) ∧
      (∀ blocks awaited rest, rest ≠ [] → lexemesFrom blocks awaited false (front ++ rest) =
        lexemesFrom blocks awaited false rest) ∧
      ((point = lineFeed ∧ step = ⟨[], blocks, [], true, front.length⟩ ∨
        point = hash ∧ step = ⟨[], blocks, [], true,
          front.length + (more.takeWhile (· ≠ lineFeed)).length + 1⟩) ∨
        BeginsLexeme point ∧ ∃ column changes inner, changeBlocks column blocks = some changes ∧
          stepInLine changes.2 [] point more = some inner ∧ step = { inner with
            lexemes := changes.1 ++ inner.lexemes, extra := front.length + inner.extra }) := by
  unfold stepAtLineStart at stepped
  obtain ⟨stop, measured, stepped⟩ := Option.bind_eq_some_iff.mp stepped
  obtain ⟨front, point, more, split, length, noBlank, noBackslash, isLast, passes⟩ :=
    exists_margin ends measured
  have start : Margin.start.length = 0 := rfl
  rw [start, Nat.zero_add] at length
  refine ⟨front, point, more, split, isLast, passes, ?_⟩
  rw [split, length, List.drop_left] at stepped
  dsimp only at stepped
  split at stepped
  · next isHash =>
      cases stepped
      exact .inl (.inr ⟨isHash, rfl⟩)
  next noHash =>
  split at stepped
  · next isFeed =>
      cases stepped
      exact .inl (.inl ⟨isFeed, rfl⟩)
  next noFeed =>
  obtain ⟨changes, changed, stepped⟩ := Option.bind_eq_some_iff.mp stepped
  obtain ⟨inner, steppedInner, stepped⟩ := Option.bind_eq_some_iff.mp stepped
  cases stepped
  exact .inr ⟨⟨noBlank, noHash, noFeed, noBackslash⟩, _, changes, inner, changed, steppedInner, rfl⟩

/-- A text ends inside a line, not with its blanks. -/
def EndsInside (run : Text) : Prop :=
  ∀ last ∈ run.getLast?, isInnerBlank last = false ∧ last ≠ lineFeed

theorem EndsInside.behind {front : Text} (ends : EndsInside (front ++ rest)) : EndsInside rest := by
  intro last isLast
  refine ends last ?_
  rw [List.getLast?_append, isLast]
  rfl

/-- Behind a line end, a text that ends inside a line goes on. -/
theorem EndsInside.ne_nil {front : Text} (ends : EndsInside (front ++ lineFeed :: rest)) :
    rest ≠ [] := by
  rintro rfl
  exact (ends lineFeed (by simp)).2 rfl

variable {closing : Text}

/-- No bracket is closed in the line of a comment. -/
theorem lexemesFrom_hash_closing (isOpen : awaited ≠ []) (plain : lineFeed ∉ run)
    (plainClosing : lineFeed ∉ closing) :
    lexemesFrom blocks awaited false (hash :: (run ++ (closing ++ [lineFeed]))) = none := by
  have noFeed : lineFeed ∉ run ++ closing := by
    rw [List.mem_append, not_or]
    exact ⟨plain, plainClosing⟩
  rw [← List.append_assoc, lexemesFrom_hash noFeed, lexemesFrom_lineFeed_open isOpen, lexemesFrom,
    if_neg (by rwa [List.isEmpty_iff])]

/-- **A text that ends inside a line is scanned from its first line with a lexeme on**, inside
brackets as well as outside. Without such a line it ends with a comment, and no bracket is closed
behind it. -/
theorem exists_first_line (isOpen : awaited ≠ []) (plain : lineFeed ∉ closing)
    (bound : Nat) : ∀ {run : Text}, run.length ≤ bound → run ≠ [] → EndsInside run →
    lexemesFrom blocks [] true (run ++ [lineFeed]) = some found →
    (.lineEnd ∉ found ∧ lexemesFrom kept awaited false (run ++ (closing ++ [lineFeed])) = none) ∨
    ∃ line column changes later, line ≠ [] ∧ EndsInside line ∧
      changeBlocks column blocks = some changes ∧ later ≠ [] ∧ changes.1 ++ later = found ∧
      lexemesFrom changes.2 [] false (line ++ [lineFeed]) = some later ∧
      lexemesFrom kept awaited false (run ++ (closing ++ [lineFeed])) =
        lexemesFrom kept awaited false (line ++ (closing ++ [lineFeed])) := by
  induction bound with
  | zero => exact fun fits held => (held (List.eq_nil_of_length_eq_zero (Nat.le_zero.mp fits))).elim
  | succ bound ih =>
      intro run fits held ends scanned
      obtain ⟨first, after, rfl⟩ := List.exists_cons_of_ne_nil held
      have last : (first :: (after ++ [lineFeed])).getLast? = some lineFeed := by
        rw [← List.cons_append, List.getLast?_append]
        rfl
      rw [List.cons_append, lexemesFrom_cons, if_pos rfl] at scanned
      obtain ⟨step, stepped, scanned⟩ := Option.bind_eq_some_iff.mp scanned
      obtain ⟨later, scannedLater, isFound⟩ := Option.map_eq_some_iff.mp scanned
      obtain ⟨front, point, more, split, isLast, passes, shape⟩ :=
        exists_of_stepAtLineStart last stepped
      rw [← List.cons_append] at split
      rcases List.eq_nil_or_concat more with rfl | ⟨inside, final, rfl⟩
      · -- The text would end with its margin.
        have isFront := (List.append_inj' split rfl).1
        obtain ⟨final, isFinal⟩ : ∃ final, front.getLast? = some final := by
          rw [← isFront]
          exact ⟨_, List.getLast?_cons⟩
        have inside := ends final (isFront ▸ isFinal)
        rcases isLast final isFinal with isBlank | isFeed
        · rw [inside.1] at isBlank
          cases isBlank
        · exact (inside.2 isFeed).elim
      rw [List.concat_eq_append, ← List.cons_append, ← List.append_assoc] at split
      obtain ⟨isRun, isFeed⟩ := List.append_inj' split rfl
      obtain rfl := (List.cons.inj isFeed).1
      have endsInside : EndsInside (point :: inside) := by
        rw [isRun] at ends
        exact ends.behind
      have length := congrArg List.length isRun
      rw [List.length_append, List.length_cons, List.length_cons] at length
      rw [List.length_cons] at fits
      have whole : ∀ rest, (first :: after) ++ rest = front ++ (point :: (inside ++ rest)) := by
        intro rest
        rw [isRun, List.append_assoc, List.cons_append]
      have behind : ∀ count, (after ++ [lineFeed]).drop (front.length + count) =
          (inside ++ [lineFeed]).drop count := by
        intro count
        have dropped := congrArg (List.drop (front.length + 1 + count)) (whole [lineFeed])
        rw [Nat.add_right_comm, List.cons_append, List.drop_succ_cons] at dropped
        rw [dropped, Nat.add_assoc, ← List.drop_drop, List.drop_left, List.drop_succ_cons]
      rw [whole, passes _ _ _ (List.cons_ne_nil _ _)]
      rcases shape with (⟨rfl, rfl⟩ | ⟨rfl, rfl⟩) | ⟨begins, column, changes, inner, changed, taken, rfl⟩
      · obtain rfl : later = found := isFound
        dsimp only at scannedLater
        have following := behind 0
        rw [Nat.add_zero, List.drop_zero] at following
        rw [following] at scannedLater
        have held : inside ≠ [] := @EndsInside.ne_nil _ [] endsInside
        rw [lexemesFrom_lineFeed_open isOpen]
        exact ih (by omega) held (@EndsInside.behind _ [_] endsInside) scannedLater
      · obtain rfl : later = found := isFound
        dsimp only at scannedLater
        by_cases feeds : lineFeed ∈ inside
        · obtain ⟨comment, next, rfl, noFeed⟩ := List.eq_append_cons_of_mem feeds
          rw [List.concat_eq_append, List.append_assoc, List.cons_append, takeWhile_lineFeed noFeed,
            Nat.add_assoc, behind, List.append_assoc, List.cons_append, ← List.drop_drop,
            List.drop_left, List.drop_one, List.tail_cons] at scannedLater
          rw [List.append_assoc, List.cons_append, lexemesFrom_hash noFeed,
            lexemesFrom_lineFeed_open isOpen]
          rw [List.length_append, List.length_cons] at length
          have endsNext : EndsInside (lineFeed :: next) := by
            rw [← List.cons_append] at endsInside
            exact endsInside.behind
          exact ih (by omega) (@EndsInside.ne_nil _ [] endsNext) (@EndsInside.behind _ [_] endsNext)
            scannedLater
        · -- The comment is the last line.
          refine .inl ⟨?_, lexemesFrom_hash_closing isOpen feeds plain⟩
          rw [List.concat_eq_append, takeWhile_lineFeed feeds, Nat.add_assoc, behind,
            List.drop_of_length_le (by simp), lexemesFrom] at scannedLater
          cases scannedLater
          intro member
          cases List.eq_of_mem_replicate member
      · obtain ⟨lexeme, single, -⟩ := exists_of_stepInLine_begins begins taken
        refine .inr ⟨point :: inside, column, changes, inner.lexemes ++ later, List.cons_ne_nil _ _,
          endsInside, changed, ?_, ?_, ?_, ?_⟩
        · rw [single]
          exact List.cons_ne_nil _ _
        · rw [← isFound, List.append_assoc]
        · rw [List.cons_append, lexemesFrom_cons, if_neg Bool.false_ne_true]
          rw [List.concat_eq_append] at taken
          rw [taken, Option.bind_some]
          dsimp only at scannedLater
          rw [behind] at scannedLater
          rw [scannedLater]
          rfl
        · rw [List.cons_append]

/-- A lexeme in front of the end of its line ends there, at the latest. -/
theorem length_le_of_readLexeme_line {lexeme : Lexeme} {length : Nat} (held : run ≠ [])
    (read : readLexeme (run ++ [lineFeed]) = some (lexeme, length)) : length ≤ run.length := by
  cases announced : stringLetters? (run ++ [lineFeed]) with
  | none =>
      have within : 0 < run.length := List.length_pos_iff.mpr held
      have same : SameRun (run ++ [lineFeed]) (run ++ [lineFeed]) := sameRun_append run rfl rfl
      rcases isSolid_readLexeme announced read with solid | ⟨-, rfl⟩
      · have lt := same.lt_of_isSolid solid
        rw [List.length_append, List.length_singleton] at lt
        exact Nat.le_of_lt_succ lt
      · exact within
  | some count =>
      obtain ⟨letters, kind, mark, isLong, body, rest, isString, -, split, -, rfl⟩ :=
        exists_string_of_readLexeme announced read
      -- A string ends with a mark, and the text does not.
      rcases List.eq_nil_or_concat rest with rfl | ⟨rest, last, rfl⟩
      · have isLast := congrArg List.getLast? split
        rw [List.append_nil, List.getLast?_append, getLast?_stringText] at isLast
        exact (ne_lineFeed_of_isQuotationMark isString.quotes (Option.some.inj isLast).symm).elim
      · have length := congrArg List.length split
        simp only [List.length_append, List.concat_eq_append, List.length_singleton] at length
        omega

/-- A lexeme is the same where its line ends and where a bracket is closed behind the line. -/
theorem readLexeme_closing {lexeme : Lexeme} {length : Nat} {stop : CodePoint} (held : run ≠ [])
    (ends : endsLexeme stop = true) (read : readLexeme (run ++ [lineFeed]) = some (lexeme, length)) :
    readLexeme (run ++ stop :: rest) = some (lexeme, length) := by
  have within := length_le_of_readLexeme_line held read
  refine readLexeme_congr (sameRun_append run rfl ends) read ?_
  rw [List.take_append_of_le_length within, List.take_append_of_le_length within]

/-- The end of a line is all that is read of it where it stands first. -/
theorem eq_nil_of_lexemesFrom_lineFeed (inline : Inline found)
    (scanned : lexemesFrom blocks [] false (lineFeed :: rest) = some (found ++ [.lineEnd])) :
    found = [] ∧ lexemesFrom blocks [] true rest = some [] := by
  rw [lexemesFrom_lineFeed] at scanned
  obtain ⟨later, scannedLater, same⟩ := Option.map_eq_some_iff.mp scanned
  cases found with
  | nil =>
      obtain rfl := (List.cons.inj same).2
      exact ⟨rfl, scannedLater⟩
  | cons start found =>
      obtain rfl := (List.cons.inj same).1
      cases inline .lineEnd List.mem_cons_self

/-- **A line that is read by itself is read in the same way inside further brackets**, if these can
be closed behind it at all. -/
theorem lexemesFrom_enclosed (isOpen : outer ≠ []) (plain : lineFeed ∉ closing)
    (ends : closing.head?.any endsLexeme = true) (inside : EndsInside run) (inline : Inline found)
    (scanned : lexemesFrom blocks awaited false (run ++ [lineFeed]) = some (found ++ [.lineEnd]))
    (closed : (lexemesFrom kept (awaited ++ outer) false
      (run ++ (closing ++ [lineFeed]))).isSome = true) :
    lexemesFrom kept (awaited ++ outer) false (run ++ (closing ++ [lineFeed])) =
      (lexemesFrom kept outer false (closing ++ [lineFeed])).map (found ++ ·) := by
  have held : ∀ awaited, awaited ++ outer ≠ [] := fun _ =>
    List.append_ne_nil_of_right_ne_nil _ isOpen
  induction count : run.length using Nat.strongRecOn generalizing run awaited found with
  | ind count ih =>
  cases run with
  | nil =>
      rw [List.nil_append] at scanned
      cases awaited with
      | nil =>
          obtain ⟨rfl, -⟩ := eq_nil_of_lexemesFrom_lineFeed inline scanned
          rw [List.nil_append, List.nil_append]
          cases lexemesFrom kept outer false (closing ++ [lineFeed]) <;> rfl
      | cons symbol awaited =>
          rw [lexemesFrom_lineFeed_open (List.cons_ne_nil _ _), lexemesFrom] at scanned
          cases scanned
  | cons first after =>
  rw [List.length_cons] at count
  have insideAfter : EndsInside after := @EndsInside.behind _ [first] inside
  rw [List.cons_append] at scanned closed ⊢
  by_cases blank : isInnerBlank first = true
  · rw [lexemesFrom_innerBlank blank] at scanned closed ⊢
    exact ih _ (by omega) insideAfter inline scanned closed rfl
  by_cases isHash : first = hash
  · subst isHash
    by_cases feeds : lineFeed ∈ after
    · obtain ⟨comment, next, rfl, noFeed⟩ := List.eq_append_cons_of_mem feeds
      rw [List.append_assoc, List.cons_append, lexemesFrom_hash noFeed] at scanned closed ⊢
      rw [List.length_append] at count
      exact ih _ (by omega) insideAfter.behind inline scanned closed rfl
    · rw [lexemesFrom_hash_closing (held _) feeds plain] at closed
      cases closed
  by_cases isFeed : first = lineFeed
  · subst isFeed
    rw [lexemesFrom_lineFeed_open (held _)] at closed ⊢
    cases awaited with
    | nil =>
        -- No lexeme follows, so the brackets would be closed in a comment.
        obtain ⟨-, silent⟩ := eq_nil_of_lexemesFrom_lineFeed inline scanned
        rcases @exists_first_line _ kept _ _ _ (held []) plain _ after (Nat.le_refl _)
          (@EndsInside.ne_nil _ [] inside) insideAfter silent with ⟨-, stays⟩ |
            ⟨_, _, _, later, -, -, -, goesOn, isNil, -, -⟩
        · rw [stays] at closed
          cases closed
        · exact (goesOn (List.append_eq_nil_iff.mp isNil).2).elim
    | cons symbol awaited =>
        rw [lexemesFrom_lineFeed_open (List.cons_ne_nil _ _)] at scanned
        exact ih _ (by omega) insideAfter inline scanned closed rfl
  have scannedStep := scanned
  rw [lexemesFrom_cons, if_neg Bool.false_ne_true] at scannedStep
  obtain ⟨step, stepped, scannedStep⟩ := Option.bind_eq_some_iff.mp scannedStep
  unfold stepInLine at stepped
  rw [if_neg blank, if_neg isHash, if_neg isFeed] at stepped
  by_cases isBackslash : first = backslash
  · subst isBackslash
    rw [if_pos rfl] at stepped
    split at stepped
    · next second others joins =>
        cases after with
        | nil => cases joins
        | cons next after =>
            obtain rfl := (List.cons.inj joins).1
            rw [List.length_cons] at count
            rw [List.cons_append, lexemesFrom_join (List.append_ne_nil_of_right_ne_nil _ (by simp))]
              at scanned closed ⊢
            exact ih _ (by omega) (@EndsInside.behind _ [_] insideAfter) inline scanned closed rfl
    · cases stepped
  · rw [if_neg isBackslash] at stepped
    obtain ⟨⟨lexeme, length⟩, read, stepped⟩ := Option.bind_eq_some_iff.mp stepped
    obtain ⟨awaitedAfter, tracked, stepped⟩ := Option.bind_eq_some_iff.mp stepped
    cases stepped
    have fitting := isFitting_readLexeme read
    have within : length ≤ (first :: after).length :=
      length_le_of_readLexeme_line (List.cons_ne_nil _ _) read
    obtain ⟨stop, isStop, endsStop⟩ := (Option.any_eq_true _ _).mp ends
    obtain ⟨others, rfl⟩ := List.head?_eq_some_iff.mp isStop
    have readClosing : readLexeme (first :: (after ++ (stop :: others ++ [lineFeed]))) =
        some (lexeme, length) := readLexeme_closing (List.cons_ne_nil _ _) endsStop read
    rw [List.length_cons] at within
    have short : length - 1 ≤ after.length := by omega
    rw [lexemesFrom_cons, if_neg Bool.false_ne_true, stepInLine_of_begins
      ⟨Bool.eq_false_iff.mpr blank, isHash, isFeed, isBackslash⟩ readClosing] at closed ⊢
    rcases trackBrackets_append outer tracked with goesOn | stops
    · rw [goesOn, Option.map_some, Option.bind_some] at closed ⊢
      dsimp only at closed scannedStep ⊢
      rw [List.drop_append_of_le_length short] at closed scannedStep ⊢
      obtain ⟨later, scannedLater, same⟩ := Option.map_eq_some_iff.mp scannedStep
      cases found with
      | nil =>
          obtain rfl := (List.cons.inj same).1
          cases fitting.inline
      | cons start found =>
          obtain ⟨rfl, rfl⟩ := List.cons.inj same
          rw [Option.isSome_map] at closed
          have insideRest : EndsInside (after.drop (length - 1)) := by
            rw [← List.take_append_drop (length - 1) after] at insideAfter
            exact insideAfter.behind
          rw [ih _ (by rw [List.length_drop]; omega) insideRest
            (fun other member => inline other (List.mem_cons_of_mem _ member)) scannedLater closed rfl,
            Option.map_map]
          rfl
    · rw [stops] at closed
      cases closed

/-- A text that is read as a line is read in the same way inside brackets, whatever comments and
empty lines stand in front of the line. -/
theorem lexemesFrom_enclosed_text (isOpen : outer ≠ []) (plain : lineFeed ∉ closing)
    (ends : closing.head?.any endsLexeme = true) (held : run ≠ []) (inside : EndsInside run)
    (inline : Inline found)
    (scanned : lexemesFrom blocks [] true (run ++ [lineFeed]) = some (found ++ [.lineEnd]))
    (closed : (lexemesFrom kept outer false (run ++ (closing ++ [lineFeed]))).isSome = true) :
    lexemesFrom kept outer false (run ++ (closing ++ [lineFeed])) =
      (lexemesFrom kept outer false (closing ++ [lineFeed])).map (found ++ ·) := by
  rcases @exists_first_line _ kept _ _ _ isOpen plain _ run (Nat.le_refl _) held inside scanned with
    ⟨noEnd, -⟩ | ⟨line, column, changes, later, -, insideLine, changed, goesOn, isFound, scannedLine,
      same⟩
  · exact (noEnd (List.mem_append_right _ (List.mem_singleton_self _))).elim
  · obtain ⟨edges, remaining⟩ := changes
    dsimp only at isFound scannedLine
    cases edges with
    | nil =>
        obtain rfl := isFound
        rw [same] at closed ⊢
        exact lexemesFrom_enclosed isOpen plain ends insideLine inline scannedLine closed
    | cons edge edges =>
        have isEdge := edge_of_changeBlocks changed edge List.mem_cons_self
        cases found with
        | nil =>
            obtain rfl := (List.cons.inj isFound).1
            rcases isEdge with isEdge | isEdge <;> cases isEdge
        | cons start found =>
            obtain rfl := (List.cons.inj isFound).1
            have isInline := inline _ List.mem_cons_self
            rcases isEdge with rfl | rfl <;> cases isInline

end Stencil.Script
