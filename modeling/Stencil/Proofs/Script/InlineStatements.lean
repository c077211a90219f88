import Stencil.Proofs.Script.InlinePatterns
import Stencil.Proofs.Script.StatementTwins

/-! # Lines that hold simple statements

A simple statement is read inside its line, and so are the headers of blocks up to their colons. The
simple statements of a line take the line to its end, whatever lines stand behind it
(`Stencil.Script.takesLine_simpleStatements`).
-/

namespace Stencil.Script

open Reader

variable {inner : Inner} {α : Type}

theorem inlineReader_assignedValue (inline : inner.IsInline) :
    InlineReader (fun _ => 1) (assignedValue inner) := by
  unfold assignedValue
  exact .nextIs_bind rfl fun isYield =>
    .ite (inlineReader_yieldExpression inline) (inlineReader_starExpressions inline)

theorem inlineReader_hintedRest (inline : inner.IsInline) {target : Target} {isSimple : Bool} :
    InlineReader (fun _ => 0) (hintedRest inner target isSimple) := by
  unfold hintedRest
  refine .expectSymbol_bind (inline.expression.free.bind fun hint => .acceptSymbol_ite rfl ?_
    (.handed (.pure rfl)))
  exact .before (.map (inlineReader_assignedValue inline).free) fun value => .pure rfl

theorem inlineReader_assignmentRest (inline : inner.IsInline) {first : Expr} :
    InlineReader (fun _ => 0) (assignmentRest inner first) := by
  unfold assignmentRest
  refine .bind (.repeatFrom fun found => .ite (.pure rfl) (.acceptSymbol_ite rfl ?_ (.pure rfl)))
    fun found => ?_
  · refine .nextIs_bind rfl fun isYield => .ite ?_ ?_
    · exact (inlineReader_yieldExpression inline).free.bind fun value => .pure rfl
    · exact (inlineReader_starExpressions inline).free.bind fun value => .pure rfl
  · split
    · exact .refuse
    · exact .pure rfl
    · exact .ofOption_bind fun targets => .pure rfl

theorem inlineReader_assignmentOrRow (inline : inner.IsInline) :
    InlineReader (fun _ => 0) (assignmentOrRow inner) := by
  unfold assignmentOrRow
  refine (inlineReader_starExpressions inline).free.bind fun first => .peek_bind (fun next => ?_)
    fun stop stops => ?_
  · split
    · exact .ofOption_bind fun target => .require_bind (inlineReader_hintedRest inline)
    · refine .ofOption_bind fun target => .require_bind (.expectSymbol_bind ?_)
      exact (inlineReader_assignedValue inline).free.bind fun value => .pure rfl
    · exact inlineReader_assignmentRest inline
  · rcases Lexeme.isStop_cases stops with rfl | rfl | rfl | rfl <;> rfl

theorem inlineReader_assignmentOrExpression (inline : inner.IsInline) :
    InlineReader (fun _ => 0) (assignmentOrExpression inner) := by
  unfold assignmentOrExpression
  refine .peekSecond_bind (fun first second => ?_) (fun stop stops second => ?_)
    fun stop stops first => ?_
  · split
    · exact .expectName_bind fun _ => inlineReader_hintedRest inline
    · exact (inlineReader_yieldExpression inline).free.bind fun value => .pure rfl
    · exact inlineReader_assignmentOrRow inline
  · rcases Lexeme.isStop_cases stops with rfl | rfl | rfl | rfl <;> rfl
  · rcases Lexeme.isStop_cases stops with rfl | rfl | rfl | rfl <;> cases first with
      | none => rfl
      | some first => cases first <;> first | rfl | (rename_i word; cases word <;> rfl)

theorem inlineReader_nameList : InlineReader (fun _ => 0) nameList := by
  unfold nameList
  refine .expectName_bind fun first => .before (.row rfl InlineReader.expectName.free) fun found => .pure rfl

theorem inlineReader_dottedName : InlineReader (fun _ => 0) dottedName := by
  unfold dottedName
  refine .expectName_bind fun first => .before (.row rfl InlineReader.expectName.free) fun found => .pure rfl

theorem inlineReader_givenName : InlineReader (fun _ => 0) Script.givenName := by
  unfold Script.givenName
  exact .acceptKeyword_ite (.map InlineReader.expectName.free) (.pure rfl)

theorem inlineReader_importedModules : InlineReader (fun _ => 0) importedModules := by
  have item : InlineReader (fun _ => 0) (do
      let path ← dottedName
      return Alias.mk path (← Script.givenName)) :=
    inlineReader_dottedName.bind fun path => inlineReader_givenName.bind fun given => .pure rfl
  unfold importedModules
  exact item.bind fun first => .before (.row rfl item) fun found => .pure rfl

theorem isNameLexeme_stop {stop : Lexeme} (stops : stop.isStop = true) :
    isNameLexeme stop = false := by
  rcases Lexeme.isStop_cases stops with rfl | rfl | rfl | rfl <;> rfl

theorem inlineReader_importedItems (dots : Nat) (path : List Name) :
    InlineReader (fun _ => 0) (importedItems dots path) := by
  have item : InlineReader (fun _ => 1) (do
      let name ← expectName
      return Alias.mk [name] (← Script.givenName)) :=
    .expectName_bind fun name => inlineReader_givenName.bind fun given => .pure rfl
  unfold importedItems
  refine .expectKeyword_bind (.acceptSymbol_ite rfl (.pure rfl) (.acceptSymbol_ite rfl ?_ ?_))
  · exact .before (InlineReader.items item fun _ => isNameLexeme_stop).free
      fun found => .expectSymbol_bind (.pure rfl)
  · exact item.free.bind fun first => .before (.row rfl item.free) fun found => .pure rfl

theorem inlineReader_importedNames : InlineReader (fun _ => 0) importedNames := by
  unfold importedNames
  refine .before (.repeatFrom fun found => ?_) fun dots => .peek_bind (fun next => ?_)
    fun stop stops => ?_
  · exact .acceptSymbol_ite rfl (.pure rfl) (.acceptSymbol_ite rfl (.pure rfl) (.pure rfl))
  · exact .ite (inlineReader_dottedName.bind fun path => inlineReader_importedItems dots path)
      (.ite (inlineReader_dottedName.bind fun path => inlineReader_importedItems dots path)
        (inlineReader_importedItems dots []))
  · simp only [Option.any_some, isNameLexeme_stop stops, Option.any_none]

theorem inlineReader_deletedTargets (inline : inner.IsInline) :
    InlineReader (fun _ => 0) (deletedTargets inner) := by
  unfold deletedTargets
  exact .before (InlineReader.items inline.primary fun _ => startsExpression_stop).free
    fun found => .ofOption_bind fun targets => .require_bind (.pure rfl)

theorem inlineReader_raisedException (inline : inner.IsInline) :
    InlineReader (fun _ => 0) (raisedException inner) := by
  unfold raisedException
  refine .peek_ite (fun _ => startsExpression_stop) ?_ (.pure rfl)
  refine inline.expression.free.bind fun exception => .acceptKeyword_ite ?_ (.pure rfl)
  exact inline.expression.free.bind fun cause => .pure rfl

theorem inlineReader_assertedTest (inline : inner.IsInline) :
    InlineReader (fun _ => 0) (assertedTest inner) := by
  unfold assertedTest
  refine inline.expression.free.bind fun test => .acceptSymbol_ite rfl ?_ (.pure rfl)
  exact inline.expression.free.bind fun message => .pure rfl

theorem inlineReader_simpleStatement (inline : inner.IsInline) :
    InlineReader (fun _ => 0) (simpleStatement inner) := by
  unfold simpleStatement
  refine .acceptKeyword_ite (.pure rfl) (.acceptKeyword_ite (.pure rfl)
    (.acceptKeyword_ite (.pure rfl) (.acceptKeyword_ite ?_
    (.acceptKeyword_ite (inlineReader_raisedException inline)
    (.acceptKeyword_ite ?_ (.acceptKeyword_ite ?_
    (.acceptKeyword_ite (inlineReader_deletedTargets inline)
    (.acceptKeyword_ite (inlineReader_assertedTest inline)
    (.acceptKeyword_ite inlineReader_importedModules
    (.acceptKeyword_ite inlineReader_importedNames
      (inlineReader_assignmentOrExpression inline)))))))))))
  · refine .peek_ite (fun _ => startsItem_stop) ?_ (.pure rfl)
    exact (inlineReader_starExpressions inline).free.bind fun value => .pure rfl
  · exact inlineReader_nameList.bind fun names => .pure rfl
  · exact inlineReader_nameList.bind fun names => .pure rfl

/-- A reader takes the rest of a line with its end, whatever stands behind it. -/
def TakesLine (reader : Reader α) : Prop :=
  ∀ front, Inline front →
    (∀ behind, reader (front ++ .lineEnd :: behind) = none) ∨
    ∃ value, ∀ behind, reader (front ++ .lineEnd :: behind) = some (value, behind)

/-- One more statement of a line, unless the line has ended. -/
def lineStep (inner : Inner) (found : List Stmt × Bool) :
    Reader (Option (List Stmt × Bool)) := do
  let (statements, isEnded) := found
  if isEnded then return none
  if ← accept .lineEnd then return some (statements, true)
  expectSymbol .semicolon
  if ← accept .lineEnd then return some (statements, true)
  return some ((← simpleStatement inner) :: statements, false)

theorem repeatWithin_lineStep_ended {bound behind : List Lexeme} {statements : List Stmt} :
    repeatWithin (lineStep inner) bound (statements, true) behind =
      some ((statements, true), behind) := by
  cases bound <;> rfl

/-- Behind the last statement of a line its end is taken. -/
theorem repeatWithin_lineStep_nil {bound behind : List Lexeme} {statements : List Stmt}
    (room : bound ≠ []) :
    repeatWithin (lineStep inner) bound (statements, false) (.lineEnd :: behind) =
      some ((statements, true), behind) := by
  cases bound with
  | nil => exact (room rfl).elim
  | cons first bound => exact repeatWithin_lineStep_ended

/-- The further statements of a line take it to its end, and its length bounds their number. -/
theorem takesLine_repeatWithin (inline : inner.IsInline) (count : Nat) :
    ∀ statements front, front.length = count → Inline front →
      (∀ bound behind, count < bound.length →
        repeatWithin (lineStep inner) bound (statements, false) (front ++ .lineEnd :: behind) =
          none) ∨
      ∃ value, ∀ bound behind, count < bound.length →
        repeatWithin (lineStep inner) bound (statements, false) (front ++ .lineEnd :: behind) =
          some (value, behind) := by
  induction count using Nat.strongRecOn with
  | ind count ih =>
      intro statements front isCount inside
      have unfoldStep : ∀ (bound : List Lexeme) (rest : List Lexeme), count < bound.length →
          repeatWithin (lineStep inner) bound (statements, false) rest =
            (lineStep inner (statements, false) rest).bind fun stepped =>
              match stepped.1 with
              | none => some ((statements, false), stepped.2)
              | some next => repeatWithin (lineStep inner) bound.tail next stepped.2 := by
        intro bound rest room
        cases bound with
        | nil => exact (Nat.not_lt_zero _ room).elim
        | cons first bound =>
            rw [repeatWithin, bind_apply]
            refine congrArg _ (funext fun stepped => ?_)
            obtain ⟨next, rest⟩ := stepped
            cases next <;> rfl
      cases front with
      | nil =>
          exact .inr ⟨(statements, true), fun bound behind room =>
            repeatWithin_lineStep_nil (by rintro rfl; exact Nat.not_lt_zero _ room)⟩
      | cons first front =>
          have notEnd : first ≠ .lineEnd := by
            rintro rfl
            cases inside _ List.mem_cons_self
          by_cases isSemicolon : first = .symbol .semicolon
          case neg =>
            refine .inl fun bound behind room => ?_
            rw [unfoldStep bound _ room]
            have refuses : lineStep inner (statements, false) (first :: front ++ .lineEnd :: behind) =
                none := by
              unfold lineStep
              simp only [Bool.false_eq_true, ↓reduceIte, bind_apply, accept, List.cons_append,
                notEnd, Option.bind_some, expectSymbol, expect, isSemicolon, Option.bind_none]
            rw [refuses]
            rfl
          subst isSemicolon
          have insideRest : Inline front := fun lexeme member =>
            inside lexeme (List.mem_cons_of_mem _ member)
          have stepped : ∀ behind, lineStep inner (statements, false)
              (.symbol .semicolon :: front ++ .lineEnd :: behind) =
              (do
                if ← accept .lineEnd then return some (statements, true)
                return some ((← simpleStatement inner) :: statements, false) :
                  Reader (Option (List Stmt × Bool))) (front ++ .lineEnd :: behind) :=
            fun behind => rfl
          cases front with
          | nil =>
              refine .inr ⟨(statements, true), fun bound behind room => ?_⟩
              rw [unfoldStep bound _ room, stepped]
              exact repeatWithin_lineStep_ended
          | cons second front =>
              have goesOn : ∀ behind, lineStep inner (statements, false)
                  (.symbol .semicolon :: second :: front ++ .lineEnd :: behind) =
                  (simpleStatement inner (second :: front ++ .lineEnd :: behind)).bind fun found =>
                    some (some (found.1 :: statements, false), found.2) := by
                intro behind
                have notEnd : second ≠ .lineEnd := by
                  rintro rfl
                  cases insideRest _ List.mem_cons_self
                rw [stepped]
                simp only [bind_apply, accept, List.cons_append, notEnd, ↓reduceIte,
                  Option.bind_some, Bool.false_eq_true]
                rfl
              rcases inlineReader_simpleStatement inline (second :: front) with
                refuses | ⟨statement, taken, rest, split, -, reads⟩
              · refine .inl fun bound behind room => ?_
                rw [unfoldStep bound _ room, goesOn, refuses .lineEnd behind rfl]
                rfl
              · have shorter : rest.length < count := by
                  have lengths := congrArg List.length split
                  rw [List.length_append] at lengths
                  rw [← isCount, List.length_cons, lengths]
                  omega
                have insideTail : Inline rest := fun lexeme member =>
                  insideRest lexeme (split ▸ List.mem_append_right _ member)
                have same : ∀ bound behind, count < bound.length →
                    rest.length < bound.tail.length ∧
                    repeatWithin (lineStep inner) bound (statements, false)
                      (.symbol .semicolon :: second :: front ++ .lineEnd :: behind) =
                    repeatWithin (lineStep inner) bound.tail (statement :: statements, false)
                      (rest ++ .lineEnd :: behind) := by
                  intro bound behind room
                  refine ⟨?_, ?_⟩
                  · rw [List.length_tail]
                    omega
                  · rw [unfoldStep bound _ room, goesOn, reads .lineEnd behind rfl]
                    rfl
                rcases ih rest.length shorter (statement :: statements) rest rfl insideTail with
                  refuses | ⟨value, readsRest⟩
                · refine .inl fun bound behind room => ?_
                  rw [(same bound behind room).2]
                  exact refuses _ behind (same bound behind room).1
                · refine .inr ⟨value, fun bound behind room => ?_⟩
                  rw [(same bound behind room).2]
                  exact readsRest _ behind (same bound behind room).1

/-- **The simple statements of a line take it to its end.** -/
theorem takesLine_simpleStatements (inline : inner.IsInline) :
    TakesLine (simpleStatements inner) := by
  have parts : ∀ lexemes, simpleStatements inner lexemes =
      (simpleStatement inner lexemes).bind fun first =>
        (repeatFrom (lineStep inner) ([first.1], false) first.2).bind fun last =>
          some (last.1.1.reverse, last.2) := fun _ => rfl
  intro front inside
  rcases inlineReader_simpleStatement inline front with refuses | ⟨first, taken, rest, rfl, -, reads⟩
  · refine .inl fun behind => ?_
    rw [parts, refuses .lineEnd behind rfl]
    rfl
  · have insideRest : Inline rest := fun lexeme member =>
      inside lexeme (List.mem_append_right _ member)
    have room : ∀ behind : List Lexeme, rest.length < (rest ++ .lineEnd :: behind).length := by
      intro behind
      rw [List.length_append, List.length_cons]
      omega
    rcases takesLine_repeatWithin inline rest.length [first] rest rfl insideRest with
      refuses | ⟨value, readsRest⟩
    · refine .inl fun behind => ?_
      rw [parts, reads .lineEnd behind rfl, Option.bind_some, repeatFrom,
        refuses _ behind (room behind)]
      rfl
    · refine .inr ⟨value.1.reverse, fun behind => ?_⟩
      rw [parts, reads .lineEnd behind rfl, Option.bind_some, repeatFrom,
        readsRest _ behind (room behind)]
      rfl

/-- A second reader takes the place of one that refuses, up to the end of the line. -/
theorem InlineReader.orElse {first second : Reader α} (inline : InlineReader (fun _ => 0) first)
    (others : InlineReader (fun _ => 0) second) : LineReader (Reader.orElse first second) := by
  intro front
  rcases inline.line front with refuses | ⟨value, taken, behind, split, reads⟩
  · have same : ∀ stop tail, stop.isInline = false →
        Reader.orElse first second (front ++ stop :: tail) = second (front ++ stop :: tail) := by
      intro stop tail edge
      rw [Reader.orElse, refuses stop tail edge]
    rcases others.line front with refuses | ⟨value, taken, behind, split, reads⟩
    · exact .inl fun stop tail edge => (same stop tail edge).trans (refuses stop tail edge)
    · exact .inr ⟨value, taken, behind, split, fun stop tail edge =>
        (same stop tail edge).trans (reads stop tail edge)⟩
  · refine .inr ⟨value, taken, behind, split, fun stop tail edge => ?_⟩
    rw [Reader.orElse, reads stop tail edge]

theorem inlineReader_withItem (inline : inner.IsInline) :
    InlineReader (fun _ => 1) (withItem inner) := by
  unfold withItem
  refine inline.expression.bind fun context => .acceptKeyword_ite ?_ (.pure rfl)
  refine (inlineReader_starTarget inline.primary).free.bind fun target => .peek_bind_refuse
    (fun next => ?_) fun stop edge => ?_
  · split
    case h_4 => exact .refuse
    all_goals exact .pure rfl
  · cases stop <;> first | rfl | cases edge

theorem inlineReader_parenthesizedItems (inline : inner.IsInline) :
    InlineReader (fun _ => 0) (parenthesizedItems inner) := by
  unfold parenthesizedItems
  refine .expectSymbol_bind (.before (InlineReader.items (inlineReader_withItem inline)
    fun _ => startsExpression_stop).free fun found => ?_)
  exact .expectSymbol_bind (.expectSymbol_bind (.pure rfl))

theorem inlineReader_plainItems (inline : inner.IsInline) :
    InlineReader (fun _ => 0) (plainItems inner) := by
  unfold plainItems
  refine (inlineReader_withItem inline).free.bind fun first => ?_
  exact .before (.row rfl (inlineReader_withItem inline).free) fun found => .expectSymbol_bind (.pure rfl)

/-- The contexts that a line enters. -/
theorem lineReader_enteredItems (inline : inner.IsInline) :
    LineReader (Reader.orElse (parenthesizedItems inner) (plainItems inner)) :=
  (inlineReader_parenthesizedItems inline).orElse (inlineReader_plainItems inline)

end Stencil.Script
