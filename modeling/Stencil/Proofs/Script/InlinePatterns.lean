import Stencil.Proofs.Script.InlineExpressions

/-! # Patterns inside a line

Like the readers of expressions, those of patterns do not see what stands behind the line, and each
takes at least one lexeme of it.
-/

namespace Stencil.Script

open Reader

variable {inner : Inner}

theorem inlineReader_captureName : InlineReader (fun _ => 1) captureName := by
  unfold captureName
  refine .expectName_bind fun name => .require_bind (.peek_bind (fun found => ?_)
    fun stop stops => ?_)
  · split
    case h_4 => exact .pure rfl
    all_goals exact .refuse
  · rcases Lexeme.isStop_cases stops with rfl | rfl | rfl | rfl <;> rfl

/-- The number behind a perhaps missing sign. -/
theorem inlineReader_unsigned {isNegative : Bool} :
    InlineReader (fun _ => 1) (do
      match ← peek with
      | some (.number literal) => do
          expect (.number literal)
          let part (operator : BinaryOperator) : Reader Expr := do
            expectSymbol (.operator operator)
            match ← peek with
            | some (.number (.imaginary mantissa exponent)) => do
                expect (.number (.imaginary mantissa exponent))
                let real ← ofOption (realNumber? isNegative literal)
                return .binary operator real (.constant (.number (.imaginary mantissa exponent)))
            | _ => refuse
          match ← peek with
          | some (.symbol (.operator .add)) => part .add
          | some (.symbol (.operator .subtract)) => part .subtract
          | _ =>
              let value := Expr.constant (.number literal)
              return if isNegative then .unary .minus value else value
      | _ => refuse) := by
  refine .peek_bind (fun found => ?_) fun stop stops => ?_
  · split
    · refine .expect_bind rfl (.peek_bind (fun behind => ?_) fun stop stops => ?_)
      · split
        case h_3 => exact .pure rfl
        all_goals
          refine .expectSymbol_bind (.peek_bind (fun imaginary => ?_) fun stop stops => ?_)
          · split
            · exact .expect_bind rfl (.ofOption_bind fun real => .pure rfl)
            · exact .refuse
          · rcases Lexeme.isStop_cases stops with rfl | rfl | rfl | rfl <;> rfl
      · rcases Lexeme.isStop_cases stops with rfl | rfl | rfl | rfl <;> rfl
    · exact .refuse
  · rcases Lexeme.isStop_cases stops with rfl | rfl | rfl | rfl <;> rfl

theorem inlineReader_patternNumber : InlineReader (fun _ => 1) patternNumber := by
  unfold patternNumber
  exact .acceptSymbol_bind rfl inlineReader_unsigned.free inlineReader_unsigned

theorem inlineReader_patternLiteral (inline : inner.IsInline) :
    InlineReader (fun _ => 1) (patternLiteral inner) := by
  unfold patternLiteral
  refine .peek_bind (fun found => ?_) fun stop stops => ?_
  · split
    · exact inlineReader_atom inline
    · exact .ofOption_bind fun constant => .expectKeyword_bind (.pure rfl)
    · exact inlineReader_patternNumber
  · rcases Lexeme.isStop_cases stops with rfl | rfl | rfl | rfl <;> rfl

theorem inlineReader_dottedExpression : InlineReader (fun _ => 1) dottedExpression := by
  unfold dottedExpression
  refine .expectName_bind fun first => .repeatFrom fun found => ?_
  exact .acceptSymbol_ite rfl (.expectName_bind fun name => .pure rfl) (.pure rfl)

theorem inlineReader_sequenceItem (inline : inner.IsInline) :
    InlineReader (fun _ => 1) (sequenceItem inner) := by
  unfold sequenceItem
  refine .acceptSymbol_ite rfl (.accept_bind rfl (.pure rfl) ?_) inline.pattern
  exact inlineReader_captureName.free.bind fun name => .pure rfl

theorem inlineReader_sequenceItems (inline : inner.IsInline) :
    InlineReader (fun _ => 1) (items (sequenceItem inner) startsSequenceItem) :=
  .items (inlineReader_sequenceItem inline) fun _ => startsSequenceItem_stop

theorem inlineReader_groupedPattern (inline : inner.IsInline) :
    InlineReader (fun _ => 0) (groupedPattern inner) := by
  unfold groupedPattern
  refine .accept_ite rfl (.pure rfl) ?_ fun _ => Nat.zero_le 1
  refine (inlineReader_sequenceItems inline).bind fun found => .expectSymbol_bind ?_
  split
  · exact .refuse
  · exact .pure rfl
  · exact .pure rfl

theorem inlineReader_listPattern (inline : inner.IsInline) :
    InlineReader (fun _ => 0) (listPattern inner) := by
  unfold listPattern
  refine .acceptSymbol_ite rfl (.pure rfl) ?_
  exact (inlineReader_sequenceItems inline).free.bind fun found => .expectSymbol_bind (.pure rfl)

theorem inlineReader_mappingKey (inline : inner.IsInline) :
    InlineReader (fun _ => 1) (mappingKey inner) := by
  unfold mappingKey
  refine .peek_ite (fun _ => startsPatternLiteral_stop) (inlineReader_patternLiteral inline) ?_
  exact inlineReader_dottedExpression.bind fun found => .require_bind (.pure rfl)

theorem inlineReader_mappingPattern (inline : inner.IsInline) :
    InlineReader (fun _ => 0) (mappingPattern inner) := by
  unfold mappingPattern
  refine .bind (.repeatFrom fun state => ?_) fun state => .pure rfl
  refine .acceptSymbol_ite rfl (.pure rfl) (.ite .refuse (.acceptSymbol_ite rfl ?_ ?_))
  · refine inlineReader_captureName.free.bind fun name => ?_
    exact .acceptSymbol_bind rfl (.pure rfl) (.pure rfl)
  · refine (inlineReader_mappingKey inline).bind fun key => .expectSymbol_bind ?_
    refine inline.pattern.free.bind fun pattern => ?_
    exact .acceptSymbol_bind rfl (.pure rfl) (.pure rfl)

theorem inlineReader_classPattern (inline : inner.IsInline) {cls : Expr} :
    InlineReader (fun _ => 0) (classPattern inner cls) := by
  unfold classPattern
  refine .bind (.repeatFrom fun state => ?_) fun state => .pure rfl
  refine .accept_ite rfl (.pure rfl) (.ite .refuse (.peekSecond_bind (fun first second => ?_)
    (fun stop stops second => ?_) fun stop stops first => ?_)) advances_le_one
  · split
    · refine .require_bind (.expectName_bind fun name => .expectSymbol_bind ?_)
      refine inline.pattern.free.bind fun pattern => ?_
      exact .acceptSymbol_bind rfl (.pure rfl) (.pure rfl)
    · refine .require_bind (inline.pattern.bind fun pattern => ?_)
      exact .acceptSymbol_bind rfl (.pure rfl) (.pure rfl)
  · rcases Lexeme.isStop_cases stops with rfl | rfl | rfl | rfl <;> rfl
  · rcases Lexeme.isStop_cases stops with rfl | rfl | rfl | rfl <;> cases first with
      | none => rfl
      | some first => cases first <;> rfl

theorem inlineReader_closedPattern (inline : inner.IsInline) :
    InlineReader (fun _ => 1) (closedPattern inner) := by
  unfold closedPattern
  refine .peek_bind (fun found => ?_) fun stop stops => ?_
  · split
    · refine .ite (.expectName_bind fun _ => .pure rfl) ?_
      refine inlineReader_dottedExpression.bind fun found => ?_
      exact .acceptSymbol_ite rfl (inlineReader_classPattern inline)
        (.nextIs_bind rfl fun isNamed => .require_bind (.pure rfl))
    · exact .expectSymbol_bind (inlineReader_groupedPattern inline)
    · exact .expectSymbol_bind (inlineReader_listPattern inline)
    · exact .expectSymbol_bind (inlineReader_mappingPattern inline)
    · exact (inlineReader_patternLiteral inline).bind fun value => .pure rfl
  · rcases Lexeme.isStop_cases stops with rfl | rfl | rfl | rfl <;> rfl

theorem inlineReader_readPattern (inline : inner.IsInline) :
    InlineReader (fun _ => 1) (readPattern inner) := by
  have named : ∀ pattern : Pattern, InlineReader (fun _ => 0) (do
      if ← acceptKeyword .asWord then return Pattern.bound pattern (← captureName)
      else return pattern) := fun pattern =>
    .acceptKeyword_ite (inlineReader_captureName.free.bind fun name => .pure rfl) (.pure rfl)
  unfold readPattern
  refine (inlineReader_closedPattern inline).bind fun first => .bind (.repeatFrom fun found => ?_)
    fun found => ?_
  · refine .acceptSymbol_ite rfl ?_ (.pure rfl)
    exact (inlineReader_closedPattern inline).free.bind fun pattern => .pure rfl
  · split <;> exact .handed (named _)

theorem inlineReader_casePattern (inline : inner.IsInline) :
    InlineReader (fun _ => 1) (casePattern inner) := by
  unfold casePattern
  refine (inlineReader_sequenceItems inline).bind fun found => ?_
  split
  · exact .refuse
  · exact .pure rfl
  · exact .pure rfl

/-- What is nested at most so deep does not see what stands behind the line. -/
theorem Inner.isInline_ofDepth : ∀ depth, (Inner.ofDepth depth).IsInline
  | 0 => ⟨.refuse, .refuse, .refuse, .refuse, .refuse, .refuse, .refuse⟩
  | depth + 1 =>
      have inline := isInline_ofDepth depth
      { expression := inlineReader_expression inline
        disjunction := inlineReader_disjunction inline
        inversion := inlineReader_inversion inline
        bitOr := inlineReader_bitOr inline
        factor := inlineReader_factor inline
        primary := inlineReader_primary inline
        pattern := inlineReader_readPattern inline }

end Stencil.Script
