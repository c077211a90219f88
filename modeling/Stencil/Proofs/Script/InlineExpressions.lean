import Stencil.Proofs.Script.InlineReader
import Stencil.Script.Grammar.Statement

/-! # Expressions inside a line

Put in readers for nested parts that do not see what stands behind the line, and the readers of
expressions and of patterns do not see it either (`Stencil.Script.Inner.IsInline`). Each of them
takes at least one lexeme. A line break inside brackets is no lexeme, so an expression never goes on
behind the end of its line.
-/

namespace Stencil.Script

open Reader

/-- The readers for nested parts inside a line do not see what stands behind it. -/
structure Inner.IsInline (inner : Inner) : Prop where
  expression : InlineReader (fun _ => 1) inner.expression
  disjunction : InlineReader (fun _ => 1) inner.disjunction
  inversion : InlineReader (fun _ => 1) inner.inversion
  bitOr : InlineReader (fun _ => 1) inner.bitOr
  factor : InlineReader (fun _ => 1) inner.factor
  primary : InlineReader (fun _ => 1) inner.primary
  pattern : InlineReader (fun _ => 1) inner.pattern

variable {inner : Inner} {α : Type} {least : α → Nat} {stop : Lexeme}

/-- A reader that may take nothing. -/
theorem InlineReader.free {reader : Reader α} (inline : InlineReader (fun _ => 1) reader) :
    InlineReader (fun _ => 0) reader := inline.weaken fun _ => Nat.zero_le 1

theorem startsExpression_stop (stops : stop.isStop = true) : startsExpression stop = false := by
  rcases Lexeme.isStop_cases stops with rfl | rfl | rfl | rfl <;> rfl

theorem startsItem_stop (stops : stop.isStop = true) : startsItem stop = false := by
  rcases Lexeme.isStop_cases stops with rfl | rfl | rfl | rfl <;> rfl

theorem startsEntry_stop (stops : stop.isStop = true) : startsEntry stop = false := by
  rcases Lexeme.isStop_cases stops with rfl | rfl | rfl | rfl <;> rfl

theorem startsSlice_stop (stops : stop.isStop = true) : startsSlice stop = false := by
  rcases Lexeme.isStop_cases stops with rfl | rfl | rfl | rfl <;> rfl

theorem startsPatternLiteral_stop (stops : stop.isStop = true) :
    startsPatternLiteral stop = false := by
  rcases Lexeme.isStop_cases stops with rfl | rfl | rfl | rfl <;> rfl

theorem startsSequenceItem_stop (stops : stop.isStop = true) :
    startsSequenceItem stop = false := by
  rcases Lexeme.isStop_cases stops with rfl | rfl | rfl | rfl <;> rfl

/-- A reader that goes on only before lexemes of a kind. -/
theorem InlineReader.peek_ite {starts : Lexeme → Bool} {taken left : Reader α}
    (blind : ∀ stop : Lexeme, stop.isStop = true → starts stop = false)
    (whenTrue : InlineReader least taken) (whenFalse : InlineReader least left) :
    InlineReader least
      (peek >>= fun found => if found.any starts = true then taken else left) := by
  refine peek_bind (fun found => ite whenTrue whenFalse) fun stop stops => ?_
  change (if starts stop = true then _ else _) = _
  rw [blind stop stops]
  rfl

theorem inlineReader_walrusFollows : InlineReader (fun _ => 0) walrusFollows := by
  unfold walrusFollows
  refine .peekSecond_bind (fun first second => ?_) (fun stop stops second => ?_)
    fun stop stops first => ?_
  · split <;> exact .pure rfl
  · rcases Lexeme.isStop_cases stops with rfl | rfl | rfl | rfl <;> rfl
  · rcases Lexeme.isStop_cases stops with rfl | rfl | rfl | rfl <;> cases first with
      | none => rfl
      | some first => cases first <;> rfl

theorem inlineReader_namedExpression (inline : inner.IsInline) :
    InlineReader (fun _ => 1) (namedExpression inner) := by
  unfold namedExpression
  refine inlineReader_walrusFollows.bind fun follows => .ite ?_ inline.expression
  exact .expectName_bind fun name => .expectSymbol_bind (inline.expression.free.bind fun value =>
    .pure rfl)

theorem inlineReader_starNamedExpression (inline : inner.IsInline) :
    InlineReader (fun _ => 1) (starNamedExpression inner) := by
  unfold starNamedExpression
  exact .acceptSymbol_ite rfl (inline.bitOr.free.bind fun _ => .pure rfl)
    (inlineReader_namedExpression inline)

theorem inlineReader_starExpression (inline : inner.IsInline) :
    InlineReader (fun _ => 1) (starExpression inner) := by
  unfold starExpression
  exact .acceptSymbol_ite rfl (inline.bitOr.free.bind fun value => .pure rfl) inline.expression

theorem inlineReader_starExpressions (inline : inner.IsInline) :
    InlineReader (fun _ => 1) (starExpressions inner) := by
  unfold starExpressions
  exact (InlineReader.items (inlineReader_starExpression inline)
    fun _ => startsItem_stop).bind fun found => .pure rfl

theorem inlineReader_yieldExpression (inline : inner.IsInline) :
    InlineReader (fun _ => 1) (yieldExpression inner) := by
  unfold yieldExpression
  refine .expectKeyword_bind (.acceptKeyword_ite ?_ (.peek_ite (fun _ => startsItem_stop) ?_
    (.pure rfl)))
  · exact inline.expression.free.bind fun value => .pure rfl
  · exact (inlineReader_starExpressions inline).free.bind fun value => .pure rfl

theorem inlineReader_readHint (inline : inner.IsInline) (isHinted mayStar : Bool) :
    InlineReader (fun _ => 0) (readHint inner isHinted mayStar) := by
  unfold readHint
  refine .ite (.acceptSymbol_ite rfl (.ite ?_ ?_) (.pure rfl)) (.pure rfl)
  · exact (inlineReader_starExpression inline).free.bind fun value => .pure rfl
  · exact inline.expression.free.bind fun value => .pure rfl

theorem inlineReader_readParameter (inline : inner.IsInline) (isHinted : Bool)
    (state : ParameterState) :
    InlineReader (fun _ => 1) (readParameter inner isHinted state) := by
  unfold readParameter
  refine .ite .refuse (.acceptSymbol_ite rfl (.require_bind (.pure rfl)) (.acceptSymbol_ite rfl ?_
    (.acceptSymbol_ite rfl ?_ ?_)))
  · refine .require_bind (.expectName_bind fun name => ?_)
    exact (inlineReader_readHint inline isHinted false).bind fun hint => .pure rfl
  · refine .require_bind (.nextIs_bind rfl fun isComma => .ite (.pure rfl) ?_)
    refine .expectName_bind fun name => ?_
    exact (inlineReader_readHint inline isHinted true).bind fun hint => .pure rfl
  · refine .expectName_bind fun name => ?_
    refine (inlineReader_readHint inline isHinted false).bind fun hint => ?_
    have finish : ∀ standard : Option Expr, InlineReader (fun _ => 0)
        (if state.isNamed = true then
          (pure { state with
            reversed := .mk .keywordOnly name hint standard :: state.reversed
            isPending := false } : Reader ParameterState)
        else do
          require (standard.isSome || !state.hasDefault)
          pure { state with
            reversed := .mk .ordinary name hint standard :: state.reversed
            hasDefault := standard.isSome }) := fun standard =>
      .ite (.pure rfl) (.require_bind (.pure rfl))
    refine .acceptSymbol_ite rfl ?_ (.handed (finish _))
    exact inline.expression.free.bind fun value => .handed (finish _)

theorem inlineReader_readParameters (inline : inner.IsInline) (isHinted : Bool) (ending : Symbol) :
    InlineReader (fun _ => 0) (readParameters inner isHinted ending) := by
  unfold readParameters
  refine .bind (.repeatFrom fun state => ?_) fun state => .require_bind (.pure rfl)
  refine .nextIs_ite rfl rfl (.ite .refuse ?_) advances_le_one
  refine (inlineReader_readParameter inline isHinted state).bind fun state => ?_
  exact .acceptSymbol_bind rfl (.pure rfl) (.pure rfl)

theorem inlineReader_lambdaExpression (inline : inner.IsInline) :
    InlineReader (fun _ => 1) (lambdaExpression inner) := by
  unfold lambdaExpression
  refine .expectKeyword_bind ((inlineReader_readParameters inline false .colon).bind
    fun parameters => .expectSymbol_bind ?_)
  exact inline.expression.free.bind fun value => .pure rfl

theorem inlineReader_starred {item : Reader Expr} (inline : InlineReader (fun _ => 1) item) :
    InlineReader (fun _ => 1) (do
      if ← acceptSymbol (.operator .multiply) then return Expr.starred (← item) else item) :=
  .acceptSymbol_ite rfl (inline.free.bind fun _ => .pure rfl) inline

theorem inlineReader_starTargets {primary : Reader Expr}
    (inline : InlineReader (fun _ => 1) primary) :
    InlineReader (fun _ => 1) (starTargets primary) := by
  unfold starTargets
  exact (InlineReader.items (inlineReader_starred inline) fun _ => startsItem_stop).bind
    fun found => .ofOption fun _ => rfl

theorem inlineReader_starTarget {primary : Reader Expr}
    (inline : InlineReader (fun _ => 1) primary) :
    InlineReader (fun _ => 1) (starTarget primary) := by
  unfold starTarget
  exact (inlineReader_starred inline).bind fun found => .ofOption fun _ => rfl

theorem inlineReader_clauses (inline : inner.IsInline) :
    InlineReader (fun _ => 0) (clauses inner) := by
  have rest : ∀ (isAsync : Bool) (found : List Clause), InlineReader (fun _ => 0) (do
      let target ← starTargets inner.primary
      expectKeyword .inWord
      let source ← inner.disjunction
      let test (tests : List Expr) : Reader (Option (List Expr)) := do
        if ← acceptKeyword .ifWord then return some ((← inner.disjunction) :: tests)
        else return none
      let tests ← repeatFrom test []
      return some (Clause.mk isAsync target source tests.reverse :: found)) := by
    intro isAsync found
    refine (inlineReader_starTargets inline.primary).free.bind fun target =>
      .expectKeyword_bind (inline.disjunction.free.bind fun source => ?_)
    refine .bind (.repeatFrom fun tests => .acceptKeyword_ite ?_ (.pure rfl)) fun tests => .pure rfl
    exact inline.disjunction.free.bind fun value => .pure rfl
  have none_or_one : ∀ next : Option (List Clause), advances next - 1 ≤ 0 := fun next =>
    Nat.sub_le_sub_right (advances_le_one next) 1
  unfold clauses
  refine .bind (.repeatFrom fun found => ?_) fun found => .pure rfl
  refine .acceptKeyword_bind (.expectKeyword_bind ?_) ?_
  · exact (rest true found).weaken fun next => Nat.le_trans (Nat.sub_le _ 1) (none_or_one next)
  · exact .acceptKeyword_bind ((rest false found).weaken none_or_one) (.pure rfl)

theorem inlineReader_clauseFollows : InlineReader (fun _ => 0) clauseFollows := by
  unfold clauseFollows
  refine .peek_bind (fun found => ?_) fun stop stops => ?_
  · split <;> exact .pure rfl
  · rcases Lexeme.isStop_cases stops with rfl | rfl | rfl | rfl <;> rfl

theorem inlineReader_unstarred_bind {item : Expr} {next : Unit → Reader α}
    (follow : InlineReader least (next ())) : InlineReader least (unstarred item >>= next) := by
  unfold unstarred
  split
  · exact .refuse
  · exact follow

/-- A value in brackets. -/
theorem inlineReader_closed {symbol : Symbol} {value : α} :
    InlineReader (fun _ => 0) (do
      expectSymbol symbol
      return value) := .expectSymbol_bind (.pure rfl)

theorem inlineReader_comprehension (inline : inner.IsInline) {collection : Collection}
    {first : Expr} {symbol : Symbol} :
    InlineReader (fun _ => 0) (do
      unstarred first
      let value ← do pure (Expr.comprehension collection first (← clauses inner))
      expectSymbol symbol
      return value) :=
  inlineReader_unstarred_bind ((inlineReader_clauses inline).bind fun _ =>
    .handed inlineReader_closed)

theorem inlineReader_moreItems (inline : inner.IsInline) {first : Expr} :
    InlineReader (fun _ => 0) (moreItems (starNamedExpression inner) startsItem first) :=
  .moreItems (inlineReader_starNamedExpression inline).free fun _ => startsItem_stop

theorem inlineReader_parenthesized (inline : inner.IsInline) :
    InlineReader (fun _ => 0) (parenthesized inner) := by
  unfold parenthesized
  refine .accept_ite rfl (.pure rfl) (.nextIs_bind rfl fun isYield => .ite ?_ ?_)
    fun _ => Nat.zero_le 1
  · exact (inlineReader_yieldExpression inline).bind fun value => inlineReader_closed
  refine (inlineReader_starNamedExpression inline).bind fun first => ?_
  refine inlineReader_clauseFollows.bind fun isClause => .ite ?_ ?_
  · exact inlineReader_comprehension inline
  · refine (inlineReader_moreItems inline).bind fun found => ?_
    split
    · exact .before .refuse fun _ => inlineReader_closed
    · exact .handed inlineReader_closed

theorem inlineReader_bracketed (inline : inner.IsInline) :
    InlineReader (fun _ => 0) (bracketed inner) := by
  unfold bracketed
  refine .acceptSymbol_ite rfl (.pure rfl) ?_
  refine (inlineReader_starNamedExpression inline).free.bind fun first => ?_
  refine inlineReader_clauseFollows.bind fun isClause => .ite ?_ ?_
  · exact inlineReader_comprehension inline
  · refine (inlineReader_moreItems inline).bind fun found => ?_
    exact .handed inlineReader_closed

theorem inlineReader_dictEntry (inline : inner.IsInline) :
    InlineReader (fun _ => 1) (dictEntry inner) := by
  unfold dictEntry
  refine .acceptSymbol_ite rfl (inline.bitOr.free.bind fun value => .pure rfl) ?_
  refine inline.expression.bind fun key => .expectSymbol_bind ?_
  exact inline.expression.free.bind fun value => .pure rfl

theorem inlineReader_braced (inline : inner.IsInline) :
    InlineReader (fun _ => 0) (braced inner) := by
  unfold braced
  refine .acceptSymbol_ite rfl (.pure rfl) (.nextIs_bind rfl fun isSpread => .ite ?_ ?_)
  · refine (InlineReader.items (inlineReader_dictEntry inline) fun _ => startsEntry_stop).free.bind
      fun found => ?_
    exact .handed inlineReader_closed
  refine inlineReader_walrusFollows.bind fun isWalrus => ?_
  refine (inlineReader_starNamedExpression inline).free.bind fun first => ?_
  refine .nextIs_bind rfl fun isPair => ?_
  split
  · exact .before .refuse fun _ => inlineReader_closed
  · refine .require_bind (.expectSymbol_bind ?_)
    refine inline.expression.free.bind fun second => ?_
    refine inlineReader_clauseFollows.bind fun isClause => .ite ?_ ?_
    · refine (inlineReader_clauses inline).bind fun found => ?_
      exact .handed inlineReader_closed
    · refine .bind (.moreItems (inlineReader_dictEntry inline).free fun _ => startsEntry_stop)
        fun found => ?_
      exact .handed inlineReader_closed
  · refine inlineReader_clauseFollows.bind fun isClause => .ite ?_ ?_
    · exact inlineReader_comprehension inline
    · refine (inlineReader_moreItems inline).bind fun found => ?_
      exact .handed inlineReader_closed

/-- A row of strings ends where a part of the line does. -/
theorem stringRow_append {front tail : List Lexeme} (stops : stop.isStop = true) :
    ∃ taken behind, front = taken ++ behind ∧ taken.length = (stringRow front).1.length ∧
      stringRow (front ++ stop :: tail) = ((stringRow front).1, behind ++ stop :: tail) := by
  induction front with
  | nil =>
      refine ⟨[], [], rfl, rfl, ?_⟩
      rcases Lexeme.isStop_cases stops with rfl | rfl | rfl | rfl <;> rfl
  | cons first front ih =>
      cases first with
      | string literal =>
          obtain ⟨taken, behind, rfl, length, row⟩ := ih
          refine ⟨.string literal :: taken, behind, rfl, ?_, ?_⟩
          · rw [List.length_cons, length]
            rfl
          · rw [List.cons_append, stringRow, row]
            rfl
      | _ => exact ⟨[], _, rfl, rfl, rfl⟩

/-- The rest of a row of strings does not depend on what stands behind the line. -/
theorem exists_stringRow (front : List Lexeme) :
    ∃ taken behind, front = taken ++ behind ∧ taken.length = (stringRow front).1.length ∧
      ∀ stop tail, stop.isStop = true →
        stringRow (front ++ stop :: tail) = ((stringRow front).1, behind ++ stop :: tail) := by
  obtain ⟨taken, behind, split, length, -⟩ :=
    @stringRow_append .lineEnd front [] rfl
  refine ⟨taken, behind, split, length, fun stop tail stops => ?_⟩
  obtain ⟨otherTaken, otherBehind, otherSplit, otherLength, row⟩ :=
    @stringRow_append stop front tail stops
  have same := List.append_inj (split.symm.trans otherSplit) (length.trans otherLength.symm)
  rw [row, same.2]

/-- A row of strings in front of what it is read for. -/
theorem inlineAt_stringRow {literal : StringLiteral} {front : List Lexeme} :
    InlineAt (fun _ => 1) (do
      let (strings, rest) := stringRow (← get)
      set rest
      ofOption (joinStrings inner strings)) (.string literal :: front) := by
  obtain ⟨taken, behind, split, length, row⟩ := exists_stringRow (.string literal :: front)
  have reads : ∀ stop tail, stop.isStop = true →
      (do
        let (strings, rest) := stringRow (← get)
        set rest
        ofOption (joinStrings inner strings) : Reader Expr) (.string literal :: front ++ stop :: tail) =
      ofOption (joinStrings inner (stringRow (.string literal :: front)).1)
        (behind ++ stop :: tail) := by
    intro stop tail stops
    change (ofOption (joinStrings inner (stringRow (.string literal :: front ++ stop :: tail)).1))
      (stringRow (.string literal :: front ++ stop :: tail)).2 = _
    rw [row stop tail stops]
  cases joined : joinStrings inner (stringRow (.string literal :: front)).1 with
  | none =>
      refine .refuses fun stop tail edge => ?_
      rw [reads stop tail (Lexeme.isStop_of_isInline_eq_false edge), joined]
      rfl
  | some value =>
      refine .inr ⟨value, taken, behind, split, ?_, fun stop tail stops => ?_⟩
      · rw [length]
        exact Nat.succ_le_succ (Nat.zero_le _)
      · rw [reads stop tail stops, joined]
        rfl

theorem inlineReader_behindSymbol (inline : inner.IsInline) {symbol : Symbol} :
    InlineReader (fun _ => 1) (do
      expectSymbol symbol
      match symbol with
      | .ellipsis => return Expr.constant .ellipsis
      | .leftParen => parenthesized inner
      | .leftBracket => bracketed inner
      | .leftBrace => braced inner
      | _ => refuse) := by
  refine .expectSymbol_bind ?_
  split
  · exact .pure rfl
  · exact inlineReader_parenthesized inline
  · exact inlineReader_bracketed inline
  · exact inlineReader_braced inline
  · exact .refuse

theorem inlineReader_atom (inline : inner.IsInline) : InlineReader (fun _ => 1) (atom inner) := by
  have refuses : ∀ stop tail, stop.isInline = false → atom inner (stop :: tail) = none := by
    intro stop tail stops
    cases stop <;> first | rfl | cases stops
  intro front
  cases front with
  | nil => exact .refuses refuses
  | cons first front =>
      cases first with
      | name name =>
          have reader : InlineReader (fun _ => 1) (do return Expr.name (← expectName)) :=
            InlineReader.expectName.bind fun name => .pure rfl
          exact (reader _).congr fun _ _ _ => rfl
      | number literal =>
          have reader : InlineReader (fun _ => 1) (do
              expect (.number literal)
              return Expr.constant (.number literal)) := .expect_bind rfl (.pure rfl)
          exact (reader _).congr fun _ _ _ => rfl
      | string literal => exact inlineAt_stringRow.congr fun _ _ _ => rfl
      | keyword word =>
          have reader : InlineReader (fun _ => 1) (do
              let constant ← ofOption (keywordConstant? word)
              expectKeyword word
              return Expr.constant constant) :=
            .ofOption_bind fun constant => .expectKeyword_bind (.pure rfl)
          exact (reader _).congr fun _ _ _ => rfl
      | symbol symbol => exact (inlineReader_behindSymbol inline _).congr fun _ _ _ => rfl
      | lineEnd => exact .refuses fun _ _ _ => rfl
      | indent => exact .refuses fun _ _ _ => rfl
      | dedent => exact .refuses fun _ _ _ => rfl

theorem inlineReader_readArgument (inline : inner.IsInline) (state : ArgumentState) :
    InlineReader (fun _ => 1) (readArgument inner state) := by
  unfold readArgument
  refine .acceptSymbol_ite rfl (inline.expression.free.bind fun value => .pure rfl)
    (.acceptSymbol_ite rfl (.require_bind (inline.expression.free.bind fun value => .pure rfl)) ?_)
  refine .peekSecond_bind (fun first second => ?_) (fun stop stops second => ?_)
    fun stop stops first => ?_
  · split
    · refine .expectName_bind fun name => .expectSymbol_bind ?_
      exact inline.expression.free.bind fun value => .pure rfl
    · exact .require_bind ((inlineReader_namedExpression inline).bind fun value => .pure rfl)
  · rcases Lexeme.isStop_cases stops with rfl | rfl | rfl | rfl <;> rfl
  · rcases Lexeme.isStop_cases stops with rfl | rfl | rfl | rfl <;> cases first with
      | none => rfl
      | some first => cases first <;> rfl

theorem inlineReader_readArguments (inline : inner.IsInline) (start : ArgumentState) :
    InlineReader (fun _ => 0) (readArguments inner start) := by
  unfold readArguments
  refine .bind (.repeatFrom fun state => ?_) fun state => .expectSymbol_bind (.pure rfl)
  refine .nextIs_ite rfl rfl (.ite .refuse ?_) advances_le_one
  refine (inlineReader_readArgument inline state).bind fun state => ?_
  exact .acceptSymbol_bind rfl (.pure rfl) (.pure rfl)

/-- Whether a named argument comes next. -/
def namedFollows : Reader Bool := do
  match ← peek, ← peekSecond with
  | some (.name _), some (.symbol .equal) => pure true
  | _, _ => pure false

theorem inlineReader_namedFollows : InlineReader (fun _ => 0) namedFollows := by
  unfold namedFollows
  refine .peekSecond_bind (fun first second => ?_) (fun stop stops second => ?_)
    fun stop stops first => ?_
  · split <;> exact .pure rfl
  · rcases Lexeme.isStop_cases stops with rfl | rfl | rfl | rfl <;> rfl
  · rcases Lexeme.isStop_cases stops with rfl | rfl | rfl | rfl <;> cases first with
      | none => rfl
      | some first => cases first <;> rfl

theorem callArguments_eq_namedFollows : callArguments inner = (do
    let isNamed ← namedFollows
    if isNamed || !(← peek).any startsExpression then readArguments inner .start
    else
      let first ← namedExpression inner
      if ← clauseFollows then
        let found ← clauses inner
        expectSymbol .rightParen
        return ([.comprehension .generator first found], [])
      else
        let hasComma ← acceptSymbol .comma
        readArguments inner ⟨[first], [], false, !hasComma⟩) := by
  funext lexemes
  unfold callArguments namedFollows
  simp only [bind_apply]
  cases lexemes with
  | nil => rfl
  | cons first lexemes =>
      cases first <;> first | rfl | (cases lexemes with
        | nil => rfl
        | cons second lexemes => cases second <;> first | rfl | (rename_i symbol; cases symbol <;> rfl))

theorem inlineReader_callArguments (inline : inner.IsInline) :
    InlineReader (fun _ => 0) (callArguments inner) := by
  rw [callArguments_eq_namedFollows]
  refine inlineReader_namedFollows.bind fun isNamed => .peek_bind (fun found => .ite ?_ ?_)
    fun stop stops => ?_
  · exact inlineReader_readArguments inline _
  · refine (inlineReader_namedExpression inline).free.bind fun first => ?_
    refine inlineReader_clauseFollows.bind fun isClause => .ite ?_ ?_
    · exact (inlineReader_clauses inline).bind fun found => .expectSymbol_bind (.pure rfl)
    · exact .acceptSymbol_bind rfl (inlineReader_readArguments inline _)
        (inlineReader_readArguments inline _)
  · change (if (isNamed || !startsExpression stop) = true then _ else _) = _
    rw [startsExpression_stop stops]
    rfl

theorem inlineReader_sliceBound (inline : inner.IsInline) :
    InlineReader (fun _ => 0) (sliceBound inner) := by
  unfold sliceBound
  exact .peek_ite (fun _ => startsExpression_stop)
    (inline.expression.free.bind fun value => .pure rfl) (.pure rfl)

theorem inlineReader_sliceRest (inline : inner.IsInline) {lower : Option Expr} :
    InlineReader (fun _ => 0) (sliceRest inner lower) := by
  unfold sliceRest
  refine (inlineReader_sliceBound inline).bind fun upper => .acceptSymbol_ite rfl ?_
    (.handed (.pure rfl))
  exact (inlineReader_sliceBound inline).bind fun step => .pure rfl

theorem inlineReader_sliceItem (inline : inner.IsInline) :
    InlineReader (fun _ => 1) (sliceItem inner) := by
  unfold sliceItem
  refine .acceptSymbol_ite rfl (inline.expression.free.bind fun value => .pure rfl)
    (.acceptSymbol_ite rfl (inlineReader_sliceRest inline) ?_)
  refine inlineReader_walrusFollows.bind fun isWalrus => ?_
  refine (inlineReader_namedExpression inline).bind fun value => .nextIs_bind rfl fun isRange => ?_
  exact .ite (.require_bind (.expectSymbol_bind (inlineReader_sliceRest inline))) (.pure rfl)

theorem inlineReader_slices (inline : inner.IsInline) :
    InlineReader (fun _ => 1) (slices inner) := by
  unfold slices
  refine (InlineReader.items (inlineReader_sliceItem inline) fun _ => startsSlice_stop).bind
    fun found => ?_
  split <;> exact .pure rfl

theorem inlineReader_trailers (inline : inner.IsInline) {first : Expr} :
    InlineReader (fun _ => 0) (trailers inner first) := by
  unfold trailers
  refine .repeatFrom fun value => .acceptSymbol_ite rfl (.expectName_bind fun name => .pure rfl)
    (.acceptSymbol_ite rfl ?_ (.acceptSymbol_ite rfl ?_ (.pure rfl)))
  · exact (inlineReader_callArguments inline).bind fun found => .pure rfl
  · exact (inlineReader_slices inline).free.bind fun index => .expectSymbol_bind (.pure rfl)

variable {operand : Reader Expr}

theorem inlineReader_leftAssociative {operators : List BinaryOperator}
    (inline : InlineReader (fun _ => 1) operand) :
    InlineReader (fun _ => 1) (leftAssociative operators operand) := by
  unfold leftAssociative
  refine inline.bind fun first => .repeatFrom fun left => .peek_bind (fun found => ?_)
    fun stop stops => ?_
  · split
    · exact .ite (.expectSymbol_bind (inline.free.bind fun value => .pure rfl)) (.pure rfl)
    · exact .pure rfl
  · rcases Lexeme.isStop_cases stops with rfl | rfl | rfl | rfl <;> rfl

theorem inlineReader_connectedBy {connective : Connective} {word : Keyword}
    (inline : InlineReader (fun _ => 1) operand) :
    InlineReader (fun _ => 1) (connectedBy connective word operand) := by
  unfold connectedBy
  refine inline.bind fun first => .bind (.repeatFrom fun found =>
    .acceptKeyword_ite (inline.free.bind fun value => .pure rfl) (.pure rfl)) fun found => ?_
  split <;> exact .pure rfl

theorem inlineReader_relation? : InlineReader advances relation? := by
  unfold relation?
  refine .peekSecond_bind (fun first second => ?_) (fun stop stops second => ?_)
    fun stop stops first => ?_
  · split
    iterate 6 exact .expectSymbol_bind (.pure rfl)
    · exact .expectKeyword_bind (.pure rfl)
    · exact .expectKeyword_bind (.expectKeyword_bind (.pure rfl))
    · exact .expectKeyword_bind (.acceptKeyword_ite (.pure rfl) (.pure rfl))
    · exact .pure rfl
  · rcases Lexeme.isStop_cases stops with rfl | rfl | rfl | rfl <;> rfl
  · rcases Lexeme.isStop_cases stops with rfl | rfl | rfl | rfl <;> cases first with
      | none => rfl
      | some first => cases first <;> first | rfl | (rename_i inside; cases inside <;> rfl)

theorem inlineReader_comparison (inline : InlineReader (fun _ => 1) operand) :
    InlineReader (fun _ => 1) (comparison operand) := by
  unfold comparison
  refine inline.bind fun first => .bind (.repeatFrom fun found => ?_) fun found => ?_
  · refine inlineReader_relation?.bind fun relation => ?_
    cases relation with
    | none => exact .pure rfl
    | some relation => exact inline.free.bind fun value => .pure rfl
  · split <;> exact .pure rfl

theorem inlineReader_primary (inline : inner.IsInline) :
    InlineReader (fun _ => 1) (Degree.primary inner) :=
  (inlineReader_atom inline).bind fun _ => inlineReader_trailers inline

theorem inlineReader_power (inline : inner.IsInline) :
    InlineReader (fun _ => 1) (Degree.power inner) := by
  have finish : ∀ base : Expr, InlineReader (fun _ => 0) (do
      if ← acceptSymbol (.operator .power) then return .binary .power base (← inner.factor)
      else return base) := fun base =>
    .acceptSymbol_ite rfl (inline.factor.free.bind fun value => .pure rfl) (.pure rfl)
  unfold Degree.power
  refine .acceptKeyword_ite ((inlineReader_primary inline).free.bind fun awaited =>
    .handed (finish _)) ((inlineReader_primary inline).bind finish)

theorem inlineReader_factor (inline : inner.IsInline) :
    InlineReader (fun _ => 1) (Degree.factor inner) := by
  have signed : ∀ operator : UnaryOperator, InlineReader (fun _ => 0)
      (do return Expr.unary operator (← inner.factor)) := fun operator =>
    inline.factor.free.bind fun value => .pure rfl
  unfold Degree.factor
  exact .acceptSymbol_ite rfl (signed _) (.acceptSymbol_ite rfl (signed _) (.acceptSymbol_ite rfl (signed _)
    (inlineReader_power inline)))

theorem inlineReader_bitOr (inline : inner.IsInline) :
    InlineReader (fun _ => 1) (Degree.bitOr inner) :=
  inlineReader_leftAssociative (inlineReader_leftAssociative (inlineReader_leftAssociative
    (inlineReader_leftAssociative (inlineReader_leftAssociative (inlineReader_leftAssociative
      (inlineReader_factor inline))))))

theorem inlineReader_inversion (inline : inner.IsInline) :
    InlineReader (fun _ => 1) (Degree.inversion inner) := by
  unfold Degree.inversion
  exact .acceptKeyword_ite (inline.inversion.free.bind fun value => .pure rfl)
    (inlineReader_comparison (inlineReader_bitOr inline))

theorem inlineReader_disjunction (inline : inner.IsInline) :
    InlineReader (fun _ => 1) (Degree.disjunction inner) :=
  inlineReader_connectedBy (inlineReader_connectedBy (inlineReader_inversion inline))

theorem inlineReader_expression (inline : inner.IsInline) :
    InlineReader (fun _ => 1) (Degree.expression inner) := by
  unfold Degree.expression
  refine .nextIs_bind rfl fun isLambda => .ite (inlineReader_lambdaExpression inline) ?_
  refine (inlineReader_disjunction inline).bind fun first => .acceptKeyword_ite ?_ (.pure rfl)
  refine inline.disjunction.free.bind fun test => .expectKeyword_bind ?_
  exact inline.expression.free.bind fun value => .pure rfl

end Stencil.Script
