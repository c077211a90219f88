import Stencil.Proofs.Script.Twins

/-! # Readers of expressions as twins

Put in readers for nested parts that answer alike, and the readers of expressions answer alike
as well, with names that can be spelled and inside a line. A degree of the grammar reads nested
parts only behind a lexeme of its own, so it asks for less room than it gets
(`Stencil.Script.Inner.NearBelow`).
-/

namespace Stencil.Script

open Reader

/-- The readers for nested parts inside a line are twins. -/
structure Inner.Near (room : Nat) (left right : Inner) : Prop where
  expression : InlineTwins room left.expression right.expression
  disjunction : InlineTwins room left.disjunction right.disjunction
  inversion : InlineTwins room left.inversion right.inversion
  bitOr : InlineTwins room left.bitOr right.bitOr
  factor : InlineTwins room left.factor right.factor
  primary : InlineTwins room left.primary right.primary
  pattern : InlineTwins room left.pattern right.pattern

/-- The readers for nested parts are twins wherever there is less room. -/
def Inner.NearBelow (room : Nat) (left right : Inner) : Prop := ∀ less < room, left.Near less right

namespace Inner.Near

variable {room less : Nat} {left right : Inner}

theorem mono (near : left.Near room right) (le : less ≤ room) : left.Near less right where
  expression := near.expression.mono le
  disjunction := near.disjunction.mono le
  inversion := near.inversion.mono le
  bitOr := near.bitOr.mono le
  factor := near.factor.mono le
  primary := near.primary.mono le
  pattern := near.pattern.mono le

theorem below (near : left.Near room right) : left.NearBelow room right :=
  fun _ lt => near.mono (Nat.le_of_lt lt)

end Inner.Near

theorem Inner.NearBelow.mono {room less : Nat} {left right : Inner}
    (below : left.NearBelow room right) (le : less ≤ room) : left.NearBelow less right :=
  fun smaller lt => below smaller (Nat.lt_of_lt_of_le lt le)

variable {room : Nat} {left right : Inner}

theorem inlineTwins_walrusFollows : InlineTwins room walrusFollows walrusFollows := by
  unfold walrusFollows
  refine .peek_bind fun found _ => .peekSecond_bind fun second => ?_
  split <;> exact .pure trivial

theorem inlineTwins_namedExpression (near : left.Near room right) :
    InlineTwins room (namedExpression left) (namedExpression right) := by
  unfold namedExpression
  refine inlineTwins_walrusFollows.bind fun follows _ => .ite ?_ near.expression
  refine .expectName_bind fun name _ less lt => .expectSymbol_bind fun lower below => ?_
  exact (near.mono (by omega)).expression.bind fun value spelled =>
    .pure (AllSpelled.cons_bind.mpr spelled)

theorem inlineTwins_starNamedExpression (near : left.Near room right) :
    InlineTwins room (starNamedExpression left) (starNamedExpression right) := by
  unfold starNamedExpression
  refine .acceptSymbol_ite (fun less lt => ?_) (inlineTwins_namedExpression near)
  exact (near.below less lt).bitOr.bind fun value spelled => .pure spelled

theorem inlineTwins_starExpression (near : left.Near room right) :
    InlineTwins room (starExpression left) (starExpression right) := by
  unfold starExpression
  refine .acceptSymbol_ite (fun less lt => ?_) near.expression
  exact (near.below less lt).bitOr.bind fun value spelled => .pure spelled

theorem spells_tupleOrSingle {found : List Expr × Bool} (spelled : Spells found) :
    Spells (tupleOrSingle found) := by
  unfold tupleOrSingle
  split
  · exact (spells_cons.mp spelled.1).1
  · exact allSpelled_exprs.mpr spelled.1

theorem inlineTwins_starExpressions (near : left.Near room right) :
    InlineTwins room (starExpressions left) (starExpressions right) := by
  unfold starExpressions
  exact (inlineTwins_starExpression near).items.bind fun found spelled =>
    .pure (spells_tupleOrSingle spelled)

theorem inlineTwins_yieldExpression (below : left.NearBelow room right) :
    InlineTwins room (yieldExpression left) (yieldExpression right) := by
  unfold yieldExpression
  refine .expectKeyword_bind fun less lt => .acceptKeyword_ite (fun lower lowerLt => ?_) ?_
  · exact (below lower (by omega)).expression.bind fun value spelled => .pure spelled
  · refine .peek_bind fun found _ => .ite ?_ (.pure (allSpelled_option.mpr spells_none))
    exact (inlineTwins_starExpressions (below less lt)).bind fun value spelled =>
      .pure (allSpelled_option.mpr (spells_some.mpr spelled))

instance : Spellable ParameterState := ⟨fun state => Spells state.reversed⟩

theorem spells_byPosition {parameter : Parameter} (spelled : Spells parameter) :
    Spells parameter.byPosition := by
  unfold Parameter.byPosition
  split <;> exact spelled

/-- A parameter binds its name and reads its hint and its default. -/
theorem spells_parameter {kind : ParameterKind} {name : Name} {hint standard : Option Expr}
    (spelledHint : Spells hint) (spelledStandard : Spells standard) :
    Spells (Parameter.mk kind name hint standard) :=
  AllSpelled.cons_bind.mpr (AllSpelled.append.mpr
    ⟨allSpelled_option.mpr spelledHint, allSpelled_option.mpr spelledStandard⟩)

theorem inlineTwins_readHint (near : left.Near room right) (isHinted mayStar : Bool) :
    InlineTwins room (readHint left isHinted mayStar) (readHint right isHinted mayStar) := by
  unfold readHint
  refine .ite (.acceptSymbol_ite (fun less lt => .ite ?_ ?_) (.pure spells_none)) (.pure spells_none)
  · exact (inlineTwins_starExpression (near.below less lt)).bind fun value spelled =>
      .pure (spells_some.mpr spelled)
  · exact (near.below less lt).expression.bind fun value spelled => .pure (spells_some.mpr spelled)

theorem inlineTwins_readParameter (near : left.Near room right) (isHinted : Bool)
    {state : ParameterState} (spelled : Spells state) :
    InlineTwins room (readParameter left isHinted state) (readParameter right isHinted state) := by
  unfold readParameter
  refine .ite .refuse (.acceptSymbol_ite (fun less lt => ?_) (.acceptSymbol_ite (fun less lt => ?_)
    (.acceptSymbol_ite (fun less lt => ?_) ?_)))
  · refine .require_bind (.pure fun parameter member => ?_)
    obtain ⟨earlier, inState, rfl⟩ := List.mem_map.mp member
    exact spells_byPosition (spelled earlier inState)
  · refine .require_bind (.expectName_bind fun name _ lower below => ?_)
    refine (inlineTwins_readHint (near.mono (by omega)) isHinted false).bind
      fun hint spelledHint => .pure ?_
    exact spells_cons.mpr ⟨spells_parameter spelledHint spells_none, spelled⟩
  · refine .require_bind (.nextIs_bind fun isComma => .ite (.pure spelled) ?_)
    refine .expectName_bind fun name _ lower below => ?_
    refine (inlineTwins_readHint (near.mono (by omega)) isHinted true).bind
      fun hint spelledHint => .pure ?_
    exact spells_cons.mpr ⟨spells_parameter spelledHint spells_none, spelled⟩
  · refine .expectName_bind fun name _ less lt => ?_
    refine (inlineTwins_readHint (near.below less lt) isHinted false).bind
      fun hint spelledHint => ?_
    refine .acceptSymbol_ite (fun lower lowerLt => (near.mono (by omega)).expression.bind
      fun value spelledValue => .bind (.pure (spells_some.mpr spelledValue)) ?_)
      (.bind (.pure spells_none) ?_)
    -- Whether a default was read or not, the parameter is kept in the same way.
    all_goals
      intro standard spelledStandard
      have kept : ∀ kind, Spells (Parameter.mk kind name hint standard :: state.reversed) :=
        fun kind => spells_cons.mpr ⟨spells_parameter spelledHint spelledStandard, spelled⟩
      exact .ite (.pure (kept _)) (.require_bind (.pure (kept _)))

theorem inlineTwins_readParameters (near : left.Near room right) (isHinted : Bool)
    (ending : Symbol) : InlineTwins room (readParameters left isHinted ending)
      (readParameters right isHinted ending) := by
  unfold readParameters
  have start : Spells ParameterState.start := spells_nil
  refine .bind (.repeatFrom start fun state spelled => ?_) fun state spelled =>
    .require_bind (.pure (spells_reverse.mpr spelled))
  refine .nextIs_bind fun isEnding => .ite (.pure spells_none) (.ite .refuse ?_)
  refine (inlineTwins_readParameter near isHinted spelled).bind fun following spelledFollowing => ?_
  exact .acceptSymbol_bind (fun _ _ => .pure (spells_some.mpr spelledFollowing))
    (.pure (spells_some.mpr spelledFollowing))

theorem inlineTwins_lambdaExpression (below : left.NearBelow room right) :
    InlineTwins room (lambdaExpression left) (lambdaExpression right) := by
  unfold lambdaExpression
  refine .expectKeyword_bind fun less lt => ?_
  refine (inlineTwins_readParameters (below less lt) false .colon).bind fun parameters spelled => ?_
  refine .expectSymbol_bind fun lower lowerLt => ?_
  exact (below lower (by omega)).expression.bind fun body spelledBody =>
    .pure (AllSpelled.append.mpr ⟨allSpelled_parameters.mpr spelled, spelledBody⟩)

/-- Operands that may be starred. -/
theorem inlineTwins_starred {item itemRight : Reader Expr}
    (twins : InlineTwins room item itemRight) : InlineTwins room
      (do if ← acceptSymbol (.operator .multiply) then return .starred (← item) else item)
      (do if ← acceptSymbol (.operator .multiply) then return .starred (← itemRight)
          else itemRight) :=
  .acceptSymbol_ite (fun _ lt => (twins.mono (Nat.le_of_lt lt)).bind fun _ spelled => .pure spelled)
    twins

theorem inlineTwins_starTargets {primary primaryRight : Reader Expr}
    (twins : InlineTwins room primary primaryRight) :
    InlineTwins room (starTargets primary) (starTargets primaryRight) := by
  unfold starTargets
  exact (inlineTwins_starred twins).items.bind fun found spelled =>
    .ofOption fun target => spells_toTarget? (spells_tupleOrSingle spelled)

theorem inlineTwins_starTarget {primary primaryRight : Reader Expr}
    (twins : InlineTwins room primary primaryRight) :
    InlineTwins room (starTarget primary) (starTarget primaryRight) := by
  unfold starTarget
  exact (inlineTwins_starred twins).bind fun found spelled =>
    .ofOption fun target => spells_toTarget? spelled

/-- A clause behind its keyword. -/
def clauseRest (inner : Inner) (isAsync : Bool) (found : List Clause) :
    Reader (Option (List Clause)) := do
  let target ← starTargets inner.primary
  expectKeyword .inWord
  let source ← inner.disjunction
  let test (tests : List Expr) : Reader (Option (List Expr)) := do
    if ← acceptKeyword .ifWord then return some ((← inner.disjunction) :: tests)
    else return none
  let tests ← repeatFrom test []
  return some (.mk isAsync target source tests.reverse :: found)

theorem inlineTwins_clauseRest (near : left.Near room right) (isAsync : Bool)
    {found : List Clause} (spelled : Spells found) :
    InlineTwins room (clauseRest left isAsync found) (clauseRest right isAsync found) := by
  unfold clauseRest
  refine (inlineTwins_starTargets near.primary).bind fun target spelledTarget => ?_
  refine .expectKeyword_bind fun less lt => ?_
  refine (near.below less lt).disjunction.bind fun source spelledSource => ?_
  refine .bind (.repeatFrom spells_nil fun tests spelledTests => ?_)
    fun tests spelledTests => .pure ?_
  · refine .acceptKeyword_ite (fun lower below => ?_) (.pure spells_none)
    exact (near.mono (by omega)).disjunction.bind fun test spelledTest =>
      .pure (spells_some.mpr (spells_cons.mpr ⟨spelledTest, spelledTests⟩))
  · refine spells_some.mpr (spells_cons.mpr ⟨?_, spelled⟩)
    exact AllSpelled.append.mpr ⟨AllSpelled.append.mpr ⟨spelledTarget, spelledSource⟩,
      allSpelled_exprs.mpr (spells_reverse.mpr spelledTests)⟩

theorem inlineTwins_clauses (near : left.Near room right) :
    InlineTwins room (clauses left) (clauses right) := by
  unfold clauses
  refine .bind (.repeatFrom spells_nil fun found spelled => ?_) fun found spelled =>
    .pure (spells_reverse.mpr spelled)
  refine .acceptKeyword_bind (fun less lt => ?_) ?_
  · exact .expectKeyword_bind fun lower below =>
      inlineTwins_clauseRest (near.mono (by omega)) true spelled
  · exact .acceptKeyword_bind
      (fun less lt => inlineTwins_clauseRest (near.below less lt) false spelled) (.pure spells_none)

theorem inlineTwins_clauseFollows : InlineTwins room clauseFollows clauseFollows := by
  unfold clauseFollows
  refine .peek_bind fun found _ => ?_
  split <;> exact .pure trivial

/-- Only an item that is not starred goes on. -/
theorem inlineTwins_unstarred_bind {α : Type} [Spellable α] {item : Expr}
    {next nextRight : Unit → Reader α} (follow : InlineTwins room (next ()) (nextRight ())) :
    InlineTwins room (unstarred item >>= next) (unstarred item >>= nextRight) := by
  unfold unstarred
  split
  · exact .bind .refuse fun _ _ => follow
  · exact follow

/-- A closing bracket ends what has been read. -/
theorem inlineTwins_closed {α : Type} [Spellable α] {symbol : Symbol} {value : α}
    (spelled : Spells value) : InlineTwins room
      (do
        expectSymbol symbol
        pure value)
      (do
        expectSymbol symbol
        pure value) := .expectSymbol_bind fun _ _ => .pure spelled

/-- A comprehension behind its element, up to the closing bracket. -/
theorem inlineTwins_comprehension (near : left.Near room right) {collection : Collection}
    {element : Expr} {symbol : Symbol} (spelled : Spells element) : InlineTwins room
      (do
        unstarred element
        let value ← pure (Expr.comprehension collection element (← clauses left))
        expectSymbol symbol
        pure value)
      (do
        unstarred element
        let value ← pure (Expr.comprehension collection element (← clauses right))
        expectSymbol symbol
        pure value) := by
  refine inlineTwins_unstarred_bind ((inlineTwins_clauses near).bind fun found spelledFound => ?_)
  refine .bind (.pure ?_) fun value => inlineTwins_closed
  exact AllSpelled.append.mpr ⟨spelled, allSpelled_clauses.mpr spelledFound⟩

theorem inlineTwins_parenthesized (near : left.Near room right) :
    InlineTwins room (parenthesized left) (parenthesized right) := by
  unfold parenthesized
  refine .acceptSymbol_ite (fun less lt => .pure (allSpelled_exprs.mpr spells_nil)) ?_
  refine .nextIs_bind fun isYield => .ite ?_ ?_
  · exact (inlineTwins_yieldExpression near.below).bind fun value => inlineTwins_closed
  refine (inlineTwins_starNamedExpression near).bind fun first spelled => ?_
  refine inlineTwins_clauseFollows.bind fun isClause _ => .ite ?_ ?_
  · exact inlineTwins_comprehension near spelled
  · refine .bind (.moreItems spelled (inlineTwins_starNamedExpression near)) fun found spelledFound => ?_
    split
    · exact .bind .refuse fun value => inlineTwins_closed
    · exact .bind (.pure (spells_tupleOrSingle spelledFound)) fun value => inlineTwins_closed

theorem inlineTwins_bracketed (near : left.Near room right) :
    InlineTwins room (bracketed left) (bracketed right) := by
  unfold bracketed
  refine .acceptSymbol_ite (fun less lt => .pure (allSpelled_exprs.mpr spells_nil)) ?_
  refine (inlineTwins_starNamedExpression near).bind fun first spelled => ?_
  refine inlineTwins_clauseFollows.bind fun isClause _ => .ite ?_ ?_
  · exact inlineTwins_comprehension near spelled
  · refine .bind (.moreItems spelled (inlineTwins_starNamedExpression near)) fun found spelledFound => ?_
    exact .bind (.pure (allSpelled_exprs.mpr spelledFound.1)) fun value => inlineTwins_closed

theorem inlineTwins_dictEntry (near : left.Near room right) :
    InlineTwins room (dictEntry left) (dictEntry right) := by
  unfold dictEntry
  refine .acceptSymbol_ite (fun less lt => ?_) ?_
  · exact (near.below less lt).bitOr.bind fun value spelled => .pure spelled
  · refine near.expression.bind fun key spelledKey => .expectSymbol_bind fun less lt => ?_
    exact (near.below less lt).expression.bind fun value spelled =>
      .pure (AllSpelled.append.mpr ⟨spelledKey, spelled⟩)

theorem inlineTwins_braced (near : left.Near room right) :
    InlineTwins room (braced left) (braced right) := by
  unfold braced
  refine .acceptSymbol_ite (fun less lt => .pure (allSpelled_entries.mpr spells_nil)) ?_
  refine .nextIs_bind fun isSpread => .ite ?_ ?_
  · refine (inlineTwins_dictEntry near).items.bind fun found spelled => ?_
    exact .bind (.pure (allSpelled_entries.mpr spelled.1)) fun value => inlineTwins_closed
  refine inlineTwins_walrusFollows.bind fun isWalrus _ => ?_
  refine (inlineTwins_starNamedExpression near).bind fun first spelled => ?_
  refine .nextIs_bind fun isPair => ?_
  split
  · exact .bind .refuse fun value => inlineTwins_closed
  · refine .require_bind (.expectSymbol_bind fun less lt => ?_)
    refine (near.below less lt).expression.bind fun second spelledSecond => ?_
    have spelledPair : Spells (DictEntry.pair first second) :=
      AllSpelled.append.mpr ⟨spelled, spelledSecond⟩
    refine inlineTwins_clauseFollows.bind fun isClause _ => .ite ?_ ?_
    · refine (inlineTwins_clauses (near.below less lt)).bind fun found spelledFound => ?_
      refine .bind (.pure ?_) fun value => inlineTwins_closed
      exact AllSpelled.append.mpr ⟨spelledPair, allSpelled_clauses.mpr spelledFound⟩
    · refine .bind (.moreItems spelledPair (inlineTwins_dictEntry (near.below less lt)))
        fun found spelledFound => ?_
      exact .bind (.pure (allSpelled_entries.mpr spelledFound.1)) fun value => inlineTwins_closed
  · refine inlineTwins_clauseFollows.bind fun isClause _ => .ite ?_ ?_
    · exact inlineTwins_comprehension near spelled
    · refine .bind (.moreItems spelled (inlineTwins_starNamedExpression near))
        fun found spelledFound => ?_
      exact .bind (.pure (allSpelled_exprs.mpr spelledFound.1)) fun value => inlineTwins_closed

/-- Options that are the same, with a value whose names can be spelled. -/
def OptionTwins {α : Type} [Spellable α] (left right : Option α) : Prop :=
  left = right ∧ Spells left

theorem OptionTwins.bind {α β : Type} [Spellable α] [Spellable β] {found foundRight : Option α}
    {next nextRight : α → Option β} (twins : OptionTwins found foundRight)
    (follow : ∀ value, Spells value → OptionTwins (next value) (nextRight value)) :
    OptionTwins (found >>= next) (foundRight >>= nextRight) := by
  obtain ⟨rfl, spelled⟩ := twins
  cases found with
  | none => exact ⟨rfl, spells_none⟩
  | some value => exact follow value (spells_some.mp spelled)

theorem OptionTwins.refl {α : Type} [Spellable α] {found : Option α} (spelled : Spells found) :
    OptionTwins found found := ⟨rfl, spelled⟩

/-- What is answered for each of several values is answered for all of them. -/
theorem OptionTwins.mapM {α β : Type} [Spellable β] {change changeRight : α → Option β}
    {values : List α} (twins : ∀ value ∈ values, OptionTwins (change value) (changeRight value)) :
    OptionTwins (values.mapM change) (values.mapM changeRight) := by
  induction values with
  | nil => exact ⟨rfl, spells_some.mpr spells_nil⟩
  | cons first rest ih =>
      rw [List.mapM_cons, List.mapM_cons]
      obtain ⟨twinsFirst, twinsRest⟩ := List.forall_mem_cons.mp twins
      refine twinsFirst.bind fun value spelled => (ih twinsRest).bind fun others spelledOthers => ?_
      have both : Spells (some (value :: others)) :=
        spells_some.mpr (spells_cons.mpr ⟨spelled, spelledOthers⟩)
      exact .refl both

/-- An expression in parentheses that fills a program. -/
def fieldReader (inner : Inner) : Reader Expr := do
  expectSymbol .leftParen
  let value ← parenthesized inner
  expect .lineEnd
  return value

theorem twins_fieldReader (below : left.NearBelow room right) {less : Nat} (lt : less ≤ room) :
    Twins less (fun value _ => Spells value) (fieldReader left) (fieldReader right) := by
  refine twins_expect_bind fun lower lowerLe => ?_
  have lowerLt : lower + 1 ≤ less := lowerLe
  refine Twins.bind (inlineTwins_parenthesized (below lower (by omega))) fun value taken held => ?_
  exact twins_expect_bind fun _ _ => twins_pure held.1

theorem spells_ite {α : Type} [Spellable α] {condition : Prop} [Decidable condition] {value : α}
    (spelled : Spells value) : Spells (if condition then some value else none) := by
  split
  · exact spells_some.mpr spelled
  · exact spells_none

/-- The expression of a field is shorter than the string around it. -/
theorem optionTwins_fieldExpression (below : left.NearBelow room right) {source : Text}
    (fits : source.length + 3 ≤ room) :
    OptionTwins (fieldExpression left source) (fieldExpression right source) := by
  unfold fieldExpression
  generalize found : lexemes (text "(" ++ source ++ text ")") = spelled
  rw [Option.bind_eq_bind, Option.bind_eq_bind]
  cases spelled with
  | none =>
      rw [Option.bind_none, Option.bind_none]
      exact .refl spells_none
  | some program =>
      rw [Option.bind_some, Option.bind_some]
      have within := weight_lexemes found
      have length : (text "(" ++ source ++ text ")").length = source.length + 2 := by
        rw [List.length_append, List.length_append, Nat.add_comm _ source.length]
        rfl
      rw [length] at within
      obtain ⟨same, answers⟩ := twins_fieldReader below fits program within
        (hasWords_lexemes found)
      change OptionTwins ((fieldReader left program).bind _) ((fieldReader right program).bind _)
      rw [← same]
      cases read : fieldReader left program with
      | none => exact .refl spells_none
      | some answer =>
          obtain ⟨taken, -, spelled⟩ := answers answer.1 answer.2 read
          rw [Option.bind_some]
          exact .refl (spells_ite spelled)

mutual

/-- Pieces of a string are read alike when their fields leave room for the braces. -/
theorem optionTwins_readPiece (below : left.NearBelow room right) {within : Nat}
    (fits : within + 1 ≤ room) : ∀ {piece : RawPiece}, piece.IsWithin within →
      OptionTwins (readPiece left piece) (readPiece right piece)
  | .literal _, _ => .refl (spells_some.mpr AllSpelled.nil)
  | .field source conversion format, ⟨short, formatWithin⟩ => by
      rw [readPiece, readPiece]
      refine (optionTwins_fieldExpression below (by omega)).bind fun value spelled => ?_
      refine (optionTwins_readPieces below fits formatWithin).bind fun pieces spelledPieces => ?_
      exact .refl (spells_some.mpr
        (AllSpelled.append.mpr ⟨spelled, allSpelled_pieces.mpr spelledPieces⟩))

theorem optionTwins_readPieces (below : left.NearBelow room right) {within : Nat}
    (fits : within + 1 ≤ room) : ∀ {pieces : List RawPiece}, AreWithin within pieces →
      OptionTwins (readPieces left pieces) (readPieces right pieces)
  | [], _ => .refl (spells_some.mpr spells_nil)
  | first :: rest, ⟨firstWithin, restWithin⟩ => by
      rw [readPieces, readPieces]
      refine (optionTwins_readPiece below fits firstWithin).bind fun piece spelled => ?_
      refine (optionTwins_readPieces below fits restWithin).bind fun pieces spelledPieces => ?_
      exact .refl (spells_some.mpr (spells_cons.mpr ⟨spelled, spelledPieces⟩))

end

/-- A string without expressions, or with expressions that leave room for their braces. -/
theorem optionTwins_stringPieces (below : left.NearBelow room right) {literal : StringLiteral}
    (fits : literal.body.length + 2 ≤ room) :
    OptionTwins (stringPieces left literal) (stringPieces right literal) := by
  unfold stringPieces
  rw [Option.bind_eq_bind, Option.bind_eq_bind]
  split
  · cases cut : formatPieces literal.isRaw literal.body with
    | none =>
        rw [Option.bind_none, Option.bind_none]
        exact .refl spells_none
    | some pieces =>
        rw [Option.bind_some, Option.bind_some]
        exact optionTwins_readPieces below (by omega) (areWithin_formatPieces cut)
  · cases decodeText literal.isRaw literal.body with
    | none => exact .refl spells_none
    | some decoded => exact .refl (spells_some.mpr (spells_cons.mpr ⟨AllSpelled.nil, spells_nil⟩))

theorem optionTwins_joinStrings (below : left.NearBelow room right)
    {strings : List StringLiteral}
    (fits : ∀ literal ∈ strings, literal.body.length + 2 ≤ room) :
    OptionTwins (joinStrings left strings) (joinStrings right strings) := by
  unfold joinStrings
  split
  · cases strings.mapM fun literal => decodeBytes literal.isRaw literal.body with
    | none => exact .refl spells_none
    | some parts => exact .refl (spells_some.mpr AllSpelled.nil)
  split
  · exact .refl spells_none
  · refine (OptionTwins.mapM fun literal member =>
      optionTwins_stringPieces below (fits literal member)).bind fun pieces spelled => ?_
    split
    · exact .refl (spells_some.mpr (allSpelled_pieces.mpr (spells_flatten spelled)))
    · exact .refl (spells_some.mpr AllSpelled.nil)

/-- The strings of a row stand in front of what is left. -/
theorem eq_of_stringRow (rest : List Lexeme) :
    rest = (stringRow rest).1.map .string ++ (stringRow rest).2 := by
  fun_induction stringRow rest with
  | case1 literal rest found behind row ih =>
      rw [row] at ih
      rw [List.map_cons, List.cons_append, ← ih]
  | case2 => rfl

/-- A row of strings. -/
def stringsReader (inner : Inner) : Reader Expr := do
  let (strings, rest) := stringRow (← get)
  set rest
  ofOption (joinStrings inner strings)

theorem inlineTwins_stringsReader (below : left.NearBelow room right) :
    InlineTwins room (stringsReader left) (stringsReader right) := by
  intro rest fits _
  have split := eq_of_stringRow rest
  have light : ∀ literal ∈ (stringRow rest).1, literal.body.length + 2 ≤ room := by
    intro literal member
    have inRest : Lexeme.string literal ∈ rest :=
      split ▸ List.mem_append_left _ (List.mem_map_of_mem member)
    exact Nat.le_trans (weight_le_of_mem inRest) fits
  obtain ⟨same, spelled⟩ := optionTwins_joinStrings below light
  have answer : ∀ inner : Inner, stringsReader inner rest =
      (joinStrings inner (stringRow rest).1).map fun value => (value, (stringRow rest).2) := by
    intro inner
    change ofOption (joinStrings inner (stringRow rest).1) (stringRow rest).2 = _
    cases joinStrings inner (stringRow rest).1 <;> rfl
  rw [answer, answer, ← same]
  refine ⟨rfl, fun value behind read => ?_⟩
  obtain ⟨found, joined, same⟩ := Option.map_eq_some_iff.mp read
  cases same
  refine ⟨_, split, spelled value joined, fun lexeme member => ?_⟩
  obtain ⟨literal, -, rfl⟩ := List.mem_map.mp member
  rfl

theorem inlineTwins_atom (below : left.NearBelow room right) :
    InlineTwins room (atom left) (atom right) := by
  unfold atom
  refine .peek_bind fun found named => ?_
  split
  · exact .expectName_bind fun name isWord _ _ =>
      .pure (AllSpelled.cons_read.mpr ⟨isWord, AllSpelled.nil⟩)
  · exact .expect_bind rfl Nat.one_ne_zero fun _ _ => .pure AllSpelled.nil
  · exact inlineTwins_stringsReader below
  · exact .ofOption_bind fun constant _ => .expectKeyword_bind fun _ _ => .pure AllSpelled.nil
  · refine .expectSymbol_bind fun less lt => ?_
    split
    · exact .pure AllSpelled.nil
    · exact inlineTwins_parenthesized (below less lt)
    · exact inlineTwins_bracketed (below less lt)
    · exact inlineTwins_braced (below less lt)
    · exact .refuse
  · exact .refuse

instance : Spellable ArgumentState := ⟨fun state => Spells state.positional ∧ Spells state.named⟩

theorem inlineTwins_readArgument (near : left.Near room right) {state : ArgumentState}
    (spelled : Spells state) :
    InlineTwins room (readArgument left state) (readArgument right state) := by
  unfold readArgument
  refine .acceptSymbol_ite (fun less lt => ?_) (.acceptSymbol_ite (fun less lt => ?_) ?_)
  · exact (near.below less lt).expression.bind fun value spelledValue =>
      .pure ⟨spelled.1, spells_cons.mpr ⟨spelledValue, spelled.2⟩⟩
  · exact .require_bind ((near.below less lt).expression.bind fun value spelledValue =>
      .pure ⟨spells_cons.mpr ⟨spelledValue, spelled.1⟩, spelled.2⟩)
  · refine .peek_bind fun found _ => .peekSecond_bind fun second => ?_
    split
    · refine .expectName_bind fun name _ less lt => .expectSymbol_bind fun lower lowerLt => ?_
      exact (near.mono (by omega)).expression.bind fun value spelledValue =>
        .pure ⟨spelled.1, spells_cons.mpr ⟨spelledValue, spelled.2⟩⟩
    · exact .require_bind ((inlineTwins_namedExpression near).bind fun value spelledValue =>
        .pure ⟨spells_cons.mpr ⟨spelledValue, spelled.1⟩, spelled.2⟩)

theorem inlineTwins_readArguments (near : left.Near room right) {start : ArgumentState}
    (spelled : Spells start) :
    InlineTwins room (readArguments left start) (readArguments right start) := by
  unfold readArguments
  refine .bind (.repeatFrom spelled fun state spelledState => ?_) fun state spelledState =>
    .expectSymbol_bind fun _ _ => .pure
      ⟨spells_reverse.mpr spelledState.1, spells_reverse.mpr spelledState.2⟩
  refine .nextIs_bind fun isEnding => .ite (.pure spells_none) (.ite .refuse ?_)
  refine (inlineTwins_readArgument near spelledState).bind fun following spelledFollowing => ?_
  exact .acceptSymbol_bind (fun _ _ => .pure (spells_some.mpr spelledFollowing))
    (.pure (spells_some.mpr spelledFollowing))

theorem inlineTwins_callArguments (near : left.Near room right) :
    InlineTwins room (callArguments left) (callArguments right) := by
  have start : Spells ArgumentState.start := ⟨spells_nil, spells_nil⟩
  unfold callArguments
  refine .peek_bind fun found _ => .peekSecond_bind fun second => ?_
  -- Whether a named argument comes first or not, what follows is read in the same way.
  split <;> refine .bind (.pure trivial) fun isNamed _ => .peek_bind fun next _ =>
    .ite (inlineTwins_readArguments near start) ?_
  all_goals
    refine (inlineTwins_namedExpression near).bind fun first spelled => ?_
    refine inlineTwins_clauseFollows.bind fun isClause _ => .ite ?_ ?_
    · refine (inlineTwins_clauses near).bind fun found spelledFound => ?_
      refine inlineTwins_closed ⟨spells_cons.mpr ⟨?_, spells_nil⟩, spells_nil⟩
      exact AllSpelled.append.mpr ⟨spelled, allSpelled_clauses.mpr spelledFound⟩
    · have single : ∀ isEnded, Spells (ArgumentState.mk [first] [] false isEnded) :=
        fun _ => ⟨spells_cons.mpr ⟨spelled, spells_nil⟩, spells_nil⟩
      exact .acceptSymbol_bind
        (fun less lt => inlineTwins_readArguments (near.below less lt) (single _))
        (inlineTwins_readArguments near (single _))

theorem inlineTwins_sliceBound (near : left.Near room right) :
    InlineTwins room (sliceBound left) (sliceBound right) := by
  unfold sliceBound
  refine .peek_bind fun next _ => .ite ?_ (.pure spells_none)
  exact near.expression.bind fun value spelled => .pure (spells_some.mpr spelled)

/-- A range of indices reads its bounds. -/
theorem spells_slice {lower upper step : Option Expr} (spelledLower : Spells lower)
    (spelledUpper : Spells upper) (spelledStep : Spells step) :
    Spells (Expr.slice lower upper step) :=
  AllSpelled.append.mpr ⟨AllSpelled.append.mpr ⟨allSpelled_option.mpr spelledLower,
    allSpelled_option.mpr spelledUpper⟩, allSpelled_option.mpr spelledStep⟩

theorem inlineTwins_sliceRest (near : left.Near room right) {lower : Option Expr}
    (spelled : Spells lower) :
    InlineTwins room (sliceRest left lower) (sliceRest right lower) := by
  unfold sliceRest
  refine (inlineTwins_sliceBound near).bind fun upper spelledUpper => ?_
  refine .acceptSymbol_ite (fun less lt => ?_) ?_
  · exact (inlineTwins_sliceBound (near.below less lt)).bind fun step spelledStep =>
      .pure (spells_slice spelled spelledUpper spelledStep)
  · exact .bind (.pure spells_none) fun step spelledStep =>
      .pure (spells_slice spelled spelledUpper spelledStep)

theorem inlineTwins_sliceItem (near : left.Near room right) :
    InlineTwins room (sliceItem left) (sliceItem right) := by
  unfold sliceItem
  refine .acceptSymbol_ite (fun less lt => ?_) (.acceptSymbol_ite (fun less lt => ?_) ?_)
  · exact (near.below less lt).expression.bind fun value spelled => .pure spelled
  · exact inlineTwins_sliceRest (near.below less lt) spells_none
  · refine inlineTwins_walrusFollows.bind fun isWalrus _ => ?_
    refine (inlineTwins_namedExpression near).bind fun value spelled => ?_
    refine .nextIs_bind fun isColon => .ite (.require_bind ?_) (.pure spelled)
    exact .expectSymbol_bind fun less lt =>
      inlineTwins_sliceRest (near.below less lt) (spells_some.mpr spelled)

theorem inlineTwins_slices (near : left.Near room right) :
    InlineTwins room (slices left) (slices right) := by
  unfold slices
  refine (inlineTwins_sliceItem near).items.bind fun found spelled => ?_
  split
  · exact .pure (allSpelled_exprs.mpr spelled.1)
  · exact .pure (spells_tupleOrSingle spelled)

theorem inlineTwins_trailers (below : left.NearBelow room right) {first : Expr}
    (spelled : Spells first) : InlineTwins room (trailers left first) (trailers right first) := by
  unfold trailers
  refine .repeatFrom spelled fun value spelledValue => ?_
  refine .acceptSymbol_ite (fun less lt => ?_) (.acceptSymbol_ite (fun less lt => ?_)
    (.acceptSymbol_ite (fun less lt => ?_) (.pure spells_none)))
  · exact .expectName_bind fun name _ _ _ => .pure (spells_some.mpr spelledValue)
  · refine (inlineTwins_callArguments (below less lt)).bind fun found spelledFound => .pure ?_
    exact spells_some.mpr (AllSpelled.append.mpr ⟨AllSpelled.append.mpr
      ⟨spelledValue, allSpelled_exprs.mpr spelledFound.1⟩, allSpelled_named.mpr spelledFound.2⟩)
  · refine (inlineTwins_slices (below less lt)).bind fun index spelledIndex => ?_
    exact .expectSymbol_bind fun _ _ =>
      .pure (spells_some.mpr (AllSpelled.append.mpr ⟨spelledValue, spelledIndex⟩))

section

variable {operand operandRight : Reader Expr}

theorem inlineTwins_leftAssociative {operators : List BinaryOperator}
    (twins : InlineTwins room operand operandRight) :
    InlineTwins room (leftAssociative operators operand)
      (leftAssociative operators operandRight) := by
  unfold leftAssociative
  refine twins.bind fun first spelled => .repeatFrom spelled fun value spelledValue => ?_
  refine .peek_bind fun next _ => ?_
  split
  · refine .ite (.expectSymbol_bind fun less lt => ?_) (.pure spells_none)
    exact (twins.mono (Nat.le_of_lt lt)).bind fun other spelledOther =>
      .pure (spells_some.mpr (AllSpelled.append.mpr ⟨spelledValue, spelledOther⟩))
  · exact .pure spells_none

theorem inlineTwins_connectedBy {connective : Connective} {word : Keyword}
    (twins : InlineTwins room operand operandRight) :
    InlineTwins room (connectedBy connective word operand)
      (connectedBy connective word operandRight) := by
  unfold connectedBy
  refine twins.bind fun first spelled => ?_
  have single : Spells [first] := spells_cons.mpr ⟨spelled, spells_nil⟩
  refine .bind (.repeatFrom single fun found spelledFound => ?_) fun found spelledFound => ?_
  · refine .acceptKeyword_ite (fun less lt => ?_) (.pure spells_none)
    exact (twins.mono (Nat.le_of_lt lt)).bind fun other spelledOther =>
      .pure (spells_some.mpr (spells_cons.mpr ⟨spelledOther, spelledFound⟩))
  · have reversed : Spells found.reverse := spells_reverse.mpr spelledFound
    split
    · next same =>
        rw [same] at reversed
        exact .pure (spells_cons.mp reversed).1
    · exact .pure (allSpelled_exprs.mpr reversed)

theorem inlineTwins_relation? : InlineTwins room relation? relation? := by
  have taken : ∀ symbol relation,
      InlineTwins room (relation?.take symbol relation) (relation?.take symbol relation) :=
    fun symbol relation => .expectSymbol_bind fun _ _ => .pure (spells_some.mpr trivial)
  unfold relation?
  refine .peek_bind fun next _ => .peekSecond_bind fun second => ?_
  split
  all_goals first
    | exact taken _ _
    | exact .pure spells_none
    | skip
  · exact .expectKeyword_bind fun _ _ => .pure (spells_some.mpr trivial)
  · exact .expectKeyword_bind fun _ _ => .expectKeyword_bind fun _ _ =>
      .pure (spells_some.mpr trivial)
  · exact .expectKeyword_bind fun _ _ => .acceptKeyword_ite
      (fun _ _ => .pure (spells_some.mpr trivial)) (.pure (spells_some.mpr trivial))

theorem inlineTwins_comparison (twins : InlineTwins room operand operandRight) :
    InlineTwins room (comparison operand) (comparison operandRight) := by
  have start : Spells (([], []) : List Relation × List Expr) := ⟨spells_nil, spells_nil⟩
  unfold comparison
  refine twins.bind fun first spelled => ?_
  refine .bind (.repeatFrom start fun found spelledFound => ?_) fun found spelledFound => ?_
  · refine inlineTwins_relation?.bind fun relation _ => ?_
    cases relation with
    | none => exact .pure spells_none
    | some relation =>
        exact twins.bind fun other spelledOther => .pure (spells_some.mpr
          ⟨spells_cons.mpr ⟨trivial, spelledFound.1⟩, spells_cons.mpr ⟨spelledOther, spelledFound.2⟩⟩)
  · split
    · exact .pure spelled
    · exact .pure (AllSpelled.append.mpr
        ⟨spelled, allSpelled_exprs.mpr (spells_reverse.mpr spelledFound.2)⟩)

end

theorem inlineTwins_primary (below : left.NearBelow room right) :
    InlineTwins room (Degree.primary left) (Degree.primary right) :=
  (inlineTwins_atom below).bind fun _ spelled => inlineTwins_trailers below spelled

theorem inlineTwins_power (below : left.NearBelow room right) :
    InlineTwins room (Degree.power left) (Degree.power right) := by
  have raised : ∀ {less}, less ≤ room → ∀ base : Expr, Spells base → InlineTwins less
      (do if ← acceptSymbol (.operator .power) then return .binary .power base (← left.factor)
          else return base)
      (do if ← acceptSymbol (.operator .power) then return .binary .power base (← right.factor)
          else return base) := by
    intro less le base spelled
    refine .acceptSymbol_ite (fun lower lt => ?_) (.pure spelled)
    exact (below lower (by omega)).factor.bind fun exponent spelledExponent =>
      .pure (AllSpelled.append.mpr ⟨spelled, spelledExponent⟩)
  unfold Degree.power
  refine .acceptKeyword_ite (fun less lt => ?_) ?_
  · refine (inlineTwins_primary (below.mono (Nat.le_of_lt lt))).bind fun awaited spelled => ?_
    exact .bind (.pure spelled) (raised (Nat.le_of_lt lt))
  · exact (inlineTwins_primary below).bind (raised (Nat.le_refl _))

theorem inlineTwins_factor (below : left.NearBelow room right) :
    InlineTwins room (Degree.factor left) (Degree.factor right) := by
  have signed : ∀ (operator : UnaryOperator) less, less < room →
      InlineTwins less (do return Expr.unary operator (← left.factor))
        (do return Expr.unary operator (← right.factor)) :=
    fun operator less lt => (below less lt).factor.bind fun operand spelled => .pure spelled
  exact .acceptSymbol_ite (signed .plus) (.acceptSymbol_ite (signed .minus)
    (.acceptSymbol_ite (signed .invert) (inlineTwins_power below)))

theorem inlineTwins_bitOr (below : left.NearBelow room right) :
    InlineTwins room (Degree.bitOr left) (Degree.bitOr right) := by
  unfold Degree.bitOr Degree.bitXor Degree.bitAnd Degree.shift Degree.sum Degree.term
  exact inlineTwins_leftAssociative (inlineTwins_leftAssociative (inlineTwins_leftAssociative
    (inlineTwins_leftAssociative (inlineTwins_leftAssociative
      (inlineTwins_leftAssociative (inlineTwins_factor below))))))

theorem inlineTwins_inversion (below : left.NearBelow room right) :
    InlineTwins room (Degree.inversion left) (Degree.inversion right) := by
  unfold Degree.inversion
  refine .acceptKeyword_ite (fun less lt => ?_) (inlineTwins_comparison (inlineTwins_bitOr below))
  exact (below less lt).inversion.bind fun operand spelled => .pure spelled

theorem inlineTwins_disjunction (below : left.NearBelow room right) :
    InlineTwins room (Degree.disjunction left) (Degree.disjunction right) :=
  inlineTwins_connectedBy (inlineTwins_connectedBy (inlineTwins_inversion below))

theorem inlineTwins_expression (below : left.NearBelow room right) :
    InlineTwins room (Degree.expression left) (Degree.expression right) := by
  unfold Degree.expression
  refine .nextIs_bind fun isLambda => .ite (inlineTwins_lambdaExpression below) ?_
  refine (inlineTwins_disjunction below).bind fun first spelled => ?_
  refine .acceptKeyword_ite (fun less lt => ?_) (.pure spelled)
  refine (below less lt).disjunction.bind fun test spelledTest => .expectKeyword_bind
    fun lower lowerLt => ?_
  exact (below lower (by omega)).expression.bind fun other spelledOther =>
    .pure (AllSpelled.append.mpr ⟨AllSpelled.append.mpr ⟨spelledTest, spelled⟩, spelledOther⟩)

end Stencil.Script
