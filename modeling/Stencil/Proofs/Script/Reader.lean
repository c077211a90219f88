import Stencil.Script.Grammar.Expression

/-! # Readers step by step

What a reader does with lexemes is followed step by step: a lexeme is taken or left
(`Stencil.Script.Reader.accept_cons_of_ne`), and a repetition takes its steps until one of them
takes nothing (`Stencil.Script.Reader.repeatFrom_of_steps`). An operand that no operator follows
is read alike in every degree of the grammar (`Stencil.Script.Degree.expression_of_primary`).
-/

namespace Stencil.Script

namespace Reader

variable {α β : Type} {lexeme other : Lexeme} {rest lexemes : List Lexeme}

@[simp] theorem bind_apply {reader : Reader α} {next : α → Reader β} :
    (reader >>= next) lexemes = (reader lexemes).bind fun found => next found.1 found.2 := rfl

@[simp] theorem pure_apply {value : α} : (pure value : Reader α) lexemes = some (value, lexemes) :=
  rfl

@[simp] theorem peek_apply : peek lexemes = some (lexemes.head?, lexemes) := rfl

@[simp] theorem peekSecond_apply : peekSecond lexemes = some ((lexemes.drop 1).head?, lexemes) :=
  rfl

@[simp] theorem nextIs_apply :
    nextIs lexeme lexemes = some (lexemes.head? == some lexeme, lexemes) := rfl

@[simp] theorem accept_cons_self : accept lexeme (lexeme :: rest) = some (true, rest) :=
  if_pos rfl

theorem accept_cons_of_ne (differs : other ≠ lexeme) :
    accept lexeme (other :: rest) = some (false, other :: rest) := if_neg differs

theorem accept_of_head (differs : lexemes.head? ≠ some lexeme) :
    accept lexeme lexemes = some (false, lexemes) := by
  cases lexemes with
  | nil => rfl
  | cons first rest => exact accept_cons_of_ne fun same => differs (congrArg some same)

@[simp] theorem expect_cons_self : expect lexeme (lexeme :: rest) = some ((), rest) := if_pos rfl

@[simp] theorem expectName_cons {word : Text} :
    expectName (.name word :: rest) = some (word.spelledName, rest) := rfl

/-- A repetition ends with a step that does not go on, or takes one that does and repeats the
rest. -/
theorem repeatWithin_eq_some {step : α → Reader (Option α)} {bound : List Lexeme} {value last : α} :
    repeatWithin step bound value lexemes = some (last, rest) ↔
      step value lexemes = some (none, rest) ∧ last = value ∨
        ∃ first less next behind, bound = first :: less ∧
          step value lexemes = some (some next, behind) ∧
          repeatWithin step less next behind = some (last, rest) := by
  cases stepped : step value lexemes with
  | none => cases bound <;> simp [repeatWithin, stepped]
  | some found =>
      obtain ⟨next, behind⟩ := found
      cases next with
      | none => cases bound <;> simp [repeatWithin, stepped, eq_comm, and_comm]
      | some next =>
          cases bound with
          | nil => simp [repeatWithin, stepped, refuse]
          | cons first less =>
              rw [repeatWithin, bind_apply, stepped, Option.bind_some]
              constructor
              · exact fun read => .inr ⟨first, less, next, behind, rfl, rfl, read⟩
              · rintro (⟨stops, -⟩ | ⟨_, _, _, _, split, goesOn, read⟩)
                · cases stops
                · cases split
                  cases goesOn
                  exact read

/-- Several steps of a repetition, each of which goes on. -/
inductive Steps (step : α → Reader (Option α)) :
    Nat → α → List Lexeme → α → List Lexeme → Prop
  | none {value : α} {lexemes : List Lexeme} : Steps step 0 value lexemes value lexemes
  | more {count : Nat} {value next last : α} {lexemes behind rest : List Lexeme}
      (first : step value lexemes = some (some next, behind))
      (others : Steps step count next behind last rest) :
      Steps step (count + 1) value lexemes last rest

/-- A repetition takes its steps until one of them does not go on. -/
theorem repeatWithin_of_steps {step : α → Reader (Option α)} {count : Nat} {value last : α}
    {bound : List Lexeme} (steps : Steps step count value lexemes last rest)
    (stops : step last rest = some (Option.none, rest)) (fits : count ≤ bound.length) :
    repeatWithin step bound value lexemes = some (last, rest) := by
  induction steps generalizing bound with
  | none => cases bound <;> simp only [repeatWithin, bind_apply, stops, Option.bind_some, pure_apply]
  | more first others ih =>
      cases bound with
      | nil => cases fits
      | cons next bound =>
          simp only [repeatWithin, bind_apply, first, Option.bind_some]
          exact ih stops (Nat.le_of_succ_le_succ fits)

theorem repeatFrom_of_steps {step : α → Reader (Option α)} {count : Nat} {value last : α}
    (steps : Steps step count value lexemes last rest)
    (stops : step last rest = some (Option.none, rest)) (fits : count ≤ lexemes.length) :
    repeatFrom step value lexemes = some (last, rest) := repeatWithin_of_steps steps stops fits

/-- A repetition that does not go on leaves everything as it is. -/
theorem repeatFrom_of_stops {step : α → Reader (Option α)} {value : α}
    (stops : step value rest = some (Option.none, rest)) :
    repeatFrom step value rest = some (value, rest) :=
  repeatFrom_of_steps .none stops (Nat.zero_le _)

theorem repeatFrom_of_step {step : α → Reader (Option α)} {value : α} (last : α)
    (rest : List Lexeme) (held : lexemes ≠ []) (first : step value lexemes = some (some last, rest))
    (stops : step last rest = some (Option.none, rest)) :
    repeatFrom step value lexemes = some (last, rest) :=
  repeatFrom_of_steps (.more first .none) stops (List.length_pos_iff.mpr held)

/-- A single item is read as a row when no comma follows it. -/
theorem items_single {item : Reader α} {starts : Lexeme → Bool} {value : α} {next : Lexeme}
    (read : item lexemes = some (value, next :: rest)) (noComma : next ≠ .symbol .comma) :
    items item starts lexemes = some (([value], false), next :: rest) := by
  unfold items moreItems
  simp only [bind_apply, read, Option.bind_some]
  rw [repeatFrom_of_step ([value], false, true) (next :: rest) (List.cons_ne_nil _ _)]
  · rfl
  · simp only [bind_apply, acceptSymbol, accept_cons_of_ne noComma, Option.bind_some,
      Bool.false_eq_true, ↓reduceIte, pure_apply]
  · simp only [↓reduceIte, pure_apply]

end Reader

open Reader

/-- A lexeme that does not go on with an operand in front of it. -/
def Lexeme.endsOperand : Lexeme → Bool
  | .string _ | .symbol .dot | .symbol .leftParen | .symbol .leftBracket
  | .symbol (.operator _) => false
  | _ => true

/-- A lexeme that does not go on with an expression in front of it. -/
def Lexeme.endsExpression : Lexeme → Bool
  | .keyword .inWord | .keyword .notWord | .keyword .isWord | .keyword .andWord
  | .keyword .orWord | .keyword .ifWord | .symbol .equalEqual | .symbol .notEqual
  | .symbol .less | .symbol .lessEqual | .symbol .greater | .symbol .greaterEqual => false
  | lexeme => lexeme.endsOperand

/-- A lexeme with which an operand begins that has no operator in front. -/
def Lexeme.startsPrimary : Lexeme → Bool
  | .name _ | .string _ | .number _ | .symbol .leftBracket => true
  | _ => false

namespace Degree

variable {inner : Inner} {value : Expr} {first next : Lexeme} {lexemes rest : List Lexeme}

/-- What ends an expression ends an operand. -/
theorem endsOperand_of_endsExpression (ends : next.endsExpression = true) : next.endsOperand = true := by
  unfold Lexeme.endsExpression at ends
  split at ends
  all_goals first
    | cases ends
    | exact ends

/-- No operator of a degree follows an operand. -/
theorem leftAssociative_of_operand {operators : List BinaryOperator} {operand : Reader Expr}
    (read : operand lexemes = some (value, next :: rest)) (ends : next.endsOperand = true) :
    leftAssociative operators operand lexemes = some (value, next :: rest) := by
  unfold leftAssociative
  simp only [bind_apply, read, Option.bind_some]
  refine repeatFrom_of_stops ?_
  simp only [bind_apply, peek_apply, Option.bind_some, List.head?_cons]
  cases next with
  | symbol symbol =>
      cases symbol with
      | operator operator => cases ends
      | _ => rfl
  | _ => rfl

/-- No power and no sign belongs to an operand. -/
theorem factor_of_primary (starts : first.startsPrimary = true) (ends : next.endsOperand = true)
    (read : primary inner (first :: lexemes) = some (value, next :: rest)) :
    factor inner (first :: lexemes) = some (value, next :: rest) := by
  have differs : ∀ other : Lexeme, other.startsPrimary = false → first ≠ other := by
    rintro other noStart rfl
    rw [starts] at noStart
    cases noStart
  have noPower : next ≠ .symbol (.operator .power) := by
    rintro rfl
    cases ends
  unfold factor power
  simp only [bind_apply, acceptSymbol, acceptKeyword, Option.bind_some, Bool.false_eq_true,
    ↓reduceIte, accept_cons_of_ne (differs (.symbol (.operator .add)) rfl),
    accept_cons_of_ne (differs (.symbol (.operator .subtract)) rfl),
    accept_cons_of_ne (differs (.symbol .tilde) rfl),
    accept_cons_of_ne (differs (.keyword .awaitWord) rfl), read, accept_cons_of_ne noPower,
    pure_apply]

/-- An operand that no operator follows is read where operators may follow. -/
theorem bitOr_of_primary (starts : first.startsPrimary = true) (ends : next.endsOperand = true)
    (read : primary inner (first :: lexemes) = some (value, next :: rest)) :
    bitOr inner (first :: lexemes) = some (value, next :: rest) := by
  have asFactor := factor_of_primary starts ends read
  unfold bitOr bitXor bitAnd shift sum term
  exact leftAssociative_of_operand (leftAssociative_of_operand (leftAssociative_of_operand
    (leftAssociative_of_operand (leftAssociative_of_operand
      (leftAssociative_of_operand asFactor ends) ends) ends) ends) ends) ends

/-- No relation begins with what ends an expression. -/
theorem relation?_of_endsExpression (ends : next.endsExpression = true) :
    relation? (next :: rest) = some (none, next :: rest) := by
  unfold relation?
  simp only [bind_apply, peek_apply, peekSecond_apply, Option.bind_some, List.head?_cons]
  cases next with
  | symbol symbol =>
      cases symbol
      all_goals first
        | rfl
        | cases ends
  | keyword word =>
      cases word
      all_goals first
        | rfl
        | cases ends
  | _ => rfl

/-- A comparison is read as an expression when nothing goes on with it. -/
theorem expression_of_comparison (starts : first.startsPrimary = true)
    (ends : next.endsExpression = true)
    (read : comparison (bitOr inner) (first :: lexemes) = some (value, next :: rest)) :
    expression inner (first :: lexemes) = some (value, next :: rest) := by
  have differs : ∀ other : Lexeme, other.startsPrimary = false → first ≠ other := by
    rintro other noStart rfl
    rw [starts] at noStart
    cases noStart
  have others : ∀ other : Lexeme, other.endsExpression = false → next ≠ other := by
    rintro other goesOn rfl
    rw [ends] at goesOn
    cases goesOn
  have asInversion : inversion inner (first :: lexemes) = some (value, next :: rest) := by
    unfold inversion
    simp only [bind_apply, acceptKeyword,
      accept_cons_of_ne (differs (.keyword .notWord) rfl), Option.bind_some,
      Bool.false_eq_true, ↓reduceIte, read]
  have connected : ∀ (connective : Connective) (word : Keyword) (operand : Reader Expr),
      (Lexeme.keyword word).endsExpression = false →
      operand (first :: lexemes) = some (value, next :: rest) →
      connectedBy connective word operand (first :: lexemes) = some (value, next :: rest) := by
    intro connective word operand goesOn read
    unfold connectedBy
    simp only [bind_apply, read, Option.bind_some]
    rw [repeatFrom_of_stops]
    · rfl
    · simp only [bind_apply, acceptKeyword, accept_cons_of_ne (others _ goesOn), Option.bind_some,
        Bool.false_eq_true, ↓reduceIte, pure_apply]
  have asDisjunction : disjunction inner (first :: lexemes) = some (value, next :: rest) :=
    connected _ _ _ rfl (connected _ _ _ rfl asInversion)
  have noLambda : (some first == some (Lexeme.keyword .lambdaWord)) = false :=
    beq_eq_false_iff_ne.mpr fun same => differs _ rfl (Option.some.inj same)
  unfold expression
  simp only [bind_apply, nextIs_apply, List.head?_cons, noLambda, Option.bind_some,
    Bool.false_eq_true, ↓reduceIte, asDisjunction, acceptKeyword,
    accept_cons_of_ne (others (.keyword .ifWord) rfl), pure_apply]

/-- **An operand that nothing goes on with is read as an expression.** -/
theorem expression_of_primary (starts : first.startsPrimary = true) (ends : next.endsExpression = true)
    (read : primary inner (first :: lexemes) = some (value, next :: rest)) :
    expression inner (first :: lexemes) = some (value, next :: rest) := by
  refine expression_of_comparison starts ends ?_
  unfold comparison
  simp only [bind_apply, bitOr_of_primary starts (endsOperand_of_endsExpression ends) read,
    Option.bind_some]
  rw [repeatFrom_of_stops]
  · rfl
  · simp only [bind_apply, relation?_of_endsExpression ends, Option.bind_some, pure_apply]

/-- An operand that is said to be within another one is read as a comparison. -/
theorem expression_within {container : Expr} {second : Lexeme} {others : List Lexeme}
    (starts : first.startsPrimary = true) (startsOther : second.startsPrimary = true)
    (ends : next.endsExpression = true)
    (read : primary inner (first :: lexemes) =
      some (value, .keyword .inWord :: second :: others))
    (readOther : primary inner (second :: others) = some (container, next :: rest)) :
    expression inner (first :: lexemes) =
      some (.compared value [.within] [container], next :: rest) := by
  refine expression_of_comparison starts ends ?_
  have operand := bitOr_of_primary startsOther (endsOperand_of_endsExpression ends) readOther
  unfold comparison
  have operandFirst : bitOr inner (first :: lexemes) =
      some (value, .keyword .inWord :: second :: others) := bitOr_of_primary starts rfl read
  simp only [bind_apply, operandFirst, Option.bind_some]
  rw [repeatFrom_of_step ([.within], [container]) (next :: rest) (List.cons_ne_nil _ _)]
  · rfl
  · simp only [bind_apply, relation?, peek_apply, peekSecond_apply, Option.bind_some,
      List.head?_cons, expectKeyword, expect_cons_self, pure_apply, operand]
  · simp only [bind_apply, relation?_of_endsExpression ends, Option.bind_some, pure_apply]

end Degree

/-- One more call, element or attribute of a value. -/
def trailStep (inner : Inner) (value : Expr) : Reader (Option Expr) := do
  if ← acceptSymbol .dot then return some (.attribute value (← expectName))
  else if ← acceptSymbol .leftParen then
    let (positional, named) ← callArguments inner
    return some (.call value positional named)
  else if ← acceptSymbol .leftBracket then
    let index ← slices inner
    expectSymbol .rightBracket
    return some (.subscript value index)
  else return none

section

variable {inner : Inner} {value argument : Expr} {first next : Lexeme}
  {lexemes behind rest : List Lexeme} {name : Name}

theorem atom_name (spelled : name.spelledName = name) :
    atom inner (.name name :: rest) = some (.name name, rest) := by
  change some (Expr.name name.spelledName, rest) = _
  rw [spelled]

theorem atom_emptyList : atom inner (.symbol .leftBracket :: .symbol .rightBracket :: rest) =
    some (.list [], rest) := rfl

/-- A string that no other one follows is an operand. -/
theorem atom_string {body meant : Text} (decoded : decodeText false body = some meant)
    (apart : ∀ literal, next ≠ .string literal) :
    atom inner (.string ⟨false, false, false, body⟩ :: next :: rest) =
      some (.constant (.text meant), next :: rest) := by
  have row : stringRow (.string ⟨false, false, false, body⟩ :: next :: rest) =
      ([⟨false, false, false, body⟩], next :: rest) := by
    cases next with
    | string literal => exact (apart literal rfl).elim
    | _ => rfl
  have joined : joinStrings inner [⟨false, false, false, body⟩] =
      some (.constant (.text meant)) := by
    simp [joinStrings, stringPieces, decoded, literalText]
  unfold atom
  simp only [bind_apply, peek_apply, Option.bind_some, List.head?_cons]
  change ofOption (joinStrings inner (stringRow _).1) (stringRow _).2 = _
  rw [row, joined]
  rfl

theorem ne_string_of_endsOperand (ends : next.endsOperand = true) (literal : StringLiteral) :
    next ≠ .string literal := by
  rintro rfl
  cases ends

/-- A value ends at a lexeme that does not go on with it. -/
theorem trailStep_stops (ends : next.endsOperand = true) :
    trailStep inner value (next :: rest) = some (none, next :: rest) := by
  have differs : ∀ other : Lexeme, other.endsOperand = false → next ≠ other := by
    rintro other goesOn rfl
    rw [ends] at goesOn
    cases goesOn
  unfold trailStep
  simp only [bind_apply, acceptSymbol, accept_cons_of_ne (differs (.symbol .dot) rfl),
    accept_cons_of_ne (differs (.symbol .leftParen) rfl),
    accept_cons_of_ne (differs (.symbol .leftBracket) rfl), Option.bind_some, Bool.false_eq_true,
    ↓reduceIte, pure_apply]

theorem trailStep_attribute (spelled : name.spelledName = name) :
    trailStep inner value (.symbol .dot :: .name name :: rest) =
      some (some (.attribute value name), rest) := by
  change some (some (Expr.attribute value name.spelledName), rest) = _
  rw [spelled]

/-- An operand is read with its calls, elements and attributes. -/
theorem primary_of_steps {count : Nat} {start : Expr}
    (begins : atom inner lexemes = some (start, behind))
    (steps : Steps (trailStep inner) count start behind value (next :: rest))
    (fits : count ≤ behind.length) (ends : next.endsOperand = true) :
    Degree.primary inner lexemes = some (value, next :: rest) := by
  unfold Degree.primary
  rw [bind_apply, begins]
  exact repeatFrom_of_steps steps (trailStep_stops ends) fits

theorem primary_of_atom (begins : atom inner lexemes = some (value, next :: rest))
    (ends : next.endsOperand = true) :
    Degree.primary inner lexemes = some (value, next :: rest) :=
  primary_of_steps begins .none (Nat.zero_le _) ends

theorem walrusFollows_of_head (noWalrus : lexemes.head? ≠ some (.symbol .walrus)) :
    walrusFollows (first :: lexemes) = some (false, first :: lexemes) := by
  unfold walrusFollows
  simp only [bind_apply, peek_apply, peekSecond_apply, Option.bind_some, List.head?_cons,
    List.drop_succ_cons, List.drop_zero]
  generalize lexemes.head? = second at noWalrus
  cases first with
  | name identifier =>
      cases second with
      | none => rfl
      | some second =>
          cases second with
          | symbol symbol =>
              cases symbol with
              | walrus => exact (noWalrus rfl).elim
              | _ => rfl
          | _ => rfl
  | _ => rfl

/-- An expression that is no assignment is read as it is. -/
theorem namedExpression_of_expression (noWalrus : lexemes.head? ≠ some (.symbol .walrus)) :
    namedExpression inner (first :: lexemes) = inner.expression (first :: lexemes) := by
  unfold namedExpression
  simp only [bind_apply, walrusFollows_of_head noWalrus, Option.bind_some, Bool.false_eq_true,
    ↓reduceIte]

/-- The arguments of a call, once it is known whether the first one has a name. -/
def argumentsBehind (inner : Inner) (isNamed : Bool) : Reader (List Expr × List NamedArgument) := do
  if isNamed || !(← peek).any startsExpression then readArguments inner .start
  else
    let first ← namedExpression inner
    if ← clauseFollows then
      let found ← clauses inner
      expectSymbol .rightParen
      return ([.comprehension .generator first found], [])
    else
      let hasComma ← acceptSymbol .comma
      readArguments inner ⟨[first], [], false, !hasComma⟩

/-- The arguments of a call whose first one has no name. -/
theorem callArguments_eq (noName : lexemes.head? ≠ some (.symbol .equal)) :
    callArguments inner (first :: lexemes) = argumentsBehind inner false (first :: lexemes) := by
  unfold callArguments argumentsBehind
  simp only [bind_apply, peek_apply, peekSecond_apply, Option.bind_some, List.head?_cons,
    List.drop_succ_cons, List.drop_zero]
  generalize lexemes.head? = second at noName
  -- Only a name with an equals sign behind it is the name of a parameter.
  cases first with
  | name identifier =>
      rcases second with _ | second
      · rfl
      cases second with
      | symbol symbol =>
          cases symbol with
          | equal => exact (noName rfl).elim
          | _ => rfl
      | _ => rfl
  | _ => rfl

/-- A single argument that is no assignment, whatever its first lexeme is. -/
theorem argumentsBehind_single (starts : startsExpression first = true)
    (named : namedExpression inner (first :: lexemes) = inner.expression (first :: lexemes))
    (read : inner.expression (first :: lexemes) =
      some (argument, .symbol .rightParen :: rest)) :
    argumentsBehind inner false (first :: lexemes) = some (([argument], []), rest) := by
  have noClause : clauseFollows (.symbol .rightParen :: rest) =
      some (false, .symbol .rightParen :: rest) := rfl
  have noMore : readArguments inner ⟨[argument], [], false, true⟩ (.symbol .rightParen :: rest) =
      some (([argument], []), rest) := by
    unfold readArguments
    rw [bind_apply, repeatFrom_of_stops]
    · rfl
    · rfl
  have noComma : accept (.symbol .comma) (.symbol .rightParen :: rest) =
      some (false, .symbol .rightParen :: rest) := accept_cons_of_ne (by decide)
  unfold argumentsBehind
  simp only [bind_apply, peek_apply, List.head?_cons, Option.bind_some, Option.any_some, starts,
    Bool.not_true, Bool.or_self, Bool.false_eq_true, ↓reduceIte, named, read, noClause,
    acceptSymbol, noComma, Bool.not_false, noMore]

theorem callArguments_single (starts : startsExpression first = true)
    (noWalrus : lexemes.head? ≠ some (.symbol .walrus))
    (noName : lexemes.head? ≠ some (.symbol .equal))
    (read : inner.expression (first :: lexemes) =
      some (argument, .symbol .rightParen :: rest)) :
    callArguments inner (first :: lexemes) = some (([argument], []), rest) :=
  (callArguments_eq noName).trans
    (argumentsBehind_single starts (namedExpression_of_expression noWalrus) read)

/-- One more argument without a name. -/
theorem readArgument_unnamed {state : ArgumentState} (starts : first.startsPrimary = true)
    (noWalrus : lexemes.head? ≠ some (.symbol .walrus))
    (noName : lexemes.head? ≠ some (.symbol .equal)) (unnamed : state.named = [])
    (read : inner.expression (first :: lexemes) = some (argument, rest)) :
    readArgument inner state (first :: lexemes) =
      some ({ state with positional := argument :: state.positional }, rest) := by
  have differs : ∀ mark : Lexeme, mark.startsPrimary = false → first ≠ mark := by
    rintro mark noStart rfl
    rw [starts] at noStart
    cases noStart
  have named : namedExpression inner (first :: lexemes) = some (argument, rest) :=
    (namedExpression_of_expression noWalrus).trans read
  have plain : (do
      require state.named.isEmpty
      let value ← namedExpression inner
      return { state with positional := value :: state.positional } : Reader ArgumentState)
        (first :: lexemes) =
      some ({ state with positional := argument :: state.positional }, rest) := by
    rw [unnamed]
    change ((namedExpression inner (first :: lexemes)).bind fun found => _) = _
    rw [named]
    rfl
  unfold readArgument
  simp only [bind_apply, acceptSymbol,
    accept_cons_of_ne (differs (.symbol (.operator .power)) rfl),
    accept_cons_of_ne (differs (.symbol (.operator .multiply)) rfl), Option.bind_some,
    Bool.false_eq_true, ↓reduceIte, peek_apply, peekSecond_apply, List.head?_cons,
    List.drop_succ_cons, List.drop_zero]
  generalize lexemes.head? = second at noName
  cases first with
  | name identifier =>
      rcases second with _ | second
      · exact plain
      cases second with
      | symbol symbol =>
          cases symbol with
          | equal => exact (noName rfl).elim
          | _ => exact plain
      | _ => exact plain
  | _ => exact plain

/-- Two arguments without names. -/
theorem callArguments_pair {second : Lexeme} {others : List Lexeme} {other : Expr}
    (starts : startsExpression first = true) (startsOther : second.startsPrimary = true)
    (noWalrus : lexemes.head? ≠ some (.symbol .walrus))
    (noName : lexemes.head? ≠ some (.symbol .equal))
    (noOtherWalrus : others.head? ≠ some (.symbol .walrus))
    (noOtherName : others.head? ≠ some (.symbol .equal))
    (read : inner.expression (first :: lexemes) =
      some (argument, .symbol .comma :: second :: others))
    (readOther : inner.expression (second :: others) = some (other, .symbol .rightParen :: rest)) :
    callArguments inner (first :: lexemes) = some (([argument, other], []), rest) := by
  have noClause : clauseFollows (.symbol .comma :: second :: others) =
      some (false, .symbol .comma :: second :: others) := rfl
  have named : namedExpression inner (first :: lexemes) = inner.expression (first :: lexemes) :=
    namedExpression_of_expression noWalrus
  have taken : readArgument inner ⟨[argument], [], false, false⟩ (second :: others) =
      some (⟨[other, argument], [], false, false⟩, .symbol .rightParen :: rest) :=
    readArgument_unnamed startsOther noOtherWalrus noOtherName rfl readOther
  have more : readArguments inner ⟨[argument], [], false, false⟩ (second :: others) =
      some (([argument, other], []), rest) := by
    have notLast : (some second == some (Lexeme.symbol .rightParen)) = false := by
      rw [beq_eq_false_iff_ne]
      intro same
      cases Option.some.inj same
      cases startsOther
    have noComma : accept (.symbol .comma) (.symbol .rightParen :: rest) =
        some (false, .symbol .rightParen :: rest) := accept_cons_of_ne (by decide)
    unfold readArguments
    rw [bind_apply, repeatFrom_of_step ⟨[other, argument], [], false, true⟩
      (.symbol .rightParen :: rest) (List.cons_ne_nil _ _)]
    · rfl
    · simp only [bind_apply, nextIs_apply, List.head?_cons, notLast, Option.bind_some,
        Bool.false_eq_true, ↓reduceIte, taken, acceptSymbol, noComma, Bool.not_false, pure_apply]
    · rfl
  rw [callArguments_eq noName]
  unfold argumentsBehind
  simp only [bind_apply, peek_apply, List.head?_cons, Option.bind_some, Option.any_some, starts,
    Bool.not_true, Bool.or_self, Bool.false_eq_true, ↓reduceIte, named, read, noClause,
    acceptSymbol, accept_cons_self, more]

theorem trailStep_call {positional : List Expr} {named : List NamedArgument}
    (read : callArguments inner lexemes = some ((positional, named), rest)) :
    trailStep inner value (.symbol .leftParen :: lexemes) =
      some (some (.call value positional named), rest) := by
  unfold trailStep
  simp only [bind_apply, acceptSymbol, accept_cons_self,
    accept_cons_of_ne (show Lexeme.symbol .leftParen ≠ .symbol .dot by decide), Option.bind_some,
    Bool.false_eq_true, ↓reduceIte, read, pure_apply]

/-- An element of a value whose key is a text. -/
theorem trailStep_subscript {key : Text} (starts : first.startsPrimary = true)
    (noWalrus : lexemes.head? ≠ some (.symbol .walrus))
    (read : inner.expression (first :: lexemes) =
      some (.constant (.text key), .symbol .rightBracket :: rest)) :
    trailStep inner value (.symbol .leftBracket :: first :: lexemes) =
      some (some (.subscript value (.constant (.text key))), rest) := by
  have differs : ∀ other : Lexeme, other.startsPrimary = false → first ≠ other := by
    rintro other noStart rfl
    rw [starts] at noStart
    cases noStart
  have plain : walrusFollows (first :: lexemes) = some (false, first :: lexemes) :=
    walrusFollows_of_head noWalrus
  have item : sliceItem inner (first :: lexemes) =
      some (.constant (.text key), .symbol .rightBracket :: rest) := by
    unfold sliceItem
    simp only [bind_apply, acceptSymbol,
      accept_cons_of_ne (differs (.symbol (.operator .multiply)) rfl),
      accept_cons_of_ne (differs (.symbol .colon) rfl), Option.bind_some, Bool.false_eq_true,
      ↓reduceIte, plain, namedExpression_of_expression noWalrus, read, nextIs_apply]
    rfl
  have index : slices inner (first :: lexemes) =
      some (.constant (.text key), .symbol .rightBracket :: rest) := by
    unfold slices
    rw [bind_apply, items_single item (by decide)]
    rfl
  unfold trailStep
  simp only [bind_apply, acceptSymbol, accept_cons_self,
    accept_cons_of_ne (show Lexeme.symbol .leftBracket ≠ .symbol .dot by decide),
    accept_cons_of_ne (show Lexeme.symbol .leftBracket ≠ .symbol .leftParen by decide),
    Option.bind_some, Bool.false_eq_true, ↓reduceIte, index, expectSymbol, expect_cons_self,
    pure_apply]

end

end Stencil.Script
