import Stencil.Script.Grammar.Basic
import Stencil.Script.Lexeme.Scan
import Stencil.Script.Literal.Format

/-! # Reading expressions

Operators bind in fourteen degrees. Each degree is a reader over the readers of
the next one, and whatever stands in brackets, behind an operator of the same
degree or in a string with expressions is read by the readers for nested parts.
-/

namespace Stencil.Script

open Reader

/-- Whether an assignment that is an expression comes next, without parentheses around it. -/
def walrusFollows : Reader Bool := do
  match ← peek, ← peekSecond with
  | some (.name _), some (.symbol .walrus) => return true
  | _, _ => return false

/-- An expression, or an assignment to a name that is an expression. -/
def namedExpression (inner : Inner) : Reader Expr := do
  if ← walrusFollows then
    let identifier ← expectName
    expectSymbol .walrus
    return .walrus identifier (← inner.expression)
  else inner.expression

/-- An item that may be starred, and a walrus where it is not. -/
def starNamedExpression (inner : Inner) : Reader Expr := do
  if ← acceptSymbol (.operator .multiply) then return .starred (← inner.bitOr)
  else namedExpression inner

/-- An item that may be starred. -/
def starExpression (inner : Inner) : Reader Expr := do
  if ← acceptSymbol (.operator .multiply) then return .starred (← inner.bitOr)
  else inner.expression

/-- Several items make a tuple, and so does one with a comma behind it. -/
def tupleOrSingle (found : List Expr × Bool) : Expr :=
  match found with
  | ([single], false) => single
  | (items, _) => .tuple items

/-- Items that may be starred, without brackets around them. -/
def starExpressions (inner : Inner) : Reader Expr := do
  return tupleOrSingle (← items (starExpression inner) startsItem)

/-- A value handed to the caller of a generator. -/
def yieldExpression (inner : Inner) : Reader Expr := do
  expectKeyword .yieldWord
  if ← acceptKeyword .fromWord then return .yieldFrom (← inner.expression)
  else if (← peek).any startsItem then return .yield (some (← starExpressions inner))
  else return .yield none

/-- Parameters as far as they have been read. -/
structure ParameterState where
  /-- The parameters read, last one first. -/
  reversed : List Parameter
  /-- Parameters from here on are found by name only. -/
  isNamed : Bool
  hasDefault : Bool
  /-- The mark behind parameters found by position only was read. -/
  hasSlash : Bool
  /-- A bare star still lacks a parameter behind it. -/
  isPending : Bool
  isComplete : Bool
  isEnded : Bool

/-- The state before the first parameter. -/
def ParameterState.start : ParameterState := ⟨[], false, false, false, false, false, false⟩

/-- A parameter found by position only, when it was an ordinary one. -/
def Parameter.byPosition : Parameter → Parameter
  | .mk .ordinary name hint standard => .mk .positionalOnly name hint standard
  | parameter => parameter

/-- A type hint behind a colon, where hints may stand. -/
def readHint (inner : Inner) (isHinted mayStar : Bool) : Reader (Option Expr) := do
  if isHinted then
    if ← acceptSymbol .colon then
      if mayStar then return some (← starExpression inner) else return some (← inner.expression)
    else return none
  else return none

/-- One more parameter, or a mark between parameters. -/
def readParameter (inner : Inner) (isHinted : Bool) (state : ParameterState) :
    Reader ParameterState := do
  if state.isComplete then refuse
  if ← acceptSymbol (.operator .divide) then
    require (!state.isNamed && !state.hasSlash && !state.reversed.isEmpty)
    return { state with reversed := state.reversed.map .byPosition, hasSlash := true }
  else if ← acceptSymbol (.operator .power) then
    require (!state.isPending)
    let name ← expectName
    let hint ← readHint inner isHinted false
    let parameter := Parameter.mk .restKeywords name hint none
    return { state with reversed := parameter :: state.reversed, isComplete := true }
  else if ← acceptSymbol (.operator .multiply) then
    require (!state.isNamed)
    if ← nextIs (.symbol .comma) then
      return { state with isNamed := true, isPending := true }
    else
      let name ← expectName
      let hint ← readHint inner isHinted true
      let parameter := Parameter.mk .rest name hint none
      return { state with reversed := parameter :: state.reversed, isNamed := true }
  else
    let name ← expectName
    let hint ← readHint inner isHinted false
    let standard ←
      if ← acceptSymbol .equal then do
        let value ← inner.expression
        pure (some value)
      else pure none
    if state.isNamed then
      let parameter := Parameter.mk .keywordOnly name hint standard
      return { state with reversed := parameter :: state.reversed, isPending := false }
    else
      require (standard.isSome || !state.hasDefault)
      let parameter := Parameter.mk .ordinary name hint standard
      return { state with
        reversed := parameter :: state.reversed
        hasDefault := standard.isSome }

/-- The parameters up to the symbol that ends them, which is left where it is. -/
def readParameters (inner : Inner) (isHinted : Bool) (ending : Symbol) :
    Reader (List Parameter) := do
  let step (state : ParameterState) : Reader (Option ParameterState) := do
    if ← nextIs (.symbol ending) then return none
    if state.isEnded then refuse
    let state ← readParameter inner isHinted state
    let hasComma ← acceptSymbol .comma
    return some { state with isEnded := !hasComma }
  let state ← repeatFrom step ParameterState.start
  require (!state.isPending)
  return state.reversed.reverse

/-- A function without a name. -/
def lambdaExpression (inner : Inner) : Reader Expr := do
  expectKeyword .lambdaWord
  let parameters ← readParameters inner false .colon
  expectSymbol .colon
  return .lambda parameters (← inner.expression)

/-- A constant of the language by its keyword. -/
def keywordConstant? : Keyword → Option Constant
  | .noneWord => some .none
  | .trueWord => some (.bool true)
  | .falseWord => some (.bool false)
  | _ => none

/-- The targets of a loop: names, attributes, elements and sequences of them. -/
def starTargets (primary : Reader Expr) : Reader Target := do
  let item : Reader Expr := do
    if ← acceptSymbol (.operator .multiply) then return .starred (← primary) else primary
  ofOption (tupleOrSingle (← items item startsItem)).toTarget?

/-- A single target that may be starred. -/
def starTarget (primary : Reader Expr) : Reader Target := do
  let item : Reader Expr := do
    if ← acceptSymbol (.operator .multiply) then return .starred (← primary) else primary
  ofOption (← item).toTarget?

/-- The clauses of a comprehension, when one follows. -/
def clauses (inner : Inner) : Reader (List Clause) := do
  let step (found : List Clause) : Reader (Option (List Clause)) := do
    let isAsync ← acceptKeyword .asyncWord
    if isAsync then expectKeyword .forWord
    else if !(← acceptKeyword .forWord) then return none
    let target ← starTargets inner.primary
    expectKeyword .inWord
    let source ← inner.disjunction
    let test (tests : List Expr) : Reader (Option (List Expr)) := do
      if ← acceptKeyword .ifWord then return some ((← inner.disjunction) :: tests)
      else return none
    let tests ← repeatFrom test []
    return some (.mk isAsync target source tests.reverse :: found)
  return (← repeatFrom step []).reverse

/-- Whether a comprehension's clause comes next. -/
def clauseFollows : Reader Bool := do
  match ← peek with
  | some (.keyword .forWord) | some (.keyword .asyncWord) => return true
  | _ => return false

/-- An item that is not starred. -/
def unstarred (item : Expr) : Reader Unit :=
  match item with
  | .starred _ => refuse
  | _ => pure ()

/-- What stands in parentheses, behind the opening one. -/
def parenthesized (inner : Inner) : Reader Expr := do
  if ← acceptSymbol .rightParen then return .tuple []
  let value ←
    if ← nextIs (.keyword .yieldWord) then yieldExpression inner
    else do
      let first ← starNamedExpression inner
      if ← clauseFollows then do
        unstarred first
        pure (.comprehension .generator first (← clauses inner))
      else
        match ← moreItems (starNamedExpression inner) startsItem first with
        | ([.starred _], false) => refuse
        | found => pure (tupleOrSingle found)
  expectSymbol .rightParen
  return value

/-- What stands in brackets, behind the opening one. -/
def bracketed (inner : Inner) : Reader Expr := do
  if ← acceptSymbol .rightBracket then return .list []
  let first ← starNamedExpression inner
  let value ←
    if ← clauseFollows then do
      unstarred first
      pure (.comprehension .list first (← clauses inner))
    else do
      let (found, _) ← moreItems (starNamedExpression inner) startsItem first
      pure (.list found)
  expectSymbol .rightBracket
  return value

/-- An entry of a dictionary. -/
def dictEntry (inner : Inner) : Reader DictEntry := do
  if ← acceptSymbol (.operator .power) then return .spread (← inner.bitOr)
  let key ← inner.expression
  expectSymbol .colon
  return .pair key (← inner.expression)

/-- A lexeme with which an entry of a dictionary can begin. -/
def startsEntry (lexeme : Lexeme) : Bool :=
  startsExpression lexeme || lexeme = .symbol (.operator .power)

/-- What stands in braces, behind the opening one. -/
def braced (inner : Inner) : Reader Expr := do
  if ← acceptSymbol .rightBrace then return .dict []
  let value ←
    if ← nextIs (.symbol (.operator .power)) then do
      let (entries, _) ← items (dictEntry inner) startsEntry
      pure (.dict entries)
    else do
      let isWalrus ← walrusFollows
      let first ← starNamedExpression inner
      let isPair ← nextIs (.symbol .colon)
      match first, isPair with
      | .starred _, true => refuse
      | _, true => do
          require !isWalrus
          expectSymbol .colon
          let second ← inner.expression
          if ← clauseFollows then
            pure (.dictComprehension first second (← clauses inner))
          else do
            let (entries, _) ← moreItems (dictEntry inner) startsEntry (.pair first second)
            pure (.dict entries)
      | _, false =>
          if ← clauseFollows then do
            unstarred first
            pure (.comprehension .set first (← clauses inner))
          else do
            let (found, _) ← moreItems (starNamedExpression inner) startsItem first
            pure (.set found)
  expectSymbol .rightBrace
  return value

/-- The expression in the braces of a string, read as if it stood in parentheses. -/
def fieldExpression (inner : Inner) (source : Text) : Option Expr := do
  let program ← lexemes (text "(" ++ source ++ text ")")
  let reader : Reader Expr := do
    expectSymbol .leftParen
    let value ← parenthesized inner
    expect .lineEnd
    return value
  let (value, rest) ← reader program
  if rest.isEmpty then return value else none

mutual

/-- The pieces of a string with its expressions read. -/
def readPiece (inner : Inner) : RawPiece → Option Piece
  | .literal value => some (.literal value)
  | .field source conversion format => do
      let value ← fieldExpression inner source
      return .value value conversion (← readPieces inner format)

/-- Several pieces with their expressions read. -/
def readPieces (inner : Inner) : List RawPiece → Option (List Piece)
  | [] => some []
  | first :: rest => do
      let piece ← readPiece inner first
      return piece :: (← readPieces inner rest)

end

/-- The pieces that one string of a row contributes. -/
def stringPieces (inner : Inner) (literal : StringLiteral) : Option (List Piece) := do
  if literal.isFormat then readPieces inner (← formatPieces literal.isRaw literal.body)
  else return [.literal (← decodeText literal.isRaw literal.body)]

/-- The text of the pieces that hold no expression. -/
def literalText (pieces : List Piece) : Text :=
  pieces.flatMap fun
    | .literal value => value
    | .value _ _ _ => []

/-- The value of a row of strings, which is one string: bytes when all of them hold
bytes, text when none does. -/
def joinStrings (inner : Inner) (strings : List StringLiteral) : Option Expr := do
  if strings.all (·.isBytes) then
    let parts ← strings.mapM fun literal => decodeBytes literal.isRaw literal.body
    return .constant (.bytes parts.flatten)
  else if strings.any (·.isBytes) then none
  else
    let pieces ← strings.mapM (stringPieces inner)
    if strings.any (·.isFormat) then return .formatted pieces.flatten
    else return .constant (.text (literalText pieces.flatten))

/-- The strings that stand in a row. -/
def stringRow : List Lexeme → List StringLiteral × List Lexeme
  | .string literal :: rest =>
      let (found, rest) := stringRow rest
      (literal :: found, rest)
  | rest => ([], rest)

/-- A name, a constant, a row of strings or something in brackets. -/
def atom (inner : Inner) : Reader Expr := do
  match ← peek with
  | some (.name _) => return .name (← expectName)
  | some (.number literal) => do
      expect (.number literal)
      return .constant (.number literal)
  | some (.string _) => do
      let (strings, rest) := stringRow (← get)
      set rest
      ofOption (joinStrings inner strings)
  | some (.keyword word) => do
      let constant ← ofOption (keywordConstant? word)
      expectKeyword word
      return .constant constant
  | some (.symbol symbol) => do
      expectSymbol symbol
      match symbol with
      | .ellipsis => return .constant .ellipsis
      | .leftParen => parenthesized inner
      | .leftBracket => bracketed inner
      | .leftBrace => braced inner
      | _ => refuse
  | _ => refuse

/-- The arguments of a call as far as they have been read. -/
structure ArgumentState where
  /-- The positional arguments, last one first. -/
  positional : List Expr
  /-- The other arguments, last one first. -/
  named : List NamedArgument
  hasSpread : Bool
  isEnded : Bool

/-- One more argument. -/
def readArgument (inner : Inner) (state : ArgumentState) : Reader ArgumentState := do
  if ← acceptSymbol (.operator .power) then
    let mapping ← inner.expression
    return { state with named := .spread mapping :: state.named, hasSpread := true }
  else if ← acceptSymbol (.operator .multiply) then
    require (!state.hasSpread)
    let source ← inner.expression
    return { state with positional := .starred source :: state.positional }
  else
    match ← peek, ← peekSecond with
    | some (.name _), some (.symbol .equal) => do
        let name ← expectName
        expectSymbol .equal
        let value ← inner.expression
        return { state with named := .named name value :: state.named }
    | _, _ => do
        require state.named.isEmpty
        let value ← namedExpression inner
        return { state with positional := value :: state.positional }

/-- The arguments up to the closing parenthesis, which is taken, given those that
have been read. -/
def readArguments (inner : Inner) (start : ArgumentState) :
    Reader (List Expr × List NamedArgument) := do
  let step (state : ArgumentState) : Reader (Option ArgumentState) := do
    if ← nextIs (.symbol .rightParen) then return none
    if state.isEnded then refuse
    let state ← readArgument inner state
    let hasComma ← acceptSymbol .comma
    return some { state with isEnded := !hasComma }
  let state ← repeatFrom step start
  expectSymbol .rightParen
  return (state.positional.reverse, state.named.reverse)

/-- The state before the first argument. -/
def ArgumentState.start : ArgumentState := ⟨[], [], false, false⟩

/-- The arguments of a call, behind the opening parenthesis: a single comprehension
needs no parentheses of its own. -/
def callArguments (inner : Inner) : Reader (List Expr × List NamedArgument) := do
  let isNamed ←
    match ← peek, ← peekSecond with
    | some (.name _), some (.symbol .equal) => pure true
    | _, _ => pure false
  if isNamed || !(← peek).any startsExpression then readArguments inner .start
  else
    let first ← namedExpression inner
    if ← clauseFollows then
      let found ← clauses inner
      expectSymbol .rightParen
      return ([.comprehension .generator first found], [])
    else
      let hasComma ← acceptSymbol .comma
      readArguments inner ⟨[first], [], false, !hasComma⟩

/-- A bound of a range of indices, if one stands here. -/
def sliceBound (inner : Inner) : Reader (Option Expr) := do
  if (← peek).any startsExpression then return some (← inner.expression) else return none

/-- The rest of a range of indices, behind its first colon. -/
def sliceRest (inner : Inner) (lower : Option Expr) : Reader Expr := do
  let upper ← sliceBound inner
  let step ← if ← acceptSymbol .colon then sliceBound inner else pure none
  return .slice lower upper step

/-- One index, one range of indices, or a starred item. -/
def sliceItem (inner : Inner) : Reader Expr := do
  if ← acceptSymbol (.operator .multiply) then return .starred (← inner.expression)
  if ← acceptSymbol .colon then return ← sliceRest inner none
  let isWalrus ← walrusFollows
  let value ← namedExpression inner
  if ← nextIs (.symbol .colon) then
    require !isWalrus
    expectSymbol .colon
    sliceRest inner (some value)
  else return value

/-- A lexeme with which an item between brackets behind a value can begin. -/
def startsSlice (lexeme : Lexeme) : Bool := startsItem lexeme || lexeme = .symbol .colon

/-- What stands in brackets behind a value. -/
def slices (inner : Inner) : Reader Expr := do
  match ← items (sliceItem inner) startsSlice with
  | ([.starred value], _) => return .tuple [.starred value]
  | found => return tupleOrSingle found

/-- Calls, elements and attributes of a value. -/
def trailers (inner : Inner) (first : Expr) : Reader Expr := do
  let step (value : Expr) : Reader (Option Expr) := do
    if ← acceptSymbol .dot then return some (.attribute value (← expectName))
    else if ← acceptSymbol .leftParen then
      let (positional, named) ← callArguments inner
      return some (.call value positional named)
    else if ← acceptSymbol .leftBracket then
      let index ← slices inner
      expectSymbol .rightBracket
      return some (.subscript value index)
    else return none
  repeatFrom step first

/-- The binary operators of one degree, applied from the left. -/
def leftAssociative (operators : List BinaryOperator) (operand : Reader Expr) : Reader Expr := do
  let step (left : Expr) : Reader (Option Expr) := do
    match ← peek with
    | some (.symbol (.operator operator)) =>
        if operators.contains operator then
          expectSymbol (.operator operator)
          return some (.binary operator left (← operand))
        else return none
    | _ => return none
  repeatFrom step (← operand)

/-- The operands of one connective. -/
def connectedBy (connective : Connective) (word : Keyword) (operand : Reader Expr) :
    Reader Expr := do
  let step (found : List Expr) : Reader (Option (List Expr)) := do
    if ← acceptKeyword word then return some ((← operand) :: found) else return none
  match (← repeatFrom step [← operand]).reverse with
  | [single] => return single
  | operands => return .connected connective operands

/-- The relation that comes next, if one does. -/
def relation? : Reader (Option Relation) := do
  match ← peek, ← peekSecond with
  | some (.symbol .equalEqual), _ => take .equalEqual .equal
  | some (.symbol .notEqual), _ => take .notEqual .notEqual
  | some (.symbol .less), _ => take .less .less
  | some (.symbol .lessEqual), _ => take .lessEqual .lessEqual
  | some (.symbol .greater), _ => take .greater .greater
  | some (.symbol .greaterEqual), _ => take .greaterEqual .greaterEqual
  | some (.keyword .inWord), _ => do
      expectKeyword .inWord
      return some .within
  | some (.keyword .notWord), some (.keyword .inWord) => do
      expectKeyword .notWord
      expectKeyword .inWord
      return some .notWithin
  | some (.keyword .isWord), _ => do
      expectKeyword .isWord
      if ← acceptKeyword .notWord then return some .notSame else return some .same
  | _, _ => return none
where
  /-- A relation written with a symbol. -/
  take (symbol : Symbol) (relation : Relation) : Reader (Option Relation) := do
    expectSymbol symbol
    return some relation

/-- A chain of comparisons. -/
def comparison (operand : Reader Expr) : Reader Expr := do
  let step (found : List Relation × List Expr) : Reader (Option (List Relation × List Expr)) := do
    match ← relation? with
    | some relation => return some (relation :: found.1, (← operand) :: found.2)
    | none => return none
  let first ← operand
  match ← repeatFrom step ([], []) with
  | ([], _) => return first
  | (relations, others) => return .compared first relations.reverse others.reverse

namespace Degree

/-- Names, constants and brackets, with calls, elements and attributes. -/
def primary (inner : Inner) : Reader Expr := do
  trailers inner (← atom inner)

/-- A power, whose exponent binds from the right. -/
def power (inner : Inner) : Reader Expr := do
  let base ←
    if ← acceptKeyword .awaitWord then do
      let awaited ← primary inner
      pure (Expr.await awaited)
    else primary inner
  if ← acceptSymbol (.operator .power) then return .binary .power base (← inner.factor)
  else return base

/-- Operators with one operand. -/
def factor (inner : Inner) : Reader Expr := do
  if ← acceptSymbol (.operator .add) then return .unary .plus (← inner.factor)
  else if ← acceptSymbol (.operator .subtract) then return .unary .minus (← inner.factor)
  else if ← acceptSymbol .tilde then return .unary .invert (← inner.factor)
  else power inner

/-- Products. -/
def term (inner : Inner) : Reader Expr :=
  leftAssociative [.multiply, .divide, .floorDivide, .modulo, .matrixMultiply]
    (factor inner)

/-- Sums. -/
def sum (inner : Inner) : Reader Expr :=
  leftAssociative [.add, .subtract] (term inner)

/-- Shifts. -/
def shift (inner : Inner) : Reader Expr :=
  leftAssociative [.shiftLeft, .shiftRight] (sum inner)

/-- Conjunctions of bits. -/
def bitAnd (inner : Inner) : Reader Expr :=
  leftAssociative [.bitAnd] (shift inner)

/-- Exclusive disjunctions of bits. -/
def bitXor (inner : Inner) : Reader Expr :=
  leftAssociative [.bitXor] (bitAnd inner)

/-- Disjunctions of bits. -/
def bitOr (inner : Inner) : Reader Expr :=
  leftAssociative [.bitOr] (bitXor inner)

/-- Negations and comparisons. -/
def inversion (inner : Inner) : Reader Expr := do
  if ← acceptKeyword .notWord then return .unary .negate (← inner.inversion)
  else comparison (bitOr inner)

/-- Conjunctions. -/
def conjunction (inner : Inner) : Reader Expr :=
  connectedBy .conjunction .andWord (inversion inner)

/-- Disjunctions. -/
def disjunction (inner : Inner) : Reader Expr :=
  connectedBy .disjunction .orWord (conjunction inner)

/-- Conditionals and functions without a name. -/
def expression (inner : Inner) : Reader Expr := do
  if ← nextIs (.keyword .lambdaWord) then lambdaExpression inner
  else
    let first ← disjunction inner
    if ← acceptKeyword .ifWord then
      let test ← inner.disjunction
      expectKeyword .elseWord
      return .conditional test first (← inner.expression)
    else return first

end Degree

end Stencil.Script
