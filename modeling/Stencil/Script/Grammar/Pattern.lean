import Stencil.Script.Grammar.Expression

/-! # Reading patterns

A pattern looks like the value that it fits. A single name stands for anything
and is bound to it; a dotted name is a value to compare with.
-/

namespace Stencil.Script

open Reader

/-- The underscore, which fits anything and binds nothing. -/
def wildcardName : Name := text "_"

/-- A name that a pattern binds. -/
def captureName : Reader Name := do
  let name ← expectName
  require (name ≠ wildcardName)
  match ← peek with
  | some (.symbol .dot) | some (.symbol .leftParen) | some (.symbol .equal) => refuse
  | _ => return name

/-- A number with its sign, when it is real. -/
def realNumber? (isNegative : Bool) : NumberLiteral → Option Expr
  | .imaginary _ _ => none
  | literal =>
      let value := Expr.constant (.number literal)
      some (if isNegative then .unary .minus value else value)

/-- A number of a pattern: a sign, and an imaginary part behind a real one. -/
def patternNumber : Reader Expr := do
  let isNegative ← acceptSymbol (.operator .subtract)
  match ← peek with
  | some (.number literal) => do
      expect (.number literal)
      let part (operator : BinaryOperator) : Reader Expr := do
        expectSymbol (.operator operator)
        match ← peek with
        | some (.number (.imaginary mantissa exponent)) => do
            expect (.number (.imaginary mantissa exponent))
            let real ← ofOption (realNumber? isNegative literal)
            return .binary operator real (.constant (.number (.imaginary mantissa exponent)))
        | _ => refuse
      match ← peek with
      | some (.symbol (.operator .add)) => part .add
      | some (.symbol (.operator .subtract)) => part .subtract
      | _ =>
          let value := Expr.constant (.number literal)
          return if isNegative then .unary .minus value else value
  | _ => refuse

/-- A literal of a pattern: a number, a row of strings or a keyword for a value. -/
def patternLiteral (inner : Inner) : Reader Expr := do
  match ← peek with
  | some (.string _) => atom inner
  | some (.keyword word) => do
      let constant ← ofOption (keywordConstant? word)
      expectKeyword word
      return .constant constant
  | _ => patternNumber

/-- A lexeme with which a literal of a pattern can begin. -/
def startsPatternLiteral : Lexeme → Bool
  | .number _ | .string _ => true
  | .keyword word => (keywordConstant? word).isSome
  | .symbol symbol => symbol = .operator .subtract
  | _ => false

/-- A value of which there is one only is compared by identity. -/
def literalPattern : Expr → Pattern
  | .constant .none => .singleton .none
  | .constant (.bool value) => .singleton (.bool value)
  | expression => .value expression

/-- A dotted name, and whether it has a dot. -/
def dottedExpression : Reader (Expr × Bool) := do
  let first ← expectName
  let step (found : Expr × Bool) : Reader (Option (Expr × Bool)) := do
    if ← acceptSymbol .dot then return some (.attribute found.1 (← expectName), true)
    else return none
  repeatFrom step (.name first, false)

/-- An item of a sequence pattern. -/
def sequenceItem (inner : Inner) : Reader Pattern := do
  if ← acceptSymbol (.operator .multiply) then
    if ← accept (.name wildcardName) then return .starred none
    else return .starred (some (← captureName))
  else inner.pattern

/-- A lexeme with which a pattern can begin. -/
def startsPattern : Lexeme → Bool
  | .name _ => true
  | .symbol .leftParen | .symbol .leftBracket | .symbol .leftBrace => true
  | lexeme => startsPatternLiteral lexeme

/-- A lexeme with which an item of a sequence pattern can begin. -/
def startsSequenceItem (lexeme : Lexeme) : Bool := startsPattern lexeme || isStar lexeme

/-- A pattern in parentheses, or a sequence pattern, behind the opening one. -/
def groupedPattern (inner : Inner) : Reader Pattern := do
  if ← acceptSymbol .rightParen then return .sequence []
  let found ← items (sequenceItem inner) startsSequenceItem
  expectSymbol .rightParen
  match found with
  | ([.starred _], false) => refuse
  | ([single], false) => return single
  | (patterns, _) => return .sequence patterns

/-- A sequence pattern, behind the opening bracket. -/
def listPattern (inner : Inner) : Reader Pattern := do
  if ← acceptSymbol .rightBracket then return .sequence []
  let (patterns, _) ← items (sequenceItem inner) startsSequenceItem
  expectSymbol .rightBracket
  return .sequence patterns

/-- The entries of a mapping pattern as far as they have been read. -/
structure MappingState where
  /-- The keys, last one first. -/
  keys : List Expr
  /-- The patterns of the values, last one first. -/
  patterns : List Pattern
  rest : Option Name
  isEnded : Bool

/-- A key of a mapping pattern. -/
def mappingKey (inner : Inner) : Reader Expr := do
  if (← peek).any startsPatternLiteral then patternLiteral inner
  else
    let (key, isDotted) ← dottedExpression
    require isDotted
    return key

/-- A mapping pattern, behind the opening brace. -/
def mappingPattern (inner : Inner) : Reader Pattern := do
  let step (state : MappingState) : Reader (Option MappingState) := do
    if ← acceptSymbol .rightBrace then return none
    if state.isEnded || state.rest.isSome then refuse
    if ← acceptSymbol (.operator .power) then
      let rest ← captureName
      let hasComma ← acceptSymbol .comma
      return some { state with rest := some rest, isEnded := !hasComma }
    else
      let key ← mappingKey inner
      expectSymbol .colon
      let pattern ← inner.pattern
      let hasComma ← acceptSymbol .comma
      return some { state with
        keys := key :: state.keys
        patterns := pattern :: state.patterns
        isEnded := !hasComma }
  let state ← repeatFrom step ⟨[], [], none, false⟩
  return .mapping state.keys.reverse state.patterns.reverse state.rest

/-- The patterns in the parentheses of a class pattern as far as they have been read. -/
structure ClassState where
  /-- The positional patterns, last one first. -/
  positional : List Pattern
  /-- The names of the other patterns, last one first. -/
  fields : List Name
  /-- The named patterns, last one first. -/
  named : List Pattern
  isEnded : Bool

/-- A class pattern, behind the opening parenthesis. -/
def classPattern (inner : Inner) (cls : Expr) : Reader Pattern := do
  let step (state : ClassState) : Reader (Option ClassState) := do
    if ← acceptSymbol .rightParen then return none
    if state.isEnded then refuse
    match ← peek, ← peekSecond with
    | some (.name word), some (.symbol .equal) => do
        -- Behind positional patterns the wildcard is taken for one more of them.
        require (word != wildcardName || state.positional.isEmpty || !state.named.isEmpty)
        let field ← expectName
        expectSymbol .equal
        let pattern ← inner.pattern
        let hasComma ← acceptSymbol .comma
        return some { state with
          fields := field :: state.fields
          named := pattern :: state.named
          isEnded := !hasComma }
    | _, _ => do
        require state.named.isEmpty
        let pattern ← inner.pattern
        let hasComma ← acceptSymbol .comma
        return some { state with
          positional := pattern :: state.positional
          isEnded := !hasComma }
  let state ← repeatFrom step ⟨[], [], [], false⟩
  return .ofClass cls state.positional.reverse state.fields.reverse state.named.reverse

/-- A pattern without alternatives. -/
def closedPattern (inner : Inner) : Reader Pattern := do
  match ← peek with
  | some (.name word) => do
      if word = wildcardName then
        let _ ← expectName
        return .capture none
      let (expression, isDotted) ← dottedExpression
      if ← acceptSymbol .leftParen then classPattern inner expression
      else
        require (!(← nextIs (.symbol .equal)))
        return if isDotted then .value expression else .capture (some word.spelledName)
  | some (.symbol .leftParen) => do
      expectSymbol .leftParen
      groupedPattern inner
  | some (.symbol .leftBracket) => do
      expectSymbol .leftBracket
      listPattern inner
  | some (.symbol .leftBrace) => do
      expectSymbol .leftBrace
      mappingPattern inner
  | _ => return literalPattern (← patternLiteral inner)

/-- A pattern with its alternatives, perhaps bound to a name. -/
def readPattern (inner : Inner) : Reader Pattern := do
  let step (found : List Pattern) : Reader (Option (List Pattern)) := do
    if ← acceptSymbol (.operator .bitOr) then return some ((← closedPattern inner) :: found)
    else return none
  let pattern ←
    match (← repeatFrom step [← closedPattern inner]).reverse with
    | [single] => pure single
    | patterns => pure (.alternatives patterns)
  if ← acceptKeyword .asWord then return .bound pattern (← captureName) else return pattern

/-- The pattern of a case: several patterns with commas between them make a sequence. -/
def casePattern (inner : Inner) : Reader Pattern := do
  match ← items (sequenceItem inner) startsSequenceItem with
  | ([.starred _], false) => refuse
  | ([single], false) => return single
  | (patterns, _) => return .sequence patterns

end Stencil.Script
