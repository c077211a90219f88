import Stencil.Script.Grammar.Pattern

/-! # Reading statements

A simple statement ends with its line or at a semicolon. A compound statement
has blocks, each of which is either the rest of the line or the deeper lines
below it. The words `match` and `case` are names everywhere else, so a line that
begins with the first is read as a choice by shape only when it opens one.
-/

namespace Stencil.Script

open Reader

/-- The value of an assignment. -/
def assignedValue (inner : Inner) : Reader Expr := do
  if ← nextIs (.keyword .yieldWord) then yieldExpression inner else starExpressions inner

/-- The rest of a hinted assignment, behind its target. -/
def hintedRest (inner : Inner) (target : Target) (isSimple : Bool) : Reader Stmt := do
  expectSymbol .colon
  let hint ← inner.expression
  let value ← if ← acceptSymbol .equal then some <$> assignedValue inner else pure none
  return .hinted target isSimple hint value

/-- The targets of an assignment behind the first, last one first, and its value. -/
def assignmentRest (inner : Inner) (first : Expr) : Reader Stmt := do
  let step (found : List Expr × Bool) : Reader (Option (List Expr × Bool)) := do
    let (values, isEnded) := found
    if isEnded then return none
    if ← acceptSymbol .equal then
      if ← nextIs (.keyword .yieldWord) then
        return some ((← yieldExpression inner) :: values, true)
      else return some ((← starExpressions inner) :: values, false)
    else return none
  match ← repeatFrom step ([first], false) with
  | ([], _) => refuse
  | ([single], _) => return .expression single
  | (value :: targets, _) => do
      let targets ← ofOption (targetsOf? targets.reverse)
      return .assign targets value

/-- An assignment or an expression. -/
def assignmentOrExpression (inner : Inner) : Reader Stmt := do
  match ← peek, ← peekSecond with
  | some (.name _), some (.symbol .colon) => do
      let name ← expectName
      hintedRest inner (.name name) true
  | some (.keyword .yieldWord), _ => return .expression (← yieldExpression inner)
  | _, _ => do
      let first ← starExpressions inner
      match ← peek with
      | some (.symbol .colon) => do
          let target ← ofOption first.toTarget?
          require target.isSingle
          hintedRest inner target false
      | some (.symbol (.augmented operator)) => do
          let target ← ofOption first.toTarget?
          require target.isSingle
          expectSymbol (.augmented operator)
          return .augment target operator (← assignedValue inner)
      | _ => assignmentRest inner first

/-- A row of names. -/
def nameList : Reader (List Name) := do
  let step (found : List Name) : Reader (Option (List Name)) := do
    if ← acceptSymbol .comma then return some ((← expectName) :: found) else return none
  return (← repeatFrom step [← expectName]).reverse

/-- Names with dots between them. -/
def dottedName : Reader (List Name) := do
  let step (found : List Name) : Reader (Option (List Name)) := do
    if ← acceptSymbol .dot then return some ((← expectName) :: found) else return none
  return (← repeatFrom step [← expectName]).reverse

/-- The name given to something imported. -/
def givenName : Reader (Option Name) := do
  if ← acceptKeyword .asWord then some <$> expectName else return none

/-- Imported modules, behind the keyword. -/
def importedModules : Reader Stmt := do
  let item : Reader Alias := do
    let path ← dottedName
    return ⟨path, ← givenName⟩
  let step (found : List Alias) : Reader (Option (List Alias)) := do
    if ← acceptSymbol .comma then return some ((← item) :: found) else return none
  return .importModules (← repeatFrom step [← item]).reverse

/-- A lexeme that is a name. -/
def isNameLexeme : Lexeme → Bool
  | .name _ => true
  | _ => false

/-- Names imported from a module, behind the keyword. -/
def importedNames : Reader Stmt := do
  let countDots (found : Nat) : Reader (Option Nat) := do
    if ← acceptSymbol .dot then return some (found + 1)
    else if ← acceptSymbol .ellipsis then return some (found + 3)
    else return none
  let dots ← repeatFrom countDots 0
  let path ← if dots = 0 then dottedName
    else if (← peek).any isNameLexeme then dottedName
    else pure []
  expectKeyword .importWord
  let item : Reader Alias := do
    let name ← expectName
    return ⟨[name], ← givenName⟩
  if ← acceptSymbol (.operator .multiply) then return .importAll dots path
  else if ← acceptSymbol .leftParen then
    let (aliases, _) ← items item isNameLexeme
    expectSymbol .rightParen
    return .importNames dots path aliases
  else
    let step (found : List Alias) : Reader (Option (List Alias)) := do
      if ← acceptSymbol .comma then return some ((← item) :: found) else return none
    return .importNames dots path (← repeatFrom step [← item]).reverse

/-- Targets to delete, behind the keyword. -/
def deletedTargets (inner : Inner) : Reader Stmt := do
  let (found, _) ← items inner.primary startsExpression
  let targets ← ofOption (targetsOf? found)
  require (allUnstarred targets)
  return .delete targets

/-- An exception to raise, behind the keyword. -/
def raisedException (inner : Inner) : Reader Stmt := do
  if (← peek).any startsExpression then
    let exception ← inner.expression
    if ← acceptKeyword .fromWord then
      return .raise (some exception) (some (← inner.expression))
    else return .raise (some exception) none
  else return .raise none none

/-- A test that has to hold, behind the keyword. -/
def assertedTest (inner : Inner) : Reader Stmt := do
  let test ← inner.expression
  if ← acceptSymbol .comma then return .assert test (some (← inner.expression))
  else return .assert test none

/-- A statement without blocks. -/
def simpleStatement (inner : Inner) : Reader Stmt := do
  if ← acceptKeyword .passWord then return .pass
  else if ← acceptKeyword .breakWord then return .breakLoop
  else if ← acceptKeyword .continueWord then return .continueLoop
  else if ← acceptKeyword .returnWord then
    if (← peek).any startsItem then return .returnValue (some (← starExpressions inner))
    else return .returnValue none
  else if ← acceptKeyword .raiseWord then raisedException inner
  else if ← acceptKeyword .globalWord then return .globalNames (← nameList)
  else if ← acceptKeyword .nonlocalWord then return .nonlocalNames (← nameList)
  else if ← acceptKeyword .delWord then deletedTargets inner
  else if ← acceptKeyword .assertWord then assertedTest inner
  else if ← acceptKeyword .importWord then importedModules
  else if ← acceptKeyword .fromWord then importedNames
  else assignmentOrExpression inner

/-- The simple statements of one line. -/
def simpleStatements (inner : Inner) : Reader (List Stmt) := do
  let step (found : List Stmt × Bool) : Reader (Option (List Stmt × Bool)) := do
    let (statements, isEnded) := found
    if isEnded then return none
    if ← accept .lineEnd then return some (statements, true)
    expectSymbol .semicolon
    if ← accept .lineEnd then return some (statements, true)
    return some ((← simpleStatement inner) :: statements, false)
  let (statements, _) ← repeatFrom step ([← simpleStatement inner], false)
  return statements.reverse

/-- A block: the rest of the line, or the deeper lines below it. -/
def block (inner : Inner) : Reader (List Stmt) := do
  if ← accept .lineEnd then
    expect .indent
    let body ← inner.statements
    expect .dedent
    return body
  else simpleStatements inner

/-- A block behind its colon. -/
def colonBlock (inner : Inner) : Reader (List Stmt) := do
  expectSymbol .colon
  block inner

/-- The block behind `else`, if there is one. -/
def elseBlock (inner : Inner) : Reader (List Stmt) := do
  if ← acceptKeyword .elseWord then colonBlock inner else return []

/-- A choice by tests, behind its keyword. Further tests nest in the last block. -/
def ifStatement (inner : Inner) : Reader Stmt := do
  let branch : Reader (Expr × List Stmt) := do
    let test ← namedExpression inner
    return (test, ← colonBlock inner)
  let step (found : List (Expr × List Stmt)) : Reader (Option (List (Expr × List Stmt))) := do
    if ← acceptKeyword .elifWord then return some ((← branch) :: found) else return none
  let branches ← repeatFrom step [← branch]
  let otherwise ← elseBlock inner
  match branches with
  | [] => refuse
  | (test, body) :: earlier =>
      return earlier.foldl
        (fun statement (test, body) => .ifBlock test body [statement])
        (.ifBlock test body otherwise)

/-- A loop by a test, behind its keyword. -/
def whileStatement (inner : Inner) : Reader Stmt := do
  let test ← namedExpression inner
  let body ← colonBlock inner
  return .whileLoop test body (← elseBlock inner)

/-- A loop over elements, behind its keyword. -/
def forStatement (inner : Inner) (isAsync : Bool) : Reader Stmt := do
  let target ← starTargets inner.primary
  expectKeyword .inWord
  let source ← starExpressions inner
  let body ← colonBlock inner
  return .forLoop isAsync target source body (← elseBlock inner)

/-- One entered context. -/
def withItem (inner : Inner) : Reader WithItem := do
  let context ← inner.expression
  if ← acceptKeyword .asWord then
    let target ← starTarget inner.primary
    match ← peek with
    | some (.symbol .comma) | some (.symbol .rightParen) | some (.symbol .colon) =>
        return .mk context (some target)
    | _ => refuse
  else return .mk context none

/-- Entered contexts in parentheses, with the colon behind them. -/
def parenthesizedItems (inner : Inner) : Reader (List WithItem) := do
  expectSymbol .leftParen
  let (found, _) ← items (withItem inner) startsExpression
  expectSymbol .rightParen
  expectSymbol .colon
  return found

/-- Entered contexts without parentheses of their own, with the colon behind them. -/
def plainItems (inner : Inner) : Reader (List WithItem) := do
  let step (found : List WithItem) : Reader (Option (List WithItem)) := do
    if ← acceptSymbol .comma then return some ((← withItem inner) :: found) else return none
  let found ← repeatFrom step [← withItem inner]
  expectSymbol .colon
  return found.reverse

/-- The first of two readers that does not refuse. -/
def Reader.orElse {α : Type} (first second : Reader α) : Reader α := fun rest =>
  match first rest with
  | some found => some found
  | none => second rest

/-- A block inside entered contexts, behind its keyword. Parentheses are those of
the contexts when they can be. -/
def withStatement (inner : Inner) (isAsync : Bool) : Reader Stmt := do
  let found ← Reader.orElse (parenthesizedItems inner) (plainItems inner)
  return .withBlock isAsync found (← block inner)

/-- The handlers of a block as far as they have been read. -/
structure HandlerState where
  /-- The handlers, last one first. -/
  reversed : List Handler
  /-- Whether they handle groups, once the first one was read. -/
  isGroup : Option Bool

/-- One more handler, if one follows; all handlers are of one kind. -/
def readHandler (inner : Inner) (state : HandlerState) : Reader (Option HandlerState) := do
  if ← acceptKeyword .exceptWord then
    let isGroup ← acceptSymbol (.operator .multiply)
    require (state.isGroup.all (· = isGroup))
    let kind ←
      if (← nextIs (.symbol .colon)) && !isGroup then pure none
      else some <$> inner.expression
    let name ← if kind.isSome then givenName else pure none
    let body ← colonBlock inner
    return some ⟨.mk kind name body :: state.reversed, some isGroup⟩
  else return none

/-- A block with handlers, behind its keyword. -/
def tryStatement (inner : Inner) : Reader Stmt := do
  let body ← colonBlock inner
  let state ← repeatFrom (readHandler inner) ⟨[], none⟩
  let otherwise ← if state.reversed.isEmpty then pure [] else elseBlock inner
  let hasFinally ← acceptKeyword .finallyWord
  let always ← if hasFinally then colonBlock inner else pure []
  require (hasFinally || !state.reversed.isEmpty)
  return .tryBlock (state.isGroup.getD false) body state.reversed.reverse otherwise always

/-- The head of a choice by shape, up to its first case, which is left where it is. -/
def matchHead (inner : Inner) : Reader Expr := do
  expect (.name (text "match"))
  let first ← starNamedExpression inner
  let subject ←
    match ← moreItems (starNamedExpression inner) startsItem first with
    | ([.starred _], false) => refuse
    | found => pure (tupleOrSingle found)
  expectSymbol .colon
  expect .lineEnd
  expect .indent
  require (← nextIs (.name (text "case")))
  return subject

/-- One more case, if one follows. -/
def readCase (inner : Inner) (found : List MatchCase) : Reader (Option (List MatchCase)) := do
  if ← accept (.name (text "case")) then
    let pattern ← casePattern inner
    let guard ←
      if ← acceptKeyword .ifWord then some <$> namedExpression inner else pure none
    return some (.mk pattern guard (← colonBlock inner) :: found)
  else return none

/-- The cases of a choice by shape, and the end of its block. -/
def matchRest (inner : Inner) (subject : Expr) : Reader Stmt := do
  let cases ← repeatFrom (readCase inner) []
  expect .dedent
  return .matchBlock subject cases.reverse

/-- A choice by shape where a line opens one, and simple statements elsewhere. -/
def matchOrSimple (inner : Inner) : Reader (List Stmt) := fun rest =>
  match matchHead inner rest with
  | some (subject, rest) => (matchRest inner subject rest).map fun found => ([found.1], found.2)
  | none => simpleStatements inner rest

/-- The definition of a function, behind its keyword. -/
def functionStatement (inner : Inner) (isAsync : Bool) (decorators : List Expr) :
    Reader Stmt := do
  let name ← expectName
  expectSymbol .leftParen
  let parameters ← readParameters inner true .rightParen
  expectSymbol .rightParen
  let hint ← if ← acceptSymbol .arrow then some <$> inner.expression else pure none
  return .functionDef isAsync name parameters hint decorators (← colonBlock inner)

/-- The definition of a class, behind its keyword. -/
def classStatement (inner : Inner) (decorators : List Expr) : Reader Stmt := do
  let name ← expectName
  let (bases, named) ←
    if ← acceptSymbol .leftParen then readArguments inner .start else pure ([], [])
  return .classDef name bases named decorators (← colonBlock inner)

/-- Decorators, each on a line of its own. -/
def readDecorators (inner : Inner) : Reader (List Expr) := do
  let step (found : List Expr) : Reader (Option (List Expr)) := do
    if ← acceptSymbol (.operator .matrixMultiply) then
      let decorator ← namedExpression inner
      expect .lineEnd
      return some (decorator :: found)
    else return none
  return (← repeatFrom step []).reverse

/-- A definition with its decorators. -/
def definition (inner : Inner) : Reader Stmt := do
  let decorators ← readDecorators inner
  if ← acceptKeyword .classWord then classStatement inner decorators
  else
    let isAsync ← acceptKeyword .asyncWord
    expectKeyword .defWord
    functionStatement inner isAsync decorators

/-- A statement that begins with `async`. -/
def asyncStatement (inner : Inner) : Reader Stmt := do
  expectKeyword .asyncWord
  if ← acceptKeyword .forWord then forStatement inner true
  else if ← acceptKeyword .withWord then withStatement inner true
  else
    expectKeyword .defWord
    functionStatement inner true []

/-- One compound statement, or the simple statements of one line. -/
def statement (inner : Inner) : Reader (List Stmt) := do
  let one (reader : Reader Stmt) : Reader (List Stmt) := do return [← reader]
  match ← peek with
  | some (.keyword .ifWord) => do
      expectKeyword .ifWord
      one (ifStatement inner)
  | some (.keyword .whileWord) => do
      expectKeyword .whileWord
      one (whileStatement inner)
  | some (.keyword .forWord) => do
      expectKeyword .forWord
      one (forStatement inner false)
  | some (.keyword .withWord) => do
      expectKeyword .withWord
      one (withStatement inner false)
  | some (.keyword .tryWord) => do
      expectKeyword .tryWord
      one (tryStatement inner)
  | some (.keyword .asyncWord) => one (asyncStatement inner)
  | some (.keyword .defWord) | some (.keyword .classWord) |
    some (.symbol (.operator .matrixMultiply)) => one (definition inner)
  | some (.name _) => matchOrSimple inner
  | _ => simpleStatements inner

/-- The statements up to the end of their block, at least one. -/
def statements (inner : Inner) : Reader (List Stmt) := do
  let step (found : List (List Stmt)) : Reader (Option (List (List Stmt))) := do
    match ← peek with
    | none | some .dedent => return none
    | some _ => return some ((← statement inner) :: found)
  return (← repeatFrom step [← statement inner]).reverse.flatten

/-- The readers for parts that are nested at most so deep. -/
def Inner.ofDepth : Nat → Inner
  | 0 => Inner.refusing
  | depth + 1 =>
      { expression := fun rest => Degree.expression (ofDepth depth) rest
        disjunction := fun rest => Degree.disjunction (ofDepth depth) rest
        inversion := fun rest => Degree.inversion (ofDepth depth) rest
        bitOr := fun rest => Degree.bitOr (ofDepth depth) rest
        factor := fun rest => Degree.factor (ofDepth depth) rest
        primary := fun rest => Degree.primary (ofDepth depth) rest
        pattern := fun rest => readPattern (ofDepth depth) rest
        statements := fun rest => Stencil.Script.statements (ofDepth depth) rest }

/-- The program that a list of lexemes spells, when nothing is nested deeper than a bound. -/
def programOf? (depth : Nat) (found : List Lexeme) : Option Program :=
  if found.isEmpty then some []
  else
    match Stencil.Script.statements (Inner.ofDepth depth) found with
    | some (program, []) => some program
    | _ => none

/-- The program that a text spells; `none` when it spells none. Whatever is nested
takes up at least one code point, so the length of the text bounds its depth. -/
def parse? (source : Text) : Option Program := do
  programOf? (source.length + 4) (← lexemes source)

end Stencil.Script
