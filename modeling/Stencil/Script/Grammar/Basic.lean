import Stencil.Script.Syntax
import Stencil.Text.Compatibility

/-! # Reading trees from lexemes

A reader takes lexemes from the start of a list and answers with what they mean
and the lexemes that are left, or refuses. Readers are total: what they need for
nested parts they get from outside (`Stencil.Script.Inner`), and a repetition is
bounded by the number of lexemes that are left.
-/

namespace Stencil.Script

/-- A reader takes lexemes from the front and answers, or refuses. -/
abbrev Reader (α : Type) := StateT (List Lexeme) Option α

namespace Reader

variable {α β : Type}

/-- The reader that refuses everything. -/
def refuse : Reader α := fun _ => none

/-- The value of an option; `none` refuses. -/
def ofOption : Option α → Reader α
  | some value => pure value
  | none => refuse

/-- Going on only under a condition. -/
def require (condition : Bool) : Reader Unit := if condition then pure () else refuse

/-- The next lexeme, which is left where it is. -/
def peek : Reader (Option Lexeme) := fun rest => some (rest.head?, rest)

/-- The next lexeme but one, which is left where it is. -/
def peekSecond : Reader (Option Lexeme) := fun rest => some ((rest.drop 1).head?, rest)

/-- Whether a certain lexeme comes next. -/
def nextIs (lexeme : Lexeme) : Reader Bool := return (← peek) == some lexeme

/-- A certain lexeme is taken when it comes next. -/
def accept (lexeme : Lexeme) : Reader Bool
  | [] => some (false, [])
  | first :: rest => if first = lexeme then some (true, rest) else some (false, first :: rest)

/-- A certain lexeme has to come next. -/
def expect (lexeme : Lexeme) : Reader Unit
  | [] => none
  | first :: rest => if first = lexeme then some ((), rest) else none

/-- A certain symbol is taken when it comes next. -/
def acceptSymbol (symbol : Symbol) : Reader Bool := accept (.symbol symbol)

/-- A certain symbol has to come next. -/
def expectSymbol (symbol : Symbol) : Reader Unit := expect (.symbol symbol)

/-- A certain keyword is taken when it comes next. -/
def acceptKeyword (word : Keyword) : Reader Bool := accept (.keyword word)

/-- A certain keyword has to come next. -/
def expectKeyword (word : Keyword) : Reader Unit := expect (.keyword word)

/-- A name has to come next. The word is a name in its compatibility form only here: whether it is
a word of the grammar is decided on what is written. -/
def expectName : Reader Name
  | .name word :: rest => some (word.spelledName, rest)
  | _ => none

/-- A step is repeated until it answers that nothing more follows, at most once for each of some
lexemes and once more. -/
def repeatWithin (step : α → Reader (Option α)) : List Lexeme → α → Reader α
  | [], value => do
      match ← step value with
      | none => return value
      | some _ => refuse
  | _ :: bound, value => do
      match ← step value with
      | none => return value
      | some next => repeatWithin step bound next

/-- A step that takes at least one lexeme is repeated as long as it goes on. -/
def repeatFrom (step : α → Reader (Option α)) (value : α) : Reader α := fun rest =>
  repeatWithin step rest value rest

/-- Items with commas between them, the first one already read; a comma that no
item follows is taken too. The answer tells whether there was any comma. -/
def moreItems (item : Reader α) (starts : Lexeme → Bool) (first : α) :
    Reader (List α × Bool) := do
  let step (found : List α × Bool × Bool) : Reader (Option (List α × Bool × Bool)) := do
    let (items, hasComma, ended) := found
    if ended then return none
    if ← acceptSymbol .comma then
      if (← peek).any starts then
        return some ((← item) :: items, true, false)
      else return some (items, true, true)
    else return some (items, hasComma, true)
  let (items, hasComma, _) ← repeatFrom step ([first], false, false)
  return (items.reverse, hasComma)

/-- Items with commas between them, and perhaps one behind the last. -/
def items (item : Reader α) (starts : Lexeme → Bool) : Reader (List α × Bool) := do
  moreItems item starts (← item)

end Reader

/-- The readers for parts that are nested in other parts. -/
structure Inner where
  expression : Reader Expr
  disjunction : Reader Expr
  /-- An expression without connectives other than negation outside parentheses. -/
  inversion : Reader Expr
  /-- An expression of operators that bind more tightly than comparisons. -/
  bitOr : Reader Expr
  /-- An expression of operators with one operand and of powers. -/
  factor : Reader Expr
  /-- A name, a constant or brackets, with calls, elements and attributes. -/
  primary : Reader Expr
  pattern : Reader Pattern
  /-- The statements up to the end of their block. -/
  statements : Reader (List Stmt)

/-- The readers that refuse everything. -/
def Inner.refusing : Inner :=
  ⟨Reader.refuse, Reader.refuse, Reader.refuse, Reader.refuse, Reader.refuse, Reader.refuse,
    Reader.refuse, Reader.refuse⟩

/-- A lexeme with which an expression can begin. -/
def startsExpression : Lexeme → Bool
  | .name _ | .number _ | .string _ => true
  | .keyword word =>
      word = .trueWord || word = .falseWord || word = .noneWord || word = .notWord ||
        word = .lambdaWord || word = .awaitWord
  | .symbol symbol =>
      symbol = .leftParen || symbol = .leftBracket || symbol = .leftBrace || symbol = .tilde ||
        symbol = .ellipsis || symbol = .operator .add || symbol = .operator .subtract
  | _ => false

/-- The mark before an iterable whose elements take its place. -/
def isStar (lexeme : Lexeme) : Bool := lexeme = .symbol (.operator .multiply)

/-- A lexeme with which an item of a sequence can begin. -/
def startsItem (lexeme : Lexeme) : Bool := startsExpression lexeme || isStar lexeme

mutual

/-- What an expression stands for on the left of an assignment; `none` when nothing
can be assigned to it. -/
def Expr.toTarget? : Expr → Option Target
  | .name identifier => some (.name identifier)
  | .attribute object field => some (.attribute object field)
  | .subscript object index => some (.subscript object index)
  | .tuple items => (targetsOf? items).map .tuple
  | .list items => (targetsOf? items).map .list
  | .starred value => value.toTarget?.map .starred
  | _ => none

/-- What several expressions stand for on the left of an assignment. -/
def targetsOf? : List Expr → Option (List Target)
  | [] => some []
  | first :: rest => do
      let target ← first.toTarget?
      return target :: (← targetsOf? rest)

end

mutual

/-- A target has no part for left-over elements. -/
def Target.isUnstarred : Target → Bool
  | .starred _ => false
  | .tuple items | .list items => allUnstarred items
  | _ => true

/-- Several targets have no part for left-over elements. -/
def allUnstarred : List Target → Bool
  | [] => true
  | first :: rest => first.isUnstarred && allUnstarred rest

end

/-- A target that is a name, an attribute or an element. -/
def Target.isSingle : Target → Bool
  | .name _ | .attribute _ _ | .subscript _ _ => true
  | _ => false

end Stencil.Script
