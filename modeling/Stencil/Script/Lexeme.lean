import Stencil.Text.Basic

/-! # Lexemes of the directive language

The language of statements and expressions inside directives is read as a list
of lexemes: names, keywords, numbers, strings and symbols, with a mark at the
end of each logical line and at each change of indentation.
-/

namespace Stencil.Script

/-- The reserved words. -/
inductive Keyword where
  | falseWord | noneWord | trueWord | andWord | asWord | assertWord | asyncWord | awaitWord
  | breakWord | classWord | continueWord | defWord | delWord | elifWord | elseWord | exceptWord
  | finallyWord | forWord | fromWord | globalWord | ifWord | importWord | inWord | isWord
  | lambdaWord | nonlocalWord | notWord | orWord | passWord | raiseWord | returnWord | tryWord
  | whileWord | withWord | yieldWord
  deriving DecidableEq, Repr

/-- The reserved words with their spelling. -/
def Keyword.spellings : List (String × Keyword) :=
  [("False", .falseWord), ("None", .noneWord), ("True", .trueWord), ("and", .andWord),
    ("as", .asWord), ("assert", .assertWord), ("async", .asyncWord), ("await", .awaitWord),
    ("break", .breakWord), ("class", .classWord), ("continue", .continueWord), ("def", .defWord),
    ("del", .delWord), ("elif", .elifWord), ("else", .elseWord), ("except", .exceptWord),
    ("finally", .finallyWord), ("for", .forWord), ("from", .fromWord), ("global", .globalWord),
    ("if", .ifWord), ("import", .importWord), ("in", .inWord), ("is", .isWord),
    ("lambda", .lambdaWord), ("nonlocal", .nonlocalWord), ("not", .notWord), ("or", .orWord),
    ("pass", .passWord), ("raise", .raiseWord), ("return", .returnWord), ("try", .tryWord),
    ("while", .whileWord), ("with", .withWord), ("yield", .yieldWord)]

/-- The reserved word that a text spells. -/
def Keyword.ofText? (word : Text) : Option Keyword :=
  (Keyword.spellings.find? fun entry => text entry.1 == word).map Prod.snd

/-- The operators that take two operands and compute a value from both. -/
inductive BinaryOperator where
  | add | subtract | multiply | matrixMultiply | divide | modulo | power | shiftLeft | shiftRight
  | bitOr | bitXor | bitAnd | floorDivide
  deriving DecidableEq, Repr

/-- The spelling of a binary operator. -/
def BinaryOperator.spelling : BinaryOperator → Text
  | .add => text "+"
  | .subtract => text "-"
  | .multiply => text "*"
  | .matrixMultiply => text "@"
  | .divide => text "/"
  | .modulo => text "%"
  | .power => text "**"
  | .shiftLeft => text "<<"
  | .shiftRight => text ">>"
  | .bitOr => text "|"
  | .bitXor => text "^"
  | .bitAnd => text "&"
  | .floorDivide => text "//"

/-- The marks of punctuation and the operators. -/
inductive Symbol where
  | leftParen | rightParen | leftBracket | rightBracket | leftBrace | rightBrace
  | comma | colon | dot | semicolon | equal | arrow | ellipsis | walrus | tilde
  | less | greater | lessEqual | greaterEqual | equalEqual | notEqual
  | operator (operator : BinaryOperator)
  | augmented (operator : BinaryOperator)
  deriving DecidableEq, Repr

/-- The symbols with their spelling, longer spellings first. -/
def Symbol.spellings : List (String × Symbol) :=
  [("**=", .augmented .power), ("//=", .augmented .floorDivide), ("<<=", .augmented .shiftLeft),
    (">>=", .augmented .shiftRight), ("...", .ellipsis),
    ("**", .operator .power), ("//", .operator .floorDivide), ("<<", .operator .shiftLeft),
    (">>", .operator .shiftRight), ("+=", .augmented .add), ("-=", .augmented .subtract),
    ("*=", .augmented .multiply), ("/=", .augmented .divide), ("%=", .augmented .modulo),
    ("@=", .augmented .matrixMultiply), ("&=", .augmented .bitAnd), ("|=", .augmented .bitOr),
    ("^=", .augmented .bitXor), ("->", .arrow), (":=", .walrus), ("<=", .lessEqual),
    (">=", .greaterEqual), ("==", .equalEqual), ("!=", .notEqual),
    ("(", .leftParen), (")", .rightParen), ("[", .leftBracket), ("]", .rightBracket),
    ("\x7b", .leftBrace), ("\x7d", .rightBrace), (",", .comma), (":", .colon), (".", .dot),
    (";", .semicolon), ("=", .equal), ("~", .tilde), ("<", .less), (">", .greater),
    ("+", .operator .add), ("-", .operator .subtract), ("*", .operator .multiply),
    ("/", .operator .divide), ("%", .operator .modulo), ("@", .operator .matrixMultiply),
    ("&", .operator .bitAnd), ("|", .operator .bitOr), ("^", .operator .bitXor)]

/-- The longest symbol that a text begins with, and the length of its spelling. -/
def Symbol.atStart? (rest : Text) : Option (Symbol × Nat) :=
  (Symbol.spellings.find? fun entry => (text entry.1).isPrefixOf rest).map fun entry =>
    (entry.2, entry.1.length)

/-- The bracket that closes an opening bracket. -/
def Symbol.closing? : Symbol → Option Symbol
  | .leftParen => some .rightParen
  | .leftBracket => some .rightBracket
  | .leftBrace => some .rightBrace
  | _ => none

/-- A bracket that closes another. -/
def Symbol.closes : Symbol → Bool
  | .rightParen | .rightBracket | .rightBrace => true
  | _ => false

/-- A number as it is written: a decimal has the value mantissa times ten to the exponent. -/
inductive NumberLiteral where
  | whole (value : Nat)
  | decimal (mantissa : Nat) (exponent : Int)
  | imaginary (mantissa : Nat) (exponent : Int)
  deriving DecidableEq, Repr

/-- A string as it is written. -/
structure StringLiteral where
  isBytes : Bool
  isRaw : Bool
  isFormat : Bool
  body : Text
  deriving DecidableEq, Repr

/-- The smallest meaningful parts of a program. -/
inductive Lexeme where
  /-- An identifier that is not reserved, as it is written. -/
  | name (word : Text)
  | keyword (word : Keyword)
  | number (literal : NumberLiteral)
  | string (literal : StringLiteral)
  | symbol (symbol : Symbol)
  | lineEnd
  /-- The next line stands deeper than the one before. -/
  | indent
  | dedent
  deriving DecidableEq, Repr

end Stencil.Script
