import Stencil.Script.Lexeme

/-! # Syntax of the directive language

Statements and expressions of the language of directives as trees. What may be
assigned to is a type of its own (`Stencil.Script.Target`), so that no tree
assigns to a call or to a constant; whether a statement stands where it may is
not a matter of the tree.
-/

namespace Stencil.Script

/-- A name of the directive language. -/
abbrev Name := Text

/-- A value that is written down. -/
inductive Constant where
  | none
  | bool (value : Bool)
  | ellipsis
  | number (literal : NumberLiteral)
  | text (value : Text)
  | bytes (value : List Nat)
  deriving DecidableEq, Repr

/-- The operators with one operand. -/
inductive UnaryOperator where
  | negate | plus | minus | invert
  deriving DecidableEq, Repr

/-- The connectives that evaluate no further operand than they need. -/
inductive Connective where
  | conjunction | disjunction
  deriving DecidableEq, Repr

/-- The relations that a comparison tests. -/
inductive Relation where
  | equal | notEqual | less | lessEqual | greater | greaterEqual | same | notSame | within
  | notWithin
  deriving DecidableEq, Repr

/-- What a comprehension collects its elements into. -/
inductive Collection where
  | list | set | generator
  deriving DecidableEq, Repr

/-- How a formatted value becomes text before its format applies. -/
inductive Conversion where
  | plain | display | quoted | ascii
  deriving DecidableEq, Repr

/-- How a parameter takes its argument. -/
inductive ParameterKind where
  | positionalOnly
  | ordinary
  | rest
  | keywordOnly
  | restKeywords
  deriving DecidableEq, Repr

mutual

/-- Expressions. -/
inductive Expr where
  | name (identifier : Name)
  | constant (value : Constant)
  | unary (operator : UnaryOperator) (operand : Expr)
  | binary (operator : BinaryOperator) (left right : Expr)
  | connected (connective : Connective) (operands : List Expr)
  | compared (first : Expr) (relations : List Relation) (others : List Expr)
  | conditional (test whenTrue whenFalse : Expr)
  | lambda (parameters : List Parameter) (body : Expr)
  | tuple (items : List Expr)
  | list (items : List Expr)
  | set (items : List Expr)
  | dict (entries : List DictEntry)
  | comprehension (collection : Collection) (element : Expr) (clauses : List Clause)
  | dictComprehension (key value : Expr) (clauses : List Clause)
  | await (awaited : Expr)
  /-- A value handed to the caller of a generator. -/
  | yield (value : Option Expr)
  | yieldFrom (source : Expr)
  | call (callee : Expr) (positional : List Expr) (named : List NamedArgument)
  | formatted (pieces : List Piece)
  | attribute (object : Expr) (field : Name)
  | subscript (object index : Expr)
  | starred (value : Expr)
  | slice (lower upper step : Option Expr)
  | walrus (target : Name) (value : Expr)

/-- An entry of a dictionary that is written down. -/
inductive DictEntry where
  | pair (key value : Expr)
  | spread (mapping : Expr)

/-- An argument of a call that is not positional. -/
inductive NamedArgument where
  | named (parameter : Name) (value : Expr)
  | spread (mapping : Expr)

/-- A part of a string with expressions in it. -/
inductive Piece where
  | literal (value : Text)
  | value (value : Expr) (conversion : Conversion) (format : List Piece)

/-- One `for` of a comprehension, with the tests behind it. -/
inductive Clause where
  /-- The elements of a source, bound to a target and tested. -/
  | mk (isAsync : Bool) (target : Target) (source : Expr) (tests : List Expr)

/-- A parameter of a function. -/
inductive Parameter where
  | mk (kind : ParameterKind) (name : Name) (hint standard : Option Expr)

/-- What a value can be assigned to. -/
inductive Target where
  | name (identifier : Name)
  | attribute (object : Expr) (field : Name)
  | subscript (object index : Expr)
  | tuple (items : List Target)
  /-- As many targets as the value has elements, in brackets. -/
  | list (items : List Target)
  /-- A target for the elements that its neighbours leave over. -/
  | starred (target : Target)

end

/-- A name that is imported, and the name that it gets. -/
structure Alias where
  path : List Name
  given : Option Name
  deriving DecidableEq, Repr

/-- Patterns of a case. -/
inductive Pattern where
  | value (expression : Expr)
  /-- One of the values of which there is one only. -/
  | singleton (constant : Constant)
  | sequence (items : List Pattern)
  /-- A mapping with a pattern for each key, and a name for the other entries. -/
  | mapping (keys : List Expr) (patterns : List Pattern) (rest : Option Name)
  /-- An instance of a class, with patterns for attributes. -/
  | ofClass (cls : Expr) (positional : List Pattern) (fields : List Name) (named : List Pattern)
  /-- The elements of a sequence that the other patterns leave over. -/
  | starred (target : Option Name)
  /-- Anything, bound to a name if there is one. -/
  | capture (target : Option Name)
  /-- A pattern whose value is bound to a name. -/
  | bound (pattern : Pattern) (target : Name)
  | alternatives (patterns : List Pattern)

/-- An expression entered by a `with` block, and the target for what it returns. -/
inductive WithItem where
  | mk (context : Expr) (target : Option Target)

mutual

/-- Statements. -/
inductive Stmt where
  | expression (value : Expr)
  | assign (targets : List Target) (value : Expr)
  | augment (target : Target) (operator : BinaryOperator) (value : Expr)
  /-- A hinted target; it is simple when it is a name without parentheses. -/
  | hinted (target : Target) (isSimple : Bool) (hint : Expr) (value : Option Expr)
  | returnValue (value : Option Expr)
  | delete (targets : List Target)
  | raise (exception cause : Option Expr)
  | assert (test : Expr) (message : Option Expr)
  | pass
  | breakLoop
  | continueLoop
  | importModules (aliases : List Alias)
  /-- Names imported from a module, found by leading dots and a path. -/
  | importNames (dots : Nat) (path : List Name) (aliases : List Alias)
  | importAll (dots : Nat) (path : List Name)
  | globalNames (names : List Name)
  | nonlocalNames (names : List Name)
  | ifBlock (test : Expr) (body otherwise : List Stmt)
  | whileLoop (test : Expr) (body otherwise : List Stmt)
  | forLoop (isAsync : Bool) (target : Target) (source : Expr) (body otherwise : List Stmt)
  /-- A block with handlers for its exceptions, and a block that runs in any case. -/
  | tryBlock (isGroup : Bool) (body : List Stmt) (handlers : List Handler)
      (otherwise always : List Stmt)
  | withBlock (isAsync : Bool) (items : List WithItem) (body : List Stmt)
  | matchBlock (subject : Expr) (cases : List MatchCase)
  | functionDef (isAsync : Bool) (name : Name) (parameters : List Parameter)
      (hint : Option Expr) (decorators : List Expr) (body : List Stmt)
  | classDef (name : Name) (bases : List Expr) (named : List NamedArgument)
      (decorators : List Expr) (body : List Stmt)

/-- A handler of exceptions. -/
inductive Handler where
  /-- What it handles, the name given to the exception, and its block. -/
  | mk (kind : Option Expr) (name : Option Name) (body : List Stmt)

/-- A case of a choice by shape. -/
inductive MatchCase where
  | mk (pattern : Pattern) (guard : Option Expr) (body : List Stmt)

end

/-- A program is the list of its statements. -/
abbrev Program := List Stmt

end Stencil.Script
