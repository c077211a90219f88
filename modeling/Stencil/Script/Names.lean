import Stencil.Script.Syntax

/-! # Names of a program

The names that a program reads, binds and declares global are gathered over all
of its parts, whatever scope they stand in. A name that is read and neither
declared global nor reserved has to be supplied from outside; it is free when the
program does not bind it as well.
-/

namespace Stencil.Script

/-- A name as it occurs in a program. -/
inductive Mention where
  | read (name : Name)
  | bind (name : Name)
  | declare (name : Name)
  deriving DecidableEq, Repr

mutual

/-- The names in an expression. -/
def Expr.mentions : Expr → List Mention
  | .name identifier => [.read identifier]
  | .constant _ => []
  | .unary _ operand => operand.mentions
  | .binary _ left right => left.mentions ++ right.mentions
  | .connected _ operands => exprsMentions operands
  | .compared first _ others => first.mentions ++ exprsMentions others
  | .conditional test whenTrue whenFalse =>
      test.mentions ++ whenTrue.mentions ++ whenFalse.mentions
  | .lambda parameters body => parametersMentions parameters ++ body.mentions
  | .tuple items | .list items | .set items => exprsMentions items
  | .dict entries => entriesMentions entries
  | .comprehension _ element found => element.mentions ++ clausesMentions found
  | .dictComprehension key value found =>
      key.mentions ++ value.mentions ++ clausesMentions found
  | .await awaited => awaited.mentions
  | .yield value => optionMentions value
  | .yieldFrom source => source.mentions
  | .call callee positional named =>
      callee.mentions ++ exprsMentions positional ++ namedMentions named
  | .formatted pieces => piecesMentions pieces
  | .attribute object _ => object.mentions
  | .subscript object index => object.mentions ++ index.mentions
  | .starred value => value.mentions
  | .slice lower upper step =>
      optionMentions lower ++ optionMentions upper ++ optionMentions step
  | .walrus target value => .bind target :: value.mentions

/-- The names in several expressions. -/
def exprsMentions : List Expr → List Mention
  | [] => []
  | first :: rest => first.mentions ++ exprsMentions rest

/-- The names in an expression that may be absent. -/
def optionMentions : Option Expr → List Mention
  | none => []
  | some expression => expression.mentions

/-- The names in an entry of a dictionary. -/
def DictEntry.mentions : DictEntry → List Mention
  | .pair key value => key.mentions ++ value.mentions
  | .spread mapping => mapping.mentions

/-- The names in several entries of a dictionary. -/
def entriesMentions : List DictEntry → List Mention
  | [] => []
  | first :: rest => first.mentions ++ entriesMentions rest

/-- The names in a named argument; the parameter's name is none of them. -/
def NamedArgument.mentions : NamedArgument → List Mention
  | .named _ value => value.mentions
  | .spread mapping => mapping.mentions

/-- The names in several named arguments. -/
def namedMentions : List NamedArgument → List Mention
  | [] => []
  | first :: rest => first.mentions ++ namedMentions rest

/-- The names in a piece of a string. -/
def Piece.mentions : Piece → List Mention
  | .literal _ => []
  | .value value _ format => value.mentions ++ piecesMentions format

/-- The names in several pieces of a string. -/
def piecesMentions : List Piece → List Mention
  | [] => []
  | first :: rest => first.mentions ++ piecesMentions rest

/-- The names in a clause of a comprehension. -/
def Clause.mentions : Clause → List Mention
  | .mk _ target source tests => target.mentions ++ source.mentions ++ exprsMentions tests

/-- The names in several clauses of a comprehension. -/
def clausesMentions : List Clause → List Mention
  | [] => []
  | first :: rest => first.mentions ++ clausesMentions rest

/-- The names in a parameter, which binds its own. -/
def Parameter.mentions : Parameter → List Mention
  | .mk _ name hint standard => .bind name :: (optionMentions hint ++ optionMentions standard)

/-- The names in several parameters. -/
def parametersMentions : List Parameter → List Mention
  | [] => []
  | first :: rest => first.mentions ++ parametersMentions rest

/-- The names in a target. -/
def Target.mentions : Target → List Mention
  | .name identifier => [.bind identifier]
  | .attribute object _ => object.mentions
  | .subscript object index => object.mentions ++ index.mentions
  | .tuple items | .list items => targetsMentions items
  | .starred target => target.mentions

/-- The names in several targets. -/
def targetsMentions : List Target → List Mention
  | [] => []
  | first :: rest => first.mentions ++ targetsMentions rest

end

/-- A name that may be absent, bound where it is present. -/
def bindOption : Option Name → List Mention
  | none => []
  | some name => [.bind name]

mutual

/-- The names in a pattern. -/
def Pattern.mentions : Pattern → List Mention
  | .value expression => expression.mentions
  | .singleton _ => []
  | .sequence items | .alternatives items => patternsMentions items
  | .mapping keys patterns rest =>
      exprsMentions keys ++ patternsMentions patterns ++ bindOption rest
  | .ofClass cls positional _ named =>
      cls.mentions ++ patternsMentions positional ++ patternsMentions named
  | .starred target | .capture target => bindOption target
  | .bound pattern target => .bind target :: pattern.mentions

/-- The names in several patterns. -/
def patternsMentions : List Pattern → List Mention
  | [] => []
  | first :: rest => first.mentions ++ patternsMentions rest

end

/-- The name that an import binds: the given one, or the first of the path. -/
def Alias.boundName (imported : Alias) : Name :=
  imported.given.getD (imported.path.head?.getD [])

/-- The names in an entered context. -/
def WithItem.mentions : WithItem → List Mention
  | .mk context target =>
      context.mentions ++
        match target with
        | none => []
        | some target => target.mentions

/-- The name under which an import of everything is counted. -/
def everything : Name := text "*"

mutual

/-- The names in a statement. A target that is combined with a value is read too. -/
def Stmt.mentions : Stmt → List Mention
  | .expression value => value.mentions
  | .assign targets value => targetsMentions targets ++ value.mentions
  | .augment target _ value =>
      let read :=
        match target with
        | .name identifier => [Mention.read identifier]
        | _ => []
      read ++ target.mentions ++ value.mentions
  | .hinted target _ hint value => target.mentions ++ hint.mentions ++ optionMentions value
  | .returnValue value => optionMentions value
  | .delete targets => targetsMentions targets
  | .raise exception cause => optionMentions exception ++ optionMentions cause
  | .assert test message => test.mentions ++ optionMentions message
  | .pass | .breakLoop | .continueLoop => []
  | .importModules aliases => aliases.map fun imported => .bind imported.boundName
  | .importNames _ _ aliases => aliases.map fun imported => .bind imported.boundName
  | .importAll _ _ => [.bind everything]
  | .globalNames names => names.map .declare
  | .nonlocalNames names => names.map .bind
  | .ifBlock test body otherwise =>
      test.mentions ++ stmtsMentions body ++ stmtsMentions otherwise
  | .whileLoop test body otherwise =>
      test.mentions ++ stmtsMentions body ++ stmtsMentions otherwise
  | .forLoop _ target source body otherwise =>
      target.mentions ++ source.mentions ++ stmtsMentions body ++ stmtsMentions otherwise
  | .tryBlock _ body handlers otherwise always =>
      stmtsMentions body ++ handlersMentions handlers ++ stmtsMentions otherwise ++
        stmtsMentions always
  | .withBlock _ items body => items.flatMap WithItem.mentions ++ stmtsMentions body
  | .matchBlock subject cases => subject.mentions ++ casesMentions cases
  | .functionDef _ name parameters hint decorators body =>
      .bind name :: (parametersMentions parameters ++ optionMentions hint ++
        exprsMentions decorators ++ stmtsMentions body)
  | .classDef name bases named decorators body =>
      .bind name :: (exprsMentions bases ++ namedMentions named ++ exprsMentions decorators ++
        stmtsMentions body)

/-- The names in several statements. -/
def stmtsMentions : List Stmt → List Mention
  | [] => []
  | first :: rest => first.mentions ++ stmtsMentions rest

/-- The names in a handler. -/
def Handler.mentions : Handler → List Mention
  | .mk kind name body => optionMentions kind ++ bindOption name ++ stmtsMentions body

/-- The names in several handlers. -/
def handlersMentions : List Handler → List Mention
  | [] => []
  | first :: rest => first.mentions ++ handlersMentions rest

/-- The names in a case. -/
def MatchCase.mentions : MatchCase → List Mention
  | .mk pattern guard body => pattern.mentions ++ optionMentions guard ++ stmtsMentions body

/-- The names in several cases. -/
def casesMentions : List MatchCase → List Mention
  | [] => []
  | first :: rest => first.mentions ++ casesMentions rest

end

/-- The name that stands for whether checks are made. It is never bound, and reading it is
reading a constant. -/
def fixedName : Name := text "__debug__"

/-- A name that may be bound. -/
def mayBind (name : Name) : Bool := name != fixedName

/-- The names that a render program has without any template in it. -/
def reservedNames : List Name :=
  [text "ctx", text "_buf", text "_append", text "_str", text "_builtins"]

/-- The names of a program by what it does with them. -/
structure NameUse where
  loaded : List Name
  bound : List Name
  declared : List Name

namespace NameUse

/-- The names of a list of mentions. -/
def ofMentions (mentions : List Mention) : NameUse where
  loaded := mentions.filterMap fun
    | .read name => some name
    | _ => none
  bound := mentions.filterMap fun
    | .bind name => some name
    | _ => none
  declared := mentions.filterMap fun
    | .declare name => some name
    | _ => none

section

variable {name : Name} {mentions : List Mention}

@[simp] theorem mem_loaded_ofMentions : name ∈ (ofMentions mentions).loaded ↔ .read name ∈ mentions := by
  refine List.mem_filterMap.trans ⟨?_, fun member => ⟨_, member, rfl⟩⟩
  rintro ⟨_ | _ | _, member, isRead⟩ <;> cases isRead
  exact member

@[simp] theorem mem_bound_ofMentions : name ∈ (ofMentions mentions).bound ↔ .bind name ∈ mentions := by
  refine List.mem_filterMap.trans ⟨?_, fun member => ⟨_, member, rfl⟩⟩
  rintro ⟨_ | _ | _, member, isBound⟩ <;> cases isBound
  exact member

@[simp] theorem mem_declared_ofMentions :
    name ∈ (ofMentions mentions).declared ↔ .declare name ∈ mentions := by
  refine List.mem_filterMap.trans ⟨?_, fun member => ⟨_, member, rfl⟩⟩
  rintro ⟨_ | _ | _, member, isDeclared⟩ <;> cases isDeclared
  exact member

end

/-- The names that have to be supplied from outside. -/
def referenced (names : NameUse) : List Name :=
  names.loaded.filter fun name => !names.declared.contains name && !reservedNames.contains name

/-- The names that have to be supplied and are never bound. -/
def free (names : NameUse) : List Name :=
  names.referenced.filter fun name => !names.bound.contains name

theorem mem_referenced {names : NameUse} {name : Name} : name ∈ names.referenced ↔
    name ∈ names.loaded ∧ name ∉ names.declared ∧ name ∉ reservedNames := by
  simp [referenced]

theorem mem_free {names : NameUse} {name : Name} :
    name ∈ names.free ↔ name ∈ names.referenced ∧ name ∉ names.bound := by
  simp [free]

/-- The names of a program's functions, seen from inside them, and of its other statements. -/
def ofProgram (program : Program) : NameUse :=
  ofMentions (program.flatMap fun statement =>
    match statement with
    | .functionDef false _ parameters _ _ body =>
        parametersMentions parameters ++ stmtsMentions body
    | statement => statement.mentions)

end NameUse

end Stencil.Script
