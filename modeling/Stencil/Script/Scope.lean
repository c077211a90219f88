import Stencil.Script.Names

/-! # Scopes

A program, a function, a class and a comprehension each open a scope. What
happens to names in a scope is a list of events in the order in which they are
written, and a scope that opens inside another one is an event of the outer one.
The first source of a comprehension belongs to the outer scope, its other parts to
its own, and an assignment inside it reaches the innermost scope around it that
is not a comprehension.
-/

namespace Stencil.Script

/-- What opens a scope. -/
inductive ScopeKind where
  | program
  | function (isAsync : Bool)
  | lambda
  /-- A comprehension; its elements may be left to its reader. -/
  | comprehension (collection : Option Collection)
  | ofClass (name : Name)
  /-- The hints of a statement, which are written down but never evaluated. -/
  | hint
  deriving DecidableEq, Repr

/-- A comprehension. -/
def ScopeKind.isComprehension : ScopeKind → Bool
  | .comprehension _ => true
  | _ => false

/-- A scope whose names live as long as one call. -/
def ScopeKind.isCalled : ScopeKind → Bool
  | .program | .ofClass _ | .hint => false
  | .function _ | .lambda | .comprehension _ => true

/-- What a scope does with a name. -/
inductive NameRole where
  | read
  | bind
  | imported
  | parameter
  | hinted
  /-- The name is declared to belong to the program. -/
  | declaredGlobal
  /-- The name is declared to belong to an enclosing function. -/
  | declaredNonlocal
  deriving DecidableEq, Repr

/-- Where an expression stands with respect to comprehensions. -/
structure Surroundings where
  /-- It is part of the source of a comprehension. -/
  inSource : Bool
  /-- It is part of what a comprehension iterates over its elements. -/
  inTarget : Bool
  deriving DecidableEq, Repr

namespace Surroundings

/-- Outside every comprehension. -/
def plain : Surroundings := ⟨false, false⟩

/-- The source of a comprehension. -/
def source (around : Surroundings) : Surroundings := { around with inSource := true }

/-- The target of a comprehension. -/
def target (around : Surroundings) : Surroundings := { around with inTarget := true }

/-- The inside of a scope that opens here. -/
def inner (around : Surroundings) : Surroundings := { around with inTarget := false }

end Surroundings

mutual

/-- What happens in a scope. -/
inductive ScopeEvent where
  | use (role : NameRole) (name : Name) (around : Surroundings)
  /-- An assignment to a name begins inside an expression. -/
  | walrus (name : Name) (around : Surroundings)
  /-- The name of an assignment inside an expression gets its value. -/
  | walrusEnds (name : Name) (around : Surroundings)
  | importAll
  /-- A value is handed to the caller of a generator. -/
  | yields
  | awaits
  | opens (scope : Scope)

/-- A scope with its events. -/
inductive Scope where
  | mk (kind : ScopeKind) (events : List ScopeEvent)

end

/-- The kind of a scope. -/
def Scope.kind : Scope → ScopeKind
  | .mk kind _ => kind

/-- The events of a scope. -/
def Scope.events : Scope → List ScopeEvent
  | .mk _ events => events

mutual

/-- The events of an expression. -/
def Expr.scopeEvents (around : Surroundings) : Expr → List ScopeEvent
  | .name identifier =>
      if identifier = fixedName then [] else [.use .read identifier around]
  | .constant _ => []
  | .unary _ operand => operand.scopeEvents around
  | .binary _ left right => left.scopeEvents around ++ right.scopeEvents around
  | .connected _ operands => exprsScopeEvents around operands
  | .compared first _ others => first.scopeEvents around ++ exprsScopeEvents around others
  | .conditional test whenTrue whenFalse =>
      test.scopeEvents around ++ whenTrue.scopeEvents around ++ whenFalse.scopeEvents around
  | .lambda parameters body =>
      standardsScopeEvents around parameters ++
        [.opens (.mk .lambda
          (parameterScopeEvents parameters ++ body.scopeEvents around.inner))]
  | .tuple items | .list items | .set items => exprsScopeEvents around items
  | .dict entries => entriesScopeEvents around entries
  | .comprehension collection element clauses =>
      sourceScopeEvents around clauses ++
        [.opens (.mk (.comprehension (some collection))
          (clausesScopeEvents true around.inner clauses ++ element.scopeEvents around.inner))]
  | .dictComprehension key value clauses =>
      sourceScopeEvents around clauses ++
        [.opens (.mk (.comprehension none)
          (clausesScopeEvents true around.inner clauses ++ value.scopeEvents around.inner ++
            key.scopeEvents around.inner))]
  | .await awaited => awaited.scopeEvents around ++ [.awaits]
  | .yield value => optionScopeEvents around value ++ [.yields]
  | .yieldFrom source => source.scopeEvents around ++ [.yields]
  | .call callee positional named =>
      callee.scopeEvents around ++ exprsScopeEvents around positional ++
        namedScopeEvents around named
  | .formatted pieces => piecesScopeEvents around pieces
  | .attribute object _ => object.scopeEvents around
  | .subscript object index => object.scopeEvents around ++ index.scopeEvents around
  | .starred value => value.scopeEvents around
  | .slice lower upper step =>
      optionScopeEvents around lower ++ optionScopeEvents around upper ++
        optionScopeEvents around step
  | .walrus target value =>
      .walrus target around :: (value.scopeEvents around ++ [.walrusEnds target around])

/-- The events of several expressions. -/
def exprsScopeEvents (around : Surroundings) : List Expr → List ScopeEvent
  | [] => []
  | first :: rest => first.scopeEvents around ++ exprsScopeEvents around rest

/-- The events of an expression that may be absent. -/
def optionScopeEvents (around : Surroundings) : Option Expr → List ScopeEvent
  | none => []
  | some expression => expression.scopeEvents around

/-- The events of an entry of a dictionary. -/
def DictEntry.scopeEvents (around : Surroundings) : DictEntry → List ScopeEvent
  | .pair key value => key.scopeEvents around ++ value.scopeEvents around
  | .spread mapping => mapping.scopeEvents around

/-- The events of several entries of a dictionary. -/
def entriesScopeEvents (around : Surroundings) : List DictEntry → List ScopeEvent
  | [] => []
  | first :: rest => first.scopeEvents around ++ entriesScopeEvents around rest

/-- The events of a named argument. -/
def NamedArgument.scopeEvents (around : Surroundings) : NamedArgument → List ScopeEvent
  | .named _ value => value.scopeEvents around
  | .spread mapping => mapping.scopeEvents around

/-- The events of several named arguments. -/
def namedScopeEvents (around : Surroundings) : List NamedArgument → List ScopeEvent
  | [] => []
  | first :: rest => first.scopeEvents around ++ namedScopeEvents around rest

/-- The events of a piece of a string. -/
def Piece.scopeEvents (around : Surroundings) : Piece → List ScopeEvent
  | .literal _ => []
  | .value value _ format => value.scopeEvents around ++ piecesScopeEvents around format

/-- The events of several pieces of a string. -/
def piecesScopeEvents (around : Surroundings) : List Piece → List ScopeEvent
  | [] => []
  | first :: rest => first.scopeEvents around ++ piecesScopeEvents around rest

/-- The events of the first source of a comprehension, in the scope around it. -/
def sourceScopeEvents (around : Surroundings) : List Clause → List ScopeEvent
  | [] => []
  | .mk _ _ source _ :: _ => source.scopeEvents around.source

/-- The events of a clause in the scope of its comprehension. -/
def Clause.scopeEvents (isFirst : Bool) (around : Surroundings) : Clause → List ScopeEvent
  | .mk isAsync target source tests =>
      target.scopeEvents around.target ++
        (if isFirst then [] else source.scopeEvents around.source) ++
        exprsScopeEvents around tests ++ (if isAsync then [.awaits] else [])

/-- The events of the clauses of a comprehension in its scope. -/
def clausesScopeEvents (isFirst : Bool) (around : Surroundings) : List Clause → List ScopeEvent
  | [] => []
  | first :: rest => first.scopeEvents isFirst around ++ clausesScopeEvents false around rest

/-- The events of the defaults of parameters. -/
def standardsScopeEvents (around : Surroundings) : List Parameter → List ScopeEvent
  | [] => []
  | .mk _ _ _ standard :: rest =>
      optionScopeEvents around standard ++ standardsScopeEvents around rest

/-- The events of the hints of parameters. -/
def hintsScopeEvents (around : Surroundings) : List Parameter → List ScopeEvent
  | [] => []
  | .mk _ _ hint _ :: rest => optionScopeEvents around hint ++ hintsScopeEvents around rest

/-- The parameters of a function as events of its scope. -/
def parameterScopeEvents : List Parameter → List ScopeEvent
  | [] => []
  | .mk _ name _ _ :: rest => .use .parameter name .plain :: parameterScopeEvents rest

/-- The events of a target. -/
def Target.scopeEvents (around : Surroundings) : Target → List ScopeEvent
  | .name identifier => [.use .bind identifier around]
  | .attribute object _ => object.scopeEvents around
  | .subscript object index => object.scopeEvents around ++ index.scopeEvents around
  | .tuple items | .list items => targetsScopeEvents around items
  | .starred target => target.scopeEvents around

/-- The events of several targets. -/
def targetsScopeEvents (around : Surroundings) : List Target → List ScopeEvent
  | [] => []
  | first :: rest => first.scopeEvents around ++ targetsScopeEvents around rest

end

/-- A name that is bound by a statement. -/
def bindEvent (name : Name) : ScopeEvent := .use .bind name .plain

/-- A name that may be absent, bound where it is present. -/
def bindOptionEvent : Option Name → List ScopeEvent
  | none => []
  | some name => [bindEvent name]

mutual

/-- The events of a pattern. -/
def Pattern.scopeEvents : Pattern → List ScopeEvent
  | .value expression => expression.scopeEvents .plain
  | .singleton _ => []
  | .sequence items | .alternatives items => patternsScopeEvents items
  | .mapping keys patterns rest =>
      exprsScopeEvents .plain keys ++ patternsScopeEvents patterns ++ bindOptionEvent rest
  | .ofClass cls positional _ named =>
      cls.scopeEvents .plain ++ patternsScopeEvents positional ++ patternsScopeEvents named
  | .starred target | .capture target => bindOptionEvent target
  | .bound pattern target => pattern.scopeEvents ++ [bindEvent target]

/-- The events of several patterns. -/
def patternsScopeEvents : List Pattern → List ScopeEvent
  | [] => []
  | first :: rest => first.scopeEvents ++ patternsScopeEvents rest

end

/-- The events of an entered context. -/
def WithItem.scopeEvents : WithItem → List ScopeEvent
  | .mk context target =>
      context.scopeEvents .plain ++
        match target with
        | none => []
        | some target => target.scopeEvents .plain

/-- The name of an import as an event. -/
def Alias.scopeEvent (imported : Alias) : ScopeEvent :=
  .use .imported imported.boundName .plain

mutual

/-- The events of a statement. -/
def Stmt.scopeEvents : Stmt → List ScopeEvent
  | .expression value => value.scopeEvents .plain
  | .assign targets value => targetsScopeEvents .plain targets ++ value.scopeEvents .plain
  | .augment target _ value => target.scopeEvents .plain ++ value.scopeEvents .plain
  | .hinted target isSimple hint value =>
      let targetEvents :=
        match target with
        | .name identifier =>
            (if isSimple then [.use .hinted identifier .plain] else []) ++
              (if value.isSome then [bindEvent identifier] else [])
        | other => other.scopeEvents .plain
      targetEvents ++ [.opens (.mk .hint (hint.scopeEvents .plain))] ++
        optionScopeEvents .plain value
  | .returnValue value => optionScopeEvents .plain value
  | .delete targets => targetsScopeEvents .plain targets
  | .raise exception cause =>
      optionScopeEvents .plain exception ++ optionScopeEvents .plain cause
  | .assert test message => test.scopeEvents .plain ++ optionScopeEvents .plain message
  | .pass | .breakLoop | .continueLoop => []
  | .importModules aliases | .importNames _ _ aliases => aliases.map Alias.scopeEvent
  | .importAll _ _ => [.importAll]
  | .globalNames names => names.map fun name => .use .declaredGlobal name .plain
  | .nonlocalNames names => names.map fun name => .use .declaredNonlocal name .plain
  | .ifBlock test body otherwise | .whileLoop test body otherwise =>
      test.scopeEvents .plain ++ stmtsScopeEvents body ++ stmtsScopeEvents otherwise
  | .forLoop _ target source body otherwise =>
      target.scopeEvents .plain ++ source.scopeEvents .plain ++ stmtsScopeEvents body ++
        stmtsScopeEvents otherwise
  | .tryBlock _ body handlers otherwise always =>
      stmtsScopeEvents body ++ stmtsScopeEvents otherwise ++ handlersScopeEvents handlers ++
        stmtsScopeEvents always
  | .withBlock _ items body => items.flatMap WithItem.scopeEvents ++ stmtsScopeEvents body
  | .matchBlock subject cases => subject.scopeEvents .plain ++ casesScopeEvents cases
  | .functionDef isAsync name parameters hint decorators body =>
      bindEvent name :: (standardsScopeEvents .plain parameters ++
        [.opens (.mk .hint (hintsScopeEvents .plain parameters)),
          .opens (.mk .hint (optionScopeEvents .plain hint))] ++
        exprsScopeEvents .plain decorators ++
        [.opens (.mk (.function isAsync)
          (parameterScopeEvents parameters ++ stmtsScopeEvents body))])
  | .classDef name bases named decorators body =>
      bindEvent name :: (exprsScopeEvents .plain bases ++ namedScopeEvents .plain named ++
        exprsScopeEvents .plain decorators ++
          [.opens (.mk (.ofClass name) (stmtsScopeEvents body))])

/-- The events of several statements. -/
def stmtsScopeEvents : List Stmt → List ScopeEvent
  | [] => []
  | first :: rest => first.scopeEvents ++ stmtsScopeEvents rest

/-- The events of a handler. -/
def Handler.scopeEvents : Handler → List ScopeEvent
  | .mk kind name body =>
      optionScopeEvents .plain kind ++ bindOptionEvent name ++ stmtsScopeEvents body

/-- The events of several handlers. -/
def handlersScopeEvents : List Handler → List ScopeEvent
  | [] => []
  | first :: rest => first.scopeEvents ++ handlersScopeEvents rest

/-- The events of a case. -/
def MatchCase.scopeEvents : MatchCase → List ScopeEvent
  | .mk pattern guard body =>
      pattern.scopeEvents ++ optionScopeEvents .plain guard ++ stmtsScopeEvents body

/-- The events of several cases. -/
def casesScopeEvents : List MatchCase → List ScopeEvent
  | [] => []
  | first :: rest => first.scopeEvents ++ casesScopeEvents rest

end

/-- The scope of a whole program. -/
def Scope.ofProgram (program : Program) : Scope := .mk .program (stmtsScopeEvents program)

/-- The scope of a function with some parameters and a body. -/
def Scope.ofFunction (isAsync : Bool) (parameters : List Parameter) (body : List Stmt) : Scope :=
  .mk (.function isAsync) (parameterScopeEvents parameters ++ stmtsScopeEvents body)

/-- The scope of a function without a name. -/
def Scope.ofLambda (parameters : List Parameter) (body : Expr) : Scope :=
  .mk .lambda (parameterScopeEvents parameters ++ body.scopeEvents .plain)

/-- The scope of a comprehension. -/
def Scope.ofClauses (collection : Option Collection) (clauses : List Clause)
    (elements : List Expr) : Scope :=
  .mk (.comprehension collection)
    (clausesScopeEvents true .plain clauses ++ exprsScopeEvents .plain elements)

/-- A scope of a generator: it hands values to its caller. -/
def Scope.isGenerator (scope : Scope) : Bool :=
  scope.events.any fun
    | .yields => true
    | _ => false

mutual

/-- A scope in which something is awaited, directly or in a comprehension that collects
its elements at once. -/
def Scope.awaits : Scope → Bool
  | .mk _ events => anyAwaits events

/-- One of several events awaits something. -/
def anyAwaits : List ScopeEvent → Bool
  | [] => false
  | event :: rest => event.isAwaiting || anyAwaits rest

/-- An event that makes its scope wait. -/
def ScopeEvent.isAwaiting : ScopeEvent → Bool
  | .awaits => true
  | .opens (.mk (.comprehension (some .generator)) _) => false
  | .opens (.mk (.comprehension _) events) => anyAwaits events
  | _ => false

end

mutual

/-- The names that a scope's assignments inside expressions bind, those of its comprehensions
included. -/
def walrusNames : List ScopeEvent → List Name
  | [] => []
  | event :: rest => event.walrusNames ++ walrusNames rest

/-- The names that an event binds by assignments inside expressions. -/
def ScopeEvent.walrusNames : ScopeEvent → List Name
  | .walrus name _ => [name]
  | .opens (.mk (.comprehension _) events) | .opens (.mk .hint events) =>
      Script.walrusNames events
  | _ => []

end

/-- The names that events bind by other means than assignments inside expressions. -/
def statedNames (events : List ScopeEvent) : List Name :=
  events.filterMap fun
    | .use .bind name _ | .use .imported name _ | .use .parameter name _
    | .use .hinted name _ => some name
    | _ => none

/-- The names that events declare in one role. -/
def declaredNames (role : NameRole) (events : List ScopeEvent) : List Name :=
  events.filterMap fun
    | .use declared name _ => if declared = role then some name else none
    | _ => none

/-- The names that a scope binds, whatever they are declared to be. -/
def Scope.boundNames : Scope → List Name
  | .mk (.comprehension _) events => statedNames events
  | .mk _ events => statedNames events ++ walrusNames events

/-- The names that a scope declares to belong to the program. -/
def Scope.globalNames (scope : Scope) : List Name := declaredNames .declaredGlobal scope.events

/-- The names that live in a scope: it binds them and declares them to belong nowhere else. -/
def Scope.ownNames (scope : Scope) : List Name :=
  let elsewhere := scope.globalNames ++ declaredNames .declaredNonlocal scope.events
  (scope.boundNames.filter fun name => !elsewhere.contains name).eraseDups

end Stencil.Script
