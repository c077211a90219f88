import Stencil.Script.Scope

/-! # Where the names of a function live

Every read of a name stands in some scopes (`Stencil.Script.Reading`). A name that its innermost
scope binds lives there. Any other name is looked up in the functions around that scope, from the
inside to the outside, while the classes among them are passed over; where no function has it, it
belongs to the program (`Stencil.Script.Reading.isOfProgram`). A hint is read where it stands, and a
private name inside a class counts as it is written.
-/

namespace Stencil.Script

/-- A read of a name, with the scopes that it stands in, the innermost one first. -/
structure Reading where
  name : Name
  scopes : List Scope

mutual

/-- The reads in an expression. -/
def Expr.readings (scopes : List Scope) : Expr → List Reading
  | .name identifier => [⟨identifier, scopes⟩]
  | .constant _ => []
  | .unary _ operand => operand.readings scopes
  | .binary _ left right => left.readings scopes ++ right.readings scopes
  | .connected _ operands => exprsReadings scopes operands
  | .compared first _ others => first.readings scopes ++ exprsReadings scopes others
  | .conditional test whenTrue whenFalse =>
      test.readings scopes ++ whenTrue.readings scopes ++ whenFalse.readings scopes
  | .lambda parameters body =>
      parametersReadings scopes parameters ++ body.readings (.ofLambda parameters body :: scopes)
  | .tuple items | .list items | .set items => exprsReadings scopes items
  | .dict entries => entriesReadings scopes entries
  | .comprehension collection element clauses =>
      let inner := .ofClauses (some collection) clauses [element] :: scopes
      element.readings inner ++ clausesReadings scopes inner clauses
  | .dictComprehension key value clauses =>
      let inner := .ofClauses none clauses [key, value] :: scopes
      key.readings inner ++ value.readings inner ++ clausesReadings scopes inner clauses
  | .await awaited => awaited.readings scopes
  | .yield value => optionReadings scopes value
  | .yieldFrom source => source.readings scopes
  | .call callee positional named =>
      callee.readings scopes ++ exprsReadings scopes positional ++ namedReadings scopes named
  | .formatted pieces => piecesReadings scopes pieces
  | .attribute object _ => object.readings scopes
  | .subscript object index => object.readings scopes ++ index.readings scopes
  | .starred value => value.readings scopes
  | .slice lower upper step =>
      optionReadings scopes lower ++ optionReadings scopes upper ++ optionReadings scopes step
  | .walrus _ value => value.readings scopes

/-- The reads in several expressions. -/
def exprsReadings (scopes : List Scope) : List Expr → List Reading
  | [] => []
  | first :: rest => first.readings scopes ++ exprsReadings scopes rest

/-- The reads in an expression that may be absent. -/
def optionReadings (scopes : List Scope) : Option Expr → List Reading
  | none => []
  | some expression => expression.readings scopes

/-- The reads in several entries of a dictionary. -/
def entriesReadings (scopes : List Scope) : List DictEntry → List Reading
  | [] => []
  | .pair key value :: rest =>
      key.readings scopes ++ value.readings scopes ++ entriesReadings scopes rest
  | .spread mapping :: rest => mapping.readings scopes ++ entriesReadings scopes rest

/-- The reads in several named arguments. -/
def namedReadings (scopes : List Scope) : List NamedArgument → List Reading
  | [] => []
  | .named _ value :: rest | .spread value :: rest =>
      value.readings scopes ++ namedReadings scopes rest

/-- The reads in several pieces of a string. -/
def piecesReadings (scopes : List Scope) : List Piece → List Reading
  | [] => []
  | .literal _ :: rest => piecesReadings scopes rest
  | .value value _ format :: rest =>
      value.readings scopes ++ piecesReadings scopes format ++ piecesReadings scopes rest

/-- The reads in the clauses of a comprehension. The source of the first one stands outside of the
scope that the comprehension opens. -/
def clausesReadings (outer inner : List Scope) : List Clause → List Reading
  | [] => []
  | .mk _ target source tests :: rest =>
      target.readings inner ++ source.readings outer ++ exprsReadings inner tests ++
        clausesReadings inner inner rest

/-- The reads in the hints and the defaults of parameters. -/
def parametersReadings (scopes : List Scope) : List Parameter → List Reading
  | [] => []
  | .mk _ _ hint standard :: rest =>
      optionReadings scopes hint ++ optionReadings scopes standard ++ parametersReadings scopes rest

/-- The reads in a target. -/
def Target.readings (scopes : List Scope) : Target → List Reading
  | .name _ => []
  | .attribute object _ => object.readings scopes
  | .subscript object index => object.readings scopes ++ index.readings scopes
  | .tuple items | .list items => targetsReadings scopes items
  | .starred target => target.readings scopes

/-- The reads in several targets. -/
def targetsReadings (scopes : List Scope) : List Target → List Reading
  | [] => []
  | first :: rest => first.readings scopes ++ targetsReadings scopes rest

end

mutual

/-- The reads in a pattern. -/
def Pattern.readings (scopes : List Scope) : Pattern → List Reading
  | .value expression => expression.readings scopes
  | .singleton _ | .starred _ | .capture _ => []
  | .sequence items | .alternatives items => patternsReadings scopes items
  | .mapping keys patterns _ => exprsReadings scopes keys ++ patternsReadings scopes patterns
  | .ofClass cls positional _ named =>
      cls.readings scopes ++ patternsReadings scopes positional ++ patternsReadings scopes named
  | .bound pattern _ => pattern.readings scopes

/-- The reads in several patterns. -/
def patternsReadings (scopes : List Scope) : List Pattern → List Reading
  | [] => []
  | first :: rest => first.readings scopes ++ patternsReadings scopes rest

end

/-- The reads in an entered context. -/
def WithItem.readings (scopes : List Scope) : WithItem → List Reading
  | .mk context none => context.readings scopes
  | .mk context (some target) => context.readings scopes ++ target.readings scopes

mutual

/-- The reads in a statement. A target that is combined with a value is read too. -/
def Stmt.readings (scopes : List Scope) : Stmt → List Reading
  | .expression value => value.readings scopes
  | .assign targets value => targetsReadings scopes targets ++ value.readings scopes
  | .augment (.name identifier) _ value => ⟨identifier, scopes⟩ :: value.readings scopes
  | .augment target _ value => target.readings scopes ++ value.readings scopes
  | .hinted target _ hint value =>
      target.readings scopes ++ hint.readings scopes ++ optionReadings scopes value
  | .returnValue value => optionReadings scopes value
  | .delete targets => targetsReadings scopes targets
  | .raise exception cause => optionReadings scopes exception ++ optionReadings scopes cause
  | .assert test message => test.readings scopes ++ optionReadings scopes message
  | .pass | .breakLoop | .continueLoop | .importModules _ | .importNames _ _ _ | .importAll _ _
  | .globalNames _ | .nonlocalNames _ => []
  | .ifBlock test body otherwise | .whileLoop test body otherwise =>
      test.readings scopes ++ stmtsReadings scopes body ++ stmtsReadings scopes otherwise
  | .forLoop _ target source body otherwise =>
      target.readings scopes ++ source.readings scopes ++ stmtsReadings scopes body ++
        stmtsReadings scopes otherwise
  | .tryBlock _ body handlers otherwise always =>
      stmtsReadings scopes body ++ handlersReadings scopes handlers ++
        stmtsReadings scopes otherwise ++ stmtsReadings scopes always
  | .withBlock _ items body => items.flatMap (·.readings scopes) ++ stmtsReadings scopes body
  | .matchBlock subject cases => subject.readings scopes ++ casesReadings scopes cases
  | .functionDef isAsync _ parameters hint decorators body =>
      parametersReadings scopes parameters ++ optionReadings scopes hint ++
        exprsReadings scopes decorators ++
        stmtsReadings (.ofFunction isAsync parameters body :: scopes) body
  | .classDef name bases named decorators body =>
      exprsReadings scopes bases ++ namedReadings scopes named ++ exprsReadings scopes decorators ++
        stmtsReadings (.mk (.ofClass name) (stmtsScopeEvents body) :: scopes) body

/-- The reads in several statements. -/
def stmtsReadings (scopes : List Scope) : List Stmt → List Reading
  | [] => []
  | first :: rest => first.readings scopes ++ stmtsReadings scopes rest

/-- The reads in several handlers. -/
def handlersReadings (scopes : List Scope) : List Handler → List Reading
  | [] => []
  | .mk kind _ body :: rest =>
      optionReadings scopes kind ++ stmtsReadings scopes body ++ handlersReadings scopes rest

/-- The reads in several cases. -/
def casesReadings (scopes : List Scope) : List MatchCase → List Reading
  | [] => []
  | .mk pattern guard body :: rest =>
      pattern.readings scopes ++ optionReadings scopes guard ++ stmtsReadings scopes body ++
        casesReadings scopes rest

end

/-- A name that is handed down by the scopes around another one belongs to the program: the first
function that knows it declares it to, or none knows it. -/
def comesFromProgram (name : Name) : List Scope → Bool
  | [] => true
  | scope :: outer =>
      if scope.kind.isCalled then
        scope.globalNames.contains name ||
          (!scope.ownNames.contains name && comesFromProgram name outer)
      else comesFromProgram name outer

/-- A read finds its name among those of the program. -/
def Reading.isOfProgram (reading : Reading) : Bool :=
  match reading.scopes with
  | [] => true
  | innermost :: outer =>
      innermost.globalNames.contains reading.name ||
        (!innermost.ownNames.contains reading.name && comesFromProgram reading.name outer)

/-- The names that a function reads from the program, somewhere in its body, apart from those that
every render program has. -/
def programReads (parameters : List Parameter) (body : List Stmt) : List Name :=
  (((stmtsReadings [.ofFunction false parameters body] body).filter Reading.isOfProgram).map
    Reading.name).filter fun name => !reservedNames.contains name

end Stencil.Script
