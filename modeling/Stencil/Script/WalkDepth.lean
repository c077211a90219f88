import Stencil.Script.Syntax

/-! # How deep a walk over a program goes

The names of a program are gathered by a walk over its tree. A walk takes two calls for every node
that it stands in, three where a kind of node is looked at in a way of its own, and one more for a
moment in the innermost node; operators and the marks of what is read or bound are nodes too. The
walk can go on as long as the calls that are open at once stay within a limit.
-/

namespace Stencil.Script

/-- The calls of a walk over a node, given those over the nodes below it. -/
def visit (below : Nat) : Nat := 2 + max 1 below

/-- The calls of a walk over a node that is looked at in a way of its own, given those over the
nodes below it. -/
def visitOwn (below : Nat) : Nat := 3 + max 1 below

/-- The calls of a walk over a node that has no other below it. -/
def leafDepth : Nat := 3

mutual

/-- The calls of a walk over an expression. -/
def Expr.walkDepth : Expr → Nat
  | .name _ => leafDepth
  | .constant _ => visitOwn 0
  | .unary _ operand => visit (max leafDepth operand.walkDepth)
  | .binary _ left right => visit (max leafDepth (max left.walkDepth right.walkDepth))
  | .connected _ operands => visit (max leafDepth (exprsDepth operands))
  | .compared first _ others => visit (max leafDepth (max first.walkDepth (exprsDepth others)))
  | .conditional test whenTrue whenFalse =>
      visit (max test.walkDepth (max whenTrue.walkDepth whenFalse.walkDepth))
  | .lambda parameters body => visit (max (visit (parametersDepth parameters)) body.walkDepth)
  | .tuple items | .list items => visit (max leafDepth (exprsDepth items))
  | .set items => visit (exprsDepth items)
  | .dict entries => visit (entriesDepth entries)
  | .comprehension _ element found => visit (max element.walkDepth (clausesDepth found))
  | .dictComprehension key value found =>
      visit (max (max key.walkDepth value.walkDepth) (clausesDepth found))
  | .await awaited => visit awaited.walkDepth
  | .yield value => visit (optionDepth value)
  | .yieldFrom source => visit source.walkDepth
  | .call callee positional named =>
      visit (max callee.walkDepth (max (exprsDepth positional) (namedDepth named)))
  | .formatted pieces => visit (piecesDepth pieces)
  | .attribute object _ => visit (max leafDepth object.walkDepth)
  | .subscript object index => visit (max leafDepth (max object.walkDepth index.walkDepth))
  | .starred value => visit (max leafDepth value.walkDepth)
  | .slice lower upper step =>
      visit (max (optionDepth lower) (max (optionDepth upper) (optionDepth step)))
  | .walrus _ value => visit (max leafDepth value.walkDepth)

/-- The calls of a walk over several expressions. -/
def exprsDepth : List Expr → Nat
  | [] => 0
  | first :: rest => max first.walkDepth (exprsDepth rest)

/-- The calls of a walk over an expression that may be absent. -/
def optionDepth : Option Expr → Nat
  | none => 0
  | some expression => expression.walkDepth

/-- The calls of a walk over an entry of a dictionary. -/
def DictEntry.walkDepth : DictEntry → Nat
  | .pair key value => max key.walkDepth value.walkDepth
  | .spread mapping => mapping.walkDepth

/-- The calls of a walk over several entries of a dictionary. -/
def entriesDepth : List DictEntry → Nat
  | [] => 0
  | first :: rest => max first.walkDepth (entriesDepth rest)

/-- The calls of a walk over a named argument. -/
def NamedArgument.walkDepth : NamedArgument → Nat
  | .named _ value => visit value.walkDepth
  | .spread mapping => visit mapping.walkDepth

/-- The calls of a walk over several named arguments. -/
def namedDepth : List NamedArgument → Nat
  | [] => 0
  | first :: rest => max first.walkDepth (namedDepth rest)

/-- The calls of a walk over a piece of a string. -/
def Piece.walkDepth : Piece → Nat
  | .literal _ => visitOwn 0
  | .value value _ format =>
      visit (max value.walkDepth (if format.isEmpty then 0 else visit (piecesDepth format)))

/-- The calls of a walk over several pieces of a string. -/
def piecesDepth : List Piece → Nat
  | [] => 0
  | first :: rest => max first.walkDepth (piecesDepth rest)

/-- The calls of a walk over a clause of a comprehension. -/
def Clause.walkDepth : Clause → Nat
  | .mk _ target source tests =>
      visit (max target.walkDepth (max source.walkDepth (exprsDepth tests)))

/-- The calls of a walk over several clauses of a comprehension. -/
def clausesDepth : List Clause → Nat
  | [] => 0
  | first :: rest => max first.walkDepth (clausesDepth rest)

/-- The calls of a walk over a parameter; its default is a node beside it. -/
def Parameter.walkDepth : Parameter → Nat
  | .mk _ _ hint standard => max (visitOwn (optionDepth hint)) (optionDepth standard)

/-- The calls of a walk over several parameters. -/
def parametersDepth : List Parameter → Nat
  | [] => 0
  | first :: rest => max first.walkDepth (parametersDepth rest)

/-- The calls of a walk over a target. -/
def Target.walkDepth : Target → Nat
  | .name _ => leafDepth
  | .attribute object _ => visit (max leafDepth object.walkDepth)
  | .subscript object index => visit (max leafDepth (max object.walkDepth index.walkDepth))
  | .tuple items | .list items => visit (max leafDepth (targetsDepth items))
  | .starred target => visit (max leafDepth target.walkDepth)

/-- The calls of a walk over several targets. -/
def targetsDepth : List Target → Nat
  | [] => 0
  | first :: rest => max first.walkDepth (targetsDepth rest)

end

mutual

/-- The calls of a walk over a pattern. -/
def Pattern.walkDepth : Pattern → Nat
  | .value expression => visit expression.walkDepth
  | .singleton _ => leafDepth
  | .sequence items | .alternatives items => visit (patternsDepth items)
  | .mapping keys patterns _ => visitOwn (max (exprsDepth keys) (patternsDepth patterns))
  | .ofClass cls positional _ named =>
      visit (max cls.walkDepth (max (patternsDepth positional) (patternsDepth named)))
  | .starred _ => leafDepth
  | .capture _ => visitOwn 0
  | .bound pattern _ => visitOwn pattern.walkDepth

/-- The calls of a walk over several patterns. -/
def patternsDepth : List Pattern → Nat
  | [] => 0
  | first :: rest => max first.walkDepth (patternsDepth rest)

end

/-- The calls of a walk over an entered context. -/
def WithItem.walkDepth : WithItem → Nat
  | .mk context target => visit (max context.walkDepth ((target.map Target.walkDepth).getD 0))

/-- The calls of a walk over several entered contexts. -/
def withItemsDepth : List WithItem → Nat
  | [] => 0
  | first :: rest => max first.walkDepth (withItemsDepth rest)

mutual

/-- The calls of a walk over a statement. -/
def Stmt.walkDepth : Stmt → Nat
  | .expression value => visit value.walkDepth
  | .assign targets value => visit (max (targetsDepth targets) value.walkDepth)
  | .augment target _ value =>
      visitOwn (max leafDepth (max target.walkDepth value.walkDepth))
  | .hinted target _ hint value =>
      visit (max target.walkDepth (max hint.walkDepth (optionDepth value)))
  | .returnValue value => visit (optionDepth value)
  | .delete targets => visit (targetsDepth targets)
  | .raise exception cause => visit (max (optionDepth exception) (optionDepth cause))
  | .assert test message => visit (max test.walkDepth (optionDepth message))
  | .pass | .breakLoop | .continueLoop => leafDepth
  | .importModules _ | .importNames _ _ _ | .importAll _ _ => leafDepth
  | .globalNames _ | .nonlocalNames _ => leafDepth
  | .ifBlock test body otherwise | .whileLoop test body otherwise =>
      visit (max test.walkDepth (max (stmtsDepth body) (stmtsDepth otherwise)))
  | .forLoop _ target source body otherwise =>
      visit (max (max target.walkDepth source.walkDepth)
        (max (stmtsDepth body) (stmtsDepth otherwise)))
  | .tryBlock _ body handlers otherwise always =>
      visit (max (max (stmtsDepth body) (handlersDepth handlers))
        (max (stmtsDepth otherwise) (stmtsDepth always)))
  | .withBlock _ items body => visit (max (withItemsDepth items) (stmtsDepth body))
  | .matchBlock subject cases => visit (max subject.walkDepth (casesDepth cases))
  | .functionDef _ _ parameters hint decorators body =>
      visitOwn (max (max (visit (parametersDepth parameters)) (optionDepth hint))
        (max (exprsDepth decorators) (stmtsDepth body)))
  | .classDef _ bases named decorators body =>
      visitOwn (max (max (exprsDepth bases) (namedDepth named))
        (max (exprsDepth decorators) (stmtsDepth body)))

/-- The calls of a walk over several statements. -/
def stmtsDepth : List Stmt → Nat
  | [] => 0
  | first :: rest => max first.walkDepth (stmtsDepth rest)

/-- The calls of a walk over a handler. -/
def Handler.walkDepth : Handler → Nat
  | .mk kind _ body => visitOwn (max (optionDepth kind) (stmtsDepth body))

/-- The calls of a walk over several handlers. -/
def handlersDepth : List Handler → Nat
  | [] => 0
  | first :: rest => max first.walkDepth (handlersDepth rest)

/-- The calls of a walk over a case. -/
def MatchCase.walkDepth : MatchCase → Nat
  | .mk pattern guard body =>
      visit (max pattern.walkDepth (max (optionDepth guard) (stmtsDepth body)))

/-- The calls of a walk over several cases. -/
def casesDepth : List MatchCase → Nat
  | [] => 0
  | first :: rest => max first.walkDepth (casesDepth rest)

end

/-- The calls of a walk over a statement of a program; a function is walked over from inside it. -/
def Stmt.outerDepth : Stmt → Nat
  | .functionDef false _ parameters _ _ body =>
      max (visit (parametersDepth parameters)) (stmtsDepth body)
  | statement => statement.walkDepth

/-- The calls of a walk over a program. -/
def programDepth : Program → Nat
  | [] => 0
  | first :: rest => max first.outerDepth (programDepth rest)

/-- The number of calls that a walk may have open at once. It is what a caller leaves of the
thousand calls that a thread may have open, and so a few less for a caller that stands deeper. -/
def walkLimit : Nat := 990

/-- The greatest depth of a tree that is made at all: making it takes a third of a call for each
node, where a walk takes two calls. -/
def treeLimit : Nat := 6 * walkLimit

end Stencil.Script
