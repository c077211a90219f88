import Stencil.Script.Pattern
import Stencil.Script.Scope.Declarations

/-! # Statements and expressions in their place

A tree of the grammar is a program only if its parts stand where they may: a
`break` inside a loop, a `return` and a `yield` inside a function, an `await` where
something can be awaited, a starred expression among the items of a display or a
call. No block stands inside twenty others of the same function that have to
be left in order.
-/

namespace Stencil.Script

/-- The most blocks of a function that may be open at once. -/
def blockLimit : Nat := 20

/-- The place of a statement or an expression. -/
structure Place where
  kind : ScopeKind
  /-- The innermost scope hands values to its caller and waits as well. -/
  isAwaitingGenerator : Bool
  /-- A loop of the scope can be left from here. -/
  inLoop : Bool
  mayReturn : Bool
  blocks : Nat
  deriving DecidableEq, Repr

namespace Place

/-- The place at the start of a scope. -/
def start (kind : ScopeKind) : Place := ⟨kind, false, false, true, 0⟩

/-- The place inside one more block, if there may be one. -/
def inBlocks (place : Place) (count : Nat) : Place := { place with blocks := place.blocks + count }

/-- The place inside a loop. -/
def loop (place : Place) : Place := { place.inBlocks 1 with inLoop := true }

/-- The place inside a handler of a group of exceptions, which is not left by jumps. -/
def groupHandler (place : Place) : Place :=
  { place.inBlocks 2 with inLoop := false, mayReturn := false }

/-- There are not too many open blocks. -/
def hasRoom (place : Place) : Bool := place.blocks ≤ blockLimit

/-- Something can be awaited here. -/
def mayAwait (place : Place) : Bool :=
  match place.kind with
  | .function isAsync => isAsync
  | .comprehension _ => true
  | .program | .lambda | .ofClass _ | .hint => false

/-- The innermost scope is a function that waits. -/
def isAsync (place : Place) : Bool := place.kind == .function true

end Place

/-- Expressions that are not starred. -/
def Expr.isStarred : Expr → Bool
  | .starred _ => true
  | _ => false

/-- The names of named arguments. -/
def NamedArgument.parameter? : NamedArgument → Option Name
  | .named parameter _ => some parameter
  | .spread _ => none

/-- The name of a parameter. -/
def Parameter.name : Parameter → Name
  | .mk _ name _ _ => name

/-- A target with a star. -/
def Target.isStarred : Target → Bool
  | .starred _ => true
  | _ => false

/-- A clause that waits for its elements. -/
def Clause.waits : Clause → Bool
  | .mk isAsync _ _ _ => isAsync

/-- Some events of a comprehension wait for something, and its elements are collected at once. -/
def collectsAwaited (collection : Option Collection) (clauses : List Clause)
    (elements : List Expr) : Bool :=
  collection != some .generator && (Scope.ofClauses collection clauses elements).awaits

/-- No more clauses wait for their elements than blocks may be open. -/
def fewWaiting (clauses : List Clause) : Bool :=
  (clauses.filter Clause.waits).length ≤ blockLimit

mutual

/-- An expression stands where it may. -/
def Expr.isPlaced (place : Place) : Expr → Bool
  | .name _ | .constant _ => true
  | .unary _ operand => operand.isPlaced place
  | .binary _ left right => left.isPlaced place && right.isPlaced place
  | .connected _ operands => exprsArePlaced place operands
  | .compared first _ others => first.isPlaced place && exprsArePlaced place others
  | .conditional test whenTrue whenFalse =>
      test.isPlaced place && whenTrue.isPlaced place && whenFalse.isPlaced place
  | .lambda parameters body =>
      parametersArePlaced place parameters && body.isPlaced (.start .lambda)
  | .tuple items | .list items | .set items => itemsArePlaced place items
  | .dict entries => entriesArePlaced place entries
  | .comprehension collection element clauses =>
      (!collectsAwaited (some collection) clauses [element] || place.mayAwait) &&
        fewWaiting clauses && clausesArePlaced place true clauses &&
        element.isPlaced (.start (.comprehension (some collection)))
  | .dictComprehension key value clauses =>
      (!collectsAwaited none clauses [key, value] || place.mayAwait) &&
        fewWaiting clauses && clausesArePlaced place true clauses &&
        key.isPlaced (.start (.comprehension none)) &&
        value.isPlaced (.start (.comprehension none))
  | .await awaited => place.mayAwait && awaited.isPlaced place
  | .yield value => place.kind.isCalled && optionIsPlaced place value
  | .yieldFrom source => place.kind.isCalled && !place.isAsync && source.isPlaced place
  | .call callee positional named =>
      callee.isPlaced place && itemsArePlaced place positional &&
        areDistinct (named.filterMap NamedArgument.parameter?) && namedArePlaced place named
  | .formatted pieces => piecesArePlaced place pieces
  | .attribute object _ => object.isPlaced place
  | .subscript object index => object.isPlaced place && index.isPlaced place
  | .starred _ => false
  | .slice lower upper step =>
      optionIsPlaced place lower && optionIsPlaced place upper && optionIsPlaced place step
  | .walrus target value => mayBind target && value.isPlaced place

/-- Expressions of which none is starred stand where they may. -/
def exprsArePlaced (place : Place) : List Expr → Bool
  | [] => true
  | first :: rest => first.isPlaced place && exprsArePlaced place rest

/-- Items that may be starred stand where they may. -/
def itemsArePlaced (place : Place) : List Expr → Bool
  | [] => true
  | .starred value :: rest => value.isPlaced place && itemsArePlaced place rest
  | first :: rest => first.isPlaced place && itemsArePlaced place rest

/-- An expression that may be absent stands where it may. -/
def optionIsPlaced (place : Place) : Option Expr → Bool
  | none => true
  | some expression => expression.isPlaced place

/-- An entry of a dictionary stands where it may. -/
def DictEntry.isPlaced (place : Place) : DictEntry → Bool
  | .pair key value => key.isPlaced place && value.isPlaced place
  | .spread mapping => mapping.isPlaced place

/-- Entries of a dictionary stand where they may. -/
def entriesArePlaced (place : Place) : List DictEntry → Bool
  | [] => true
  | first :: rest => first.isPlaced place && entriesArePlaced place rest

/-- A named argument stands where it may. -/
def NamedArgument.isPlaced (place : Place) : NamedArgument → Bool
  | .named parameter value => mayBind parameter && value.isPlaced place
  | .spread mapping => mapping.isPlaced place

/-- Named arguments stand where they may. -/
def namedArePlaced (place : Place) : List NamedArgument → Bool
  | [] => true
  | first :: rest => first.isPlaced place && namedArePlaced place rest

/-- A piece of a string stands where it may. -/
def Piece.isPlaced (place : Place) : Piece → Bool
  | .literal _ => true
  | .value value _ format => value.isPlaced place && piecesArePlaced place format

/-- Pieces of a string stand where they may. -/
def piecesArePlaced (place : Place) : List Piece → Bool
  | [] => true
  | first :: rest => first.isPlaced place && piecesArePlaced place rest

/-- A clause of a comprehension stands where it may; the first source belongs to the place
around the comprehension. -/
def Clause.isPlaced (around : Place) (isFirst : Bool) : Clause → Bool
  | .mk _ target source tests =>
      target.isPlaced (.start (.comprehension none)) &&
        source.isPlaced (if isFirst then around else .start (.comprehension none)) &&
        exprsArePlaced (.start (.comprehension none)) tests

/-- Clauses of a comprehension stand where they may. -/
def clausesArePlaced (around : Place) (isFirst : Bool) : List Clause → Bool
  | [] => true
  | first :: rest => first.isPlaced around isFirst && clausesArePlaced around false rest

/-- Parameters stand where they may, their defaults around the function. -/
def parametersArePlaced (around : Place) : List Parameter → Bool
  | [] => true
  | .mk _ name _ standard :: rest =>
      mayBind name && optionIsPlaced around standard && parametersArePlaced around rest

/-- A target stands where it may. -/
def Target.isPlaced (place : Place) : Target → Bool
  | .name identifier => mayBind identifier
  | .attribute object field => object.isPlaced place && mayBind field
  | .subscript object index => object.isPlaced place && index.isPlaced place
  | .tuple items | .list items =>
      atMostOne Target.isStarred items && fewBefore Target.isStarred items &&
        targetItemsArePlaced place items
  | .starred _ => false

/-- Targets of which one may be starred stand where they may. -/
def targetItemsArePlaced (place : Place) : List Target → Bool
  | [] => true
  | .starred target :: rest => target.isPlaced place && targetItemsArePlaced place rest
  | first :: rest => first.isPlaced place && targetItemsArePlaced place rest

end

/-- A target that may be combined with a value. -/
def Target.isAugmentable (place : Place) : Target → Bool
  | .attribute object _ => object.isPlaced place
  | other => other.isPlaced place

mutual

/-- A target that may lose its value. -/
def Target.isDeletable (place : Place) : Target → Bool
  | .name identifier => mayBind identifier
  | .attribute object _ => object.isPlaced place
  | .subscript object index => object.isPlaced place && index.isPlaced place
  | .tuple items | .list items => areDeletable place items
  | .starred _ => false

/-- Targets that may lose their values. -/
def areDeletable (place : Place) : List Target → Bool
  | [] => true
  | first :: rest => first.isDeletable place && areDeletable place rest

end

mutual

/-- An index that is evaluated for itself; an item of it that is a tuple is evaluated in the
same way, and none is starred. -/
def Expr.isBareIndex : Expr → Bool
  | .starred _ => false
  | .tuple items => areBareIndices items
  | _ => true

/-- Several indices that are evaluated for themselves. -/
def areBareIndices : List Expr → Bool
  | [] => true
  | first :: rest => first.isBareIndex && areBareIndices rest

end

/-- A target that may have a hint without getting a value. -/
def Target.mayLackValue : Target → Bool
  | .subscript _ index => index.isBareIndex
  | _ => true

/-- The module of names that change the language itself. -/
def futurePath : List Name := [text "__future__"]

/-- An imported name that may be bound. -/
def Alias.isPlaced (imported : Alias) : Bool := mayBind imported.boundName

mutual

/-- A statement stands where it may. -/
def Stmt.isPlaced (place : Place) : Stmt → Bool
  | .expression value => value.isPlaced place
  | .assign targets value =>
      targets.all (Target.isPlaced place) && value.isPlaced place
  | .augment target _ value => target.isAugmentable place && value.isPlaced place
  | .hinted target _ _ value =>
      target.isPlaced place && (value.isSome || target.mayLackValue) && optionIsPlaced place value
  | .returnValue value =>
      place.kind.isCalled && place.mayReturn && optionIsPlaced place value &&
        !(place.isAwaitingGenerator && value.isSome)
  | .delete targets => areDeletable place targets
  | .raise exception cause => optionIsPlaced place exception && optionIsPlaced place cause
  | .assert test message => test.isPlaced place && optionIsPlaced place message
  | .pass | .globalNames _ | .nonlocalNames _ => true
  | .breakLoop | .continueLoop => place.inLoop
  | .importModules aliases => aliases.all Alias.isPlaced
  | .importNames _ path aliases => path != futurePath && aliases.all Alias.isPlaced
  | .importAll _ path => path != futurePath
  | .ifBlock test body otherwise =>
      test.isPlaced place && stmtsArePlaced place body && stmtsArePlaced place otherwise
  | .whileLoop test body otherwise =>
      place.loop.hasRoom && test.isPlaced place && stmtsArePlaced place.loop body &&
        stmtsArePlaced place otherwise
  | .forLoop isAsync target source body otherwise =>
      place.loop.hasRoom && (!isAsync || place.isAsync) && target.isPlaced place &&
        source.isPlaced place && stmtsArePlaced place.loop body && stmtsArePlaced place otherwise
  | .tryBlock isGroup body handlers otherwise always =>
      let guarded := if always.isEmpty then place else place.inBlocks 1
      let inner := if handlers.isEmpty then guarded else guarded.inBlocks 1
      let handler :=
        if isGroup then guarded.groupHandler else guarded.inBlocks 2
      inner.hasRoom && stmtsArePlaced inner body &&
        (handlers.isEmpty || handler.hasRoom) &&
        handlersArePlaced guarded handler handlers && stmtsArePlaced guarded otherwise &&
        stmtsArePlaced (if always.isEmpty then place else place.inBlocks 1) always
  | .withBlock isAsync items body =>
      let inner := place.inBlocks items.length
      inner.hasRoom && (!isAsync || place.isAsync) && items.all (withItemIsPlaced place) &&
        stmtsArePlaced inner body
  | .matchBlock subject cases => subject.isPlaced place && casesArePlaced place cases
  | .functionDef isAsync name parameters _ decorators body =>
      let scope := Scope.ofFunction isAsync parameters body
      let inner : Place :=
        { Place.start (.function isAsync) with
          isAwaitingGenerator := (isAsync || scope.awaits) && scope.isGenerator }
      mayBind name && exprsArePlaced place decorators && parametersArePlaced place parameters &&
        stmtsArePlaced inner body
  | .classDef name bases named decorators body =>
      mayBind name && exprsArePlaced place decorators && itemsArePlaced place bases &&
        areDistinct (named.filterMap NamedArgument.parameter?) && namedArePlaced place named &&
        stmtsArePlaced (.start (.ofClass name)) body

/-- Statements stand where they may. -/
def stmtsArePlaced (place : Place) : List Stmt → Bool
  | [] => true
  | first :: rest => first.isPlaced place && stmtsArePlaced place rest

/-- An entered context stands where it may. -/
def withItemIsPlaced (place : Place) : WithItem → Bool
  | .mk context target => context.isPlaced place && target.all (Target.isPlaced place)

/-- Handlers stand where they may; only the last one handles everything. -/
def handlersArePlaced (place handler : Place) : List Handler → Bool
  | [] => true
  | .mk kind name body :: rest =>
      (kind.isSome || rest.isEmpty) && optionIsPlaced place kind && name.all mayBind &&
        stmtsArePlaced handler body && handlersArePlaced place handler rest

/-- Cases stand where they may; only the last one, or one with a further test, matches
anything. -/
def casesArePlaced (place : Place) : List MatchCase → Bool
  | [] => true
  | .mk pattern guard body :: rest =>
      pattern.isPlaced (guard.isSome || rest.isEmpty) && optionIsPlaced place guard &&
        stmtsArePlaced place body && casesArePlaced place rest

end

/-- Every part of a program stands where it may, and its names are declared consistently. -/
def isExecutable (program : Program) : Bool :=
  declaresConsistently program && stmtsArePlaced (.start .program) program

end Stencil.Script
