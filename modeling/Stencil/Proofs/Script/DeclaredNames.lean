import Stencil.Script.Placement

/-! # Names that a block mentions and declares

What is gathered over the statements of a block, the handlers of a statement or the cases of a
choice is gathered over its parts one behind the other (`Stencil.Script.stmtsMentions_append`,
`Stencil.Script.stmtsScopeEvents_append`).

Only statements of their own declare names to live elsewhere: no expression and no pattern does
(`Stencil.Script.Expr.declaredNames_scopeEvents`). So the names that a scope declares global are
among those that its statements mention as declared
(`Stencil.Script.stmts_declare_mem_mentions`).
-/

namespace Stencil.Script

theorem stmtsMentions_append {first second : List Stmt} :
    stmtsMentions (first ++ second) = stmtsMentions first ++ stmtsMentions second := by
  induction first with
  | nil => rfl
  | cons statement rest ih =>
      rw [List.cons_append, stmtsMentions, stmtsMentions, ih, List.append_assoc]

theorem handlersMentions_append {first second : List Handler} :
    handlersMentions (first ++ second) = handlersMentions first ++ handlersMentions second := by
  induction first with
  | nil => rfl
  | cons handler rest ih =>
      rw [List.cons_append, handlersMentions, handlersMentions, ih, List.append_assoc]

theorem casesMentions_append {first second : List MatchCase} :
    casesMentions (first ++ second) = casesMentions first ++ casesMentions second := by
  induction first with
  | nil => rfl
  | cons case rest ih => rw [List.cons_append, casesMentions, casesMentions, ih, List.append_assoc]

theorem stmtsScopeEvents_append {first second : List Stmt} :
    stmtsScopeEvents (first ++ second) = stmtsScopeEvents first ++ stmtsScopeEvents second := by
  induction first with
  | nil => rfl
  | cons statement rest ih =>
      rw [List.cons_append, stmtsScopeEvents, stmtsScopeEvents, ih, List.append_assoc]

theorem handlersScopeEvents_append {first second : List Handler} :
    handlersScopeEvents (first ++ second) =
      handlersScopeEvents first ++ handlersScopeEvents second := by
  induction first with
  | nil => rfl
  | cons handler rest ih =>
      rw [List.cons_append, handlersScopeEvents, handlersScopeEvents, ih, List.append_assoc]

theorem casesScopeEvents_append {first second : List MatchCase} :
    casesScopeEvents (first ++ second) = casesScopeEvents first ++ casesScopeEvents second := by
  induction first with
  | nil => rfl
  | cons case rest ih =>
      rw [List.cons_append, casesScopeEvents, casesScopeEvents, ih, List.append_assoc]

theorem mem_stmtsScopeEvents {statements : List Stmt} {event : ScopeEvent} :
    event ∈ stmtsScopeEvents statements ↔ ∃ statement ∈ statements, event ∈ statement.scopeEvents := by
  induction statements with
  | nil => simp [stmtsScopeEvents]
  | cons statement rest ih =>
      simp only [stmtsScopeEvents, List.mem_append, ih, List.mem_cons, exists_eq_or_imp]

theorem anyAwaits_append {first second : List ScopeEvent} :
    anyAwaits (first ++ second) = (anyAwaits first || anyAwaits second) := by
  induction first with
  | nil => rfl
  | cons event rest ih => rw [List.cons_append, anyAwaits, anyAwaits, ih, Bool.or_assoc]

theorem stmtsArePlaced_append {place : Place} {first second : List Stmt} :
    stmtsArePlaced place (first ++ second) =
      (stmtsArePlaced place first && stmtsArePlaced place second) := by
  induction first with
  | nil => rfl
  | cons statement rest ih =>
      rw [List.cons_append, stmtsArePlaced, stmtsArePlaced, ih, Bool.and_assoc]

section

variable {role : NameRole} {name : Name} {around : Surroundings} {events others : List ScopeEvent}

@[simp] theorem declaredNames_nil : declaredNames role [] = [] := rfl

@[simp] theorem declaredNames_append :
    declaredNames role (events ++ others) = declaredNames role events ++ declaredNames role others :=
  List.filterMap_append

@[simp] theorem declaredNames_use {used : NameRole} :
    declaredNames role (.use used name around :: events) =
      (if used = role then [name] else []) ++ declaredNames role events := by
  unfold declaredNames
  rw [List.filterMap_cons]
  dsimp only
  by_cases same : used = role
  · rw [if_pos same, if_pos same]
    rfl
  · rw [if_neg same, if_neg same]
    rfl

@[simp] theorem declaredNames_walrus :
    declaredNames role (.walrus name around :: events) = declaredNames role events := rfl

@[simp] theorem declaredNames_walrusEnds :
    declaredNames role (.walrusEnds name around :: events) = declaredNames role events := rfl

@[simp] theorem declaredNames_yields :
    declaredNames role (.yields :: events) = declaredNames role events := rfl

@[simp] theorem declaredNames_awaits :
    declaredNames role (.awaits :: events) = declaredNames role events := rfl

@[simp] theorem declaredNames_opens {scope : Scope} :
    declaredNames role (.opens scope :: events) = declaredNames role events := rfl

end

/-- A role that declares a name to live elsewhere. -/
def NameRole.IsDeclaration (role : NameRole) : Prop :=
  role = .declaredGlobal ∨ role = .declaredNonlocal

theorem NameRole.IsDeclaration.ne {role : NameRole} (declares : role.IsDeclaration) :
    NameRole.read ≠ role ∧ NameRole.bind ≠ role ∧ NameRole.parameter ≠ role ∧
      NameRole.hinted ≠ role ∧ NameRole.imported ≠ role := by
  rcases declares with rfl | rfl
  · decide
  · decide

variable {role : NameRole}

mutual

theorem Expr.declaredNames_scopeEvents (declares : role.IsDeclaration) :
    ∀ (expression : Expr) (around : Surroundings),
    declaredNames role (expression.scopeEvents around) = []
  | .name identifier, around => by
      rw [Expr.scopeEvents]
      split
      · rfl
      · simp [declares.ne]
  | .constant _, _ => by simp [Expr.scopeEvents]
  | .unary _ operand, around => by
      simp [Expr.scopeEvents, operand.declaredNames_scopeEvents declares around]
  | .binary _ left right, around => by
      simp [Expr.scopeEvents, left.declaredNames_scopeEvents declares around,
        right.declaredNames_scopeEvents declares around]
  | .connected _ operands, around => by
      simp [Expr.scopeEvents, declaredNames_exprs declares operands around]
  | .compared first _ others, around => by
      simp [Expr.scopeEvents, first.declaredNames_scopeEvents declares around,
        declaredNames_exprs declares others around]
  | .conditional test whenTrue whenFalse, around => by
      simp [Expr.scopeEvents, test.declaredNames_scopeEvents declares around,
        whenTrue.declaredNames_scopeEvents declares around,
        whenFalse.declaredNames_scopeEvents declares around]
  | .lambda parameters body, around => by
      simp [Expr.scopeEvents, declaredNames_standards declares parameters around]
  | .tuple items, around | .list items, around | .set items, around => by
      simp [Expr.scopeEvents, declaredNames_exprs declares items around]
  | .dict entries, around => by
      simp [Expr.scopeEvents, declaredNames_entries declares entries around]
  | .comprehension _ element clauses, around => by
      simp [Expr.scopeEvents, declaredNames_source declares clauses around]
  | .dictComprehension key value clauses, around => by
      simp [Expr.scopeEvents, declaredNames_source declares clauses around]
  | .await awaited, around => by
      simp [Expr.scopeEvents, awaited.declaredNames_scopeEvents declares around]
  | .yield value, around => by
      simp [Expr.scopeEvents, declaredNames_option declares value around]
  | .yieldFrom source, around => by
      simp [Expr.scopeEvents, source.declaredNames_scopeEvents declares around]
  | .call callee positional named, around => by
      simp [Expr.scopeEvents, callee.declaredNames_scopeEvents declares around,
        declaredNames_exprs declares positional around, declaredNames_named declares named around]
  | .formatted pieces, around => by
      simp [Expr.scopeEvents, declaredNames_pieces declares pieces around]
  | .attribute object _, around => by
      simp [Expr.scopeEvents, object.declaredNames_scopeEvents declares around]
  | .subscript object index, around => by
      simp [Expr.scopeEvents, object.declaredNames_scopeEvents declares around,
        index.declaredNames_scopeEvents declares around]
  | .starred value, around => by
      simp [Expr.scopeEvents, value.declaredNames_scopeEvents declares around]
  | .slice lower upper step, around => by
      simp [Expr.scopeEvents, declaredNames_option declares lower around,
        declaredNames_option declares upper around, declaredNames_option declares step around]
  | .walrus target value, around => by
      simp [Expr.scopeEvents, value.declaredNames_scopeEvents declares around]

theorem declaredNames_exprs (declares : role.IsDeclaration) :
    ∀ (expressions : List Expr) (around : Surroundings),
    declaredNames role (exprsScopeEvents around expressions) = []
  | [], _ => rfl
  | first :: rest, around => by
      simp [exprsScopeEvents, first.declaredNames_scopeEvents declares around,
        declaredNames_exprs declares rest around]

theorem declaredNames_option (declares : role.IsDeclaration) :
    ∀ (expression : Option Expr) (around : Surroundings),
    declaredNames role (optionScopeEvents around expression) = []
  | none, _ => rfl
  | some expression, around => expression.declaredNames_scopeEvents declares around

theorem declaredNames_entries (declares : role.IsDeclaration) :
    ∀ (entries : List DictEntry) (around : Surroundings),
    declaredNames role (entriesScopeEvents around entries) = []
  | [], _ => rfl
  | .pair key value :: rest, around => by
      simp [entriesScopeEvents, DictEntry.scopeEvents,
        key.declaredNames_scopeEvents declares around,
        value.declaredNames_scopeEvents declares around, declaredNames_entries declares rest around]
  | .spread mapping :: rest, around => by
      simp [entriesScopeEvents, DictEntry.scopeEvents,
        mapping.declaredNames_scopeEvents declares around, declaredNames_entries declares rest around]

theorem declaredNames_named (declares : role.IsDeclaration) :
    ∀ (named : List NamedArgument) (around : Surroundings),
    declaredNames role (namedScopeEvents around named) = []
  | [], _ => rfl
  | .named _ value :: rest, around => by
      simp [namedScopeEvents, NamedArgument.scopeEvents,
        value.declaredNames_scopeEvents declares around, declaredNames_named declares rest around]
  | .spread mapping :: rest, around => by
      simp [namedScopeEvents, NamedArgument.scopeEvents,
        mapping.declaredNames_scopeEvents declares around, declaredNames_named declares rest around]

theorem declaredNames_pieces (declares : role.IsDeclaration) :
    ∀ (pieces : List Piece) (around : Surroundings),
    declaredNames role (piecesScopeEvents around pieces) = []
  | [], _ => rfl
  | .literal _ :: rest, around => by
      simp [piecesScopeEvents, Piece.scopeEvents, declaredNames_pieces declares rest around]
  | .value value _ format :: rest, around => by
      simp [piecesScopeEvents, Piece.scopeEvents, value.declaredNames_scopeEvents declares around,
        declaredNames_pieces declares format around, declaredNames_pieces declares rest around]

theorem declaredNames_source (declares : role.IsDeclaration) :
    ∀ (clauses : List Clause) (around : Surroundings),
    declaredNames role (sourceScopeEvents around clauses) = []
  | [], _ => rfl
  | .mk _ _ source _ :: _, around => source.declaredNames_scopeEvents declares around.source

theorem declaredNames_standards (declares : role.IsDeclaration) :
    ∀ (parameters : List Parameter) (around : Surroundings),
    declaredNames role (standardsScopeEvents around parameters) = []
  | [], _ => rfl
  | .mk _ _ _ standard :: rest, around => by
      simp [standardsScopeEvents, declaredNames_option declares standard around,
        declaredNames_standards declares rest around]

end

mutual

theorem Target.declaredNames_scopeEvents (declares : role.IsDeclaration) :
    ∀ (target : Target) (around : Surroundings),
    declaredNames role (target.scopeEvents around) = []
  | .name identifier, around => by simp [Target.scopeEvents, declares.ne]
  | .attribute object _, around => by
      simp [Target.scopeEvents, object.declaredNames_scopeEvents declares around]
  | .subscript object index, around => by
      simp [Target.scopeEvents, object.declaredNames_scopeEvents declares around,
        index.declaredNames_scopeEvents declares around]
  | .tuple items, around | .list items, around => by
      simp [Target.scopeEvents, declaredNames_targets declares items around]
  | .starred target, around => by
      simp [Target.scopeEvents, target.declaredNames_scopeEvents declares around]

theorem declaredNames_targets (declares : role.IsDeclaration) :
    ∀ (targets : List Target) (around : Surroundings),
    declaredNames role (targetsScopeEvents around targets) = []
  | [], _ => rfl
  | first :: rest, around => by
      simp [targetsScopeEvents, first.declaredNames_scopeEvents declares around,
        declaredNames_targets declares rest around]

end

theorem declaredNames_bind (declares : role.IsDeclaration) (name : Name) :
    declaredNames role [bindEvent name] = [] := by
  simp [bindEvent, declares.ne]

theorem declaredNames_bindOption (declares : role.IsDeclaration) (target : Option Name) :
    declaredNames role (bindOptionEvent target) = [] := by
  cases target with
  | none => rfl
  | some name => exact declaredNames_bind declares name

mutual

theorem Pattern.declaredNames_scopeEvents (declares : role.IsDeclaration) :
    ∀ pattern : Pattern, declaredNames role pattern.scopeEvents = []
  | .value expression => by
      simp [Pattern.scopeEvents, expression.declaredNames_scopeEvents declares .plain]
  | .singleton _ => by simp [Pattern.scopeEvents]
  | .sequence items | .alternatives items => by
      simp [Pattern.scopeEvents, declaredNames_patterns declares items]
  | .mapping keys patterns rest => by
      simp [Pattern.scopeEvents, declaredNames_exprs declares keys .plain,
        declaredNames_patterns declares patterns, declaredNames_bindOption declares rest]
  | .ofClass cls positional _ named => by
      simp [Pattern.scopeEvents, cls.declaredNames_scopeEvents declares .plain,
        declaredNames_patterns declares positional, declaredNames_patterns declares named]
  | .starred target | .capture target => by
      simp [Pattern.scopeEvents, declaredNames_bindOption declares target]
  | .bound pattern target => by
      simp [Pattern.scopeEvents, pattern.declaredNames_scopeEvents declares,
        declaredNames_bind declares target]

theorem declaredNames_patterns (declares : role.IsDeclaration) :
    ∀ patterns : List Pattern, declaredNames role (patternsScopeEvents patterns) = []
  | [] => rfl
  | first :: rest => by
      simp [patternsScopeEvents, first.declaredNames_scopeEvents declares,
        declaredNames_patterns declares rest]

end

theorem declaredNames_withItems (declares : role.IsDeclaration) (items : List WithItem) :
    declaredNames role (items.flatMap WithItem.scopeEvents) = [] := by
  induction items with
  | nil => rfl
  | cons first rest ih =>
      obtain ⟨context, target⟩ := first
      cases target with
      | none =>
          simp [WithItem.scopeEvents, context.declaredNames_scopeEvents declares .plain, ih]
      | some target =>
          simp [WithItem.scopeEvents, context.declaredNames_scopeEvents declares .plain,
            target.declaredNames_scopeEvents declares .plain, ih]

theorem declaredNames_aliases (declares : role.IsDeclaration) (aliases : List Alias) :
    declaredNames role (aliases.map Alias.scopeEvent) = [] := by
  induction aliases with
  | nil => rfl
  | cons first rest ih => simp [Alias.scopeEvent, declares.ne, ih]

theorem declaredNames_map_use {used : NameRole} (names : List Name) :
    declaredNames role (names.map fun name => .use used name .plain) =
      if used = role then names else [] := by
  induction names with
  | nil => simp
  | cons first rest ih =>
      rw [List.map_cons, declaredNames_use, ih]
      split <;> rfl

@[simp] theorem NameRole.isDeclaration_declaredGlobal : NameRole.declaredGlobal.IsDeclaration :=
  .inl rfl

attribute [simp] Expr.declaredNames_scopeEvents declaredNames_exprs declaredNames_option
  declaredNames_named declaredNames_standards Target.declaredNames_scopeEvents
  declaredNames_targets declaredNames_bind Pattern.declaredNames_scopeEvents
  declaredNames_bindOption declaredNames_withItems declaredNames_aliases declaredNames_map_use

section

variable {name : Name}

mutual

/-- A name that a statement declares global in its scope is one that it mentions so. -/
theorem Stmt.declare_mem_mentions : ∀ statement : Stmt,
    name ∈ declaredNames .declaredGlobal statement.scopeEvents → .declare name ∈ statement.mentions
  | .globalNames names => by simp [Stmt.scopeEvents, Stmt.mentions]
  | .nonlocalNames names => by simp [Stmt.scopeEvents]
  | .expression _ | .assign _ _ | .augment _ _ _ | .returnValue _ | .delete _ | .raise _ _
  | .assert _ _ | .pass | .breakLoop | .continueLoop | .importModules _ | .importNames _ _ _ => by
      simp [Stmt.scopeEvents]
  | .importAll _ _ => by simp [Stmt.scopeEvents, declaredNames]
  | .hinted target isSimple hint value => by
      cases target with
      | name identifier => cases isSimple <;> cases value <;> simp [Stmt.scopeEvents, bindEvent]
      | _ => simp [Stmt.scopeEvents]
  | .ifBlock test body otherwise | .whileLoop test body otherwise => by
      intro member
      have inside : name ∈ declaredNames .declaredGlobal (stmtsScopeEvents body) ∨
          name ∈ declaredNames .declaredGlobal (stmtsScopeEvents otherwise) := by
        simpa [Stmt.scopeEvents] using member
      rcases inside with inBody | inOtherwise
      · simp [Stmt.mentions, stmts_declare_mem_mentions body inBody]
      · simp [Stmt.mentions, stmts_declare_mem_mentions otherwise inOtherwise]
  | .forLoop _ target source body otherwise => by
      intro member
      have inside : name ∈ declaredNames .declaredGlobal (stmtsScopeEvents body) ∨
          name ∈ declaredNames .declaredGlobal (stmtsScopeEvents otherwise) := by
        simpa [Stmt.scopeEvents] using member
      rcases inside with inBody | inOtherwise
      · simp [Stmt.mentions, stmts_declare_mem_mentions body inBody]
      · simp [Stmt.mentions, stmts_declare_mem_mentions otherwise inOtherwise]
  | .tryBlock _ body handlers otherwise always => by
      intro member
      have inside : name ∈ declaredNames .declaredGlobal (stmtsScopeEvents body) ∨
          name ∈ declaredNames .declaredGlobal (stmtsScopeEvents otherwise) ∨
          name ∈ declaredNames .declaredGlobal (handlersScopeEvents handlers) ∨
          name ∈ declaredNames .declaredGlobal (stmtsScopeEvents always) := by
        simpa [Stmt.scopeEvents, or_assoc] using member
      rcases inside with inBody | inOtherwise | inHandlers | inAlways
      · simp [Stmt.mentions, stmts_declare_mem_mentions body inBody]
      · simp [Stmt.mentions, stmts_declare_mem_mentions otherwise inOtherwise]
      · simp [Stmt.mentions, handlers_declare_mem_mentions handlers inHandlers]
      · simp [Stmt.mentions, stmts_declare_mem_mentions always inAlways]
  | .withBlock _ items body => by
      intro member
      have inBody : name ∈ declaredNames .declaredGlobal (stmtsScopeEvents body) := by
        simpa [Stmt.scopeEvents] using member
      simp [Stmt.mentions, stmts_declare_mem_mentions body inBody]
  | .matchBlock subject cases => by
      intro member
      have inCases : name ∈ declaredNames .declaredGlobal (casesScopeEvents cases) := by
        simpa [Stmt.scopeEvents] using member
      simp [Stmt.mentions, cases_declare_mem_mentions cases inCases]
  -- What is declared inside a function or a class is declared in a scope of its own.
  | .functionDef _ _ parameters hint decorators body => by simp [Stmt.scopeEvents, bindEvent]
  | .classDef _ bases named decorators body => by simp [Stmt.scopeEvents, bindEvent]

theorem stmts_declare_mem_mentions : ∀ statements : List Stmt,
    name ∈ declaredNames .declaredGlobal (stmtsScopeEvents statements) →
      .declare name ∈ stmtsMentions statements
  | [] => by simp [stmtsScopeEvents]
  | first :: rest => by
      rw [stmtsScopeEvents, stmtsMentions, declaredNames_append, List.mem_append, List.mem_append]
      exact Or.imp first.declare_mem_mentions (stmts_declare_mem_mentions rest)

theorem handlers_declare_mem_mentions : ∀ handlers : List Handler,
    name ∈ declaredNames .declaredGlobal (handlersScopeEvents handlers) →
      .declare name ∈ handlersMentions handlers
  | [] => by simp [handlersScopeEvents]
  | .mk kind target body :: rest => by
      intro member
      have inside : name ∈ declaredNames .declaredGlobal (stmtsScopeEvents body) ∨
          name ∈ declaredNames .declaredGlobal (handlersScopeEvents rest) := by
        simpa [handlersScopeEvents, Handler.scopeEvents] using member
      rcases inside with inBody | inRest
      · simp [handlersMentions, Handler.mentions, stmts_declare_mem_mentions body inBody]
      · simp [handlersMentions, handlers_declare_mem_mentions rest inRest]

theorem cases_declare_mem_mentions : ∀ cases : List MatchCase,
    name ∈ declaredNames .declaredGlobal (casesScopeEvents cases) →
      .declare name ∈ casesMentions cases
  | [] => by simp [casesScopeEvents]
  | .mk pattern guard body :: rest => by
      intro member
      have inside : name ∈ declaredNames .declaredGlobal (stmtsScopeEvents body) ∨
          name ∈ declaredNames .declaredGlobal (casesScopeEvents rest) := by
        simpa [casesScopeEvents, MatchCase.scopeEvents] using member
      rcases inside with inBody | inRest
      · simp [casesMentions, MatchCase.mentions, stmts_declare_mem_mentions body inBody]
      · simp [casesMentions, cases_declare_mem_mentions rest inRest]

end

end

end Stencil.Script
