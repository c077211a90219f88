import Stencil.Script.Scope

/-! # Names that a scope binds

What a scope binds, it mentions as bound: the names that live in a function, in a comprehension or in
a class are among those that its parts bind (`Stencil.Script.BindsAmong.ownNames`). Assignments inside the
expressions of a comprehension count for the scope around it, whose parts mention them as well.
-/

namespace Stencil.Script

/-- Every name that some events bind is mentioned as bound. -/
def BindsAmong (events : List ScopeEvent) (mentions : List Mention) : Prop :=
  ∀ name ∈ statedNames events ++ walrusNames events, .bind name ∈ mentions

variable {events more : List ScopeEvent} {mentions others : List Mention} {name : Name}
  {around : Surroundings}

theorem statedNames_append : statedNames (events ++ more) = statedNames events ++ statedNames more :=
  List.filterMap_append

theorem walrusNames_append : walrusNames (events ++ more) = walrusNames events ++ walrusNames more := by
  induction events with
  | nil => rfl
  | cons event events ih => rw [List.cons_append, walrusNames, walrusNames, ih, List.append_assoc]

namespace BindsAmong

theorem nil : BindsAmong [] mentions := fun _ member => nomatch member

theorem mono (binds : BindsAmong events mentions) (subset : mentions ⊆ others) :
    BindsAmong events others := fun name member => subset (binds name member)

theorem both (first : BindsAmong events mentions) (second : BindsAmong more mentions) :
    BindsAmong (events ++ more) mentions := by
  intro name member
  rw [statedNames_append, walrusNames_append] at member
  simp only [List.mem_append] at member
  rcases member with (stated | stated) | walrus | walrus
  · exact first name (List.mem_append_left _ stated)
  · exact second name (List.mem_append_left _ stated)
  · exact first name (List.mem_append_right _ walrus)
  · exact second name (List.mem_append_right _ walrus)

theorem append (first : BindsAmong events mentions) (second : BindsAmong more others) :
    BindsAmong (events ++ more) (mentions ++ others) :=
  (first.mono (List.subset_append_left _ _)).both (second.mono (List.subset_append_right _ _))

/-- An event that binds no name. -/
theorem single {event : ScopeEvent} (none : statedNames [event] = [] ∧ event.walrusNames = []) :
    BindsAmong [event] mentions := by
  intro name member
  rw [none.1, walrusNames, none.2] at member
  cases member

/-- An event that binds a name which is mentioned. -/
theorem use {role : NameRole} (mentioned : .bind name ∈ mentions) :
    BindsAmong [.use role name around] mentions := by
  intro other member
  have stated := (List.mem_append.mp member).resolve_right (List.not_mem_nil)
  have isName : other = name := by
    cases role with
    | bind | imported | parameter | hinted => exact List.mem_singleton.mp stated
    | read | declaredGlobal | declaredNonlocal => cases stated
  exact isName ▸ mentioned

theorem walrus (mentioned : .bind name ∈ mentions) : BindsAmong [.walrus name around] mentions :=
  fun _ member => List.mem_singleton.mp member ▸ mentioned

/-- What is assigned inside the expressions of a comprehension or of hints is bound around them. -/
theorem opens {kind : ScopeKind} (binds : BindsAmong events mentions) :
    BindsAmong [.opens (.mk kind events)] mentions := by
  intro name member
  rw [List.mem_append, walrusNames, walrusNames, List.append_nil] at member
  have walrus := member.resolve_left (List.not_mem_nil)
  refine binds name (List.mem_append_right _ ?_)
  cases kind with
  | comprehension | hint => exact walrus
  | program | function | lambda | ofClass => cases walrus

/-- **The names that live in a scope** are mentioned as bound. -/
theorem ownNames {kind : ScopeKind} (binds : BindsAmong events mentions) :
    ∀ name ∈ (Scope.mk kind events).ownNames, .bind name ∈ mentions := by
  intro name member
  unfold Scope.ownNames at member
  rw [List.mem_eraseDups] at member
  have isBound := (List.mem_filter.mp member).1
  refine binds name ?_
  cases kind with
  | comprehension => exact List.mem_append_left _ isBound
  | program | function | lambda | ofClass | hint => exact isBound

end BindsAmong

theorem bindsAmong_parameters : ∀ parameters : List Parameter,
    BindsAmong (parameterScopeEvents parameters) (parametersMentions parameters)
  | [] => .nil
  | .mk _ name hint standard :: rest =>
      have first : BindsAmong [.use .parameter name .plain]
          (.bind name :: (optionMentions hint ++ optionMentions standard)) := .use List.mem_cons_self
      first.append (bindsAmong_parameters rest)

mutual

theorem Expr.bindsAmong : ∀ (expression : Expr) (around : Surroundings),
    BindsAmong (expression.scopeEvents around) expression.mentions
  | .name identifier, around => by
      unfold Expr.scopeEvents
      split
      · exact .nil
      · exact .single ⟨rfl, rfl⟩
  | .constant _, _ => .nil
  | .unary _ operand, around => operand.bindsAmong around
  | .binary _ left right, around => (left.bindsAmong around).append (right.bindsAmong around)
  | .connected _ operands, around => bindsAmong_exprs operands around
  | .compared first _ others, around =>
      (first.bindsAmong around).append (bindsAmong_exprs others around)
  | .conditional test whenTrue whenFalse, around =>
      ((test.bindsAmong around).append (whenTrue.bindsAmong around)).append
        (whenFalse.bindsAmong around)
  | .lambda parameters _, around =>
      ((bindsAmong_standards parameters around).mono (List.subset_append_left _ _)).both
        (.single ⟨rfl, rfl⟩)
  | .tuple items, around | .list items, around | .set items, around => bindsAmong_exprs items around
  | .dict entries, around => bindsAmong_entries entries around
  | .comprehension _ element clauses, around => by
      have inside := ((bindsAmong_clauses clauses true around.inner).mono
        (List.subset_append_right element.mentions _)).both
          ((element.bindsAmong around.inner).mono (List.subset_append_left _ _))
      exact ((bindsAmong_source clauses around).mono (List.subset_append_right _ _)).both inside.opens
  | .dictComprehension key value clauses, around => by
      have elements := List.subset_append_left (key.mentions ++ value.mentions) (clausesMentions clauses)
      have found := List.subset_append_right (key.mentions ++ value.mentions) (clausesMentions clauses)
      have inside := (((bindsAmong_clauses clauses true around.inner).mono found).both
        ((value.bindsAmong around.inner).mono
          (List.Subset.trans (List.subset_append_right _ _) elements))).both
          ((key.bindsAmong around.inner).mono
            (List.Subset.trans (List.subset_append_left _ _) elements))
      exact ((bindsAmong_source clauses around).mono found).both inside.opens
  | .await awaited, around => (awaited.bindsAmong around).both (.single ⟨rfl, rfl⟩)
  | .yield value, around => (bindsAmong_option value around).both (.single ⟨rfl, rfl⟩)
  | .yieldFrom source, around => (source.bindsAmong around).both (.single ⟨rfl, rfl⟩)
  | .call callee positional named, around =>
      ((callee.bindsAmong around).append (bindsAmong_exprs positional around)).append
        (bindsAmong_named named around)
  | .formatted pieces, around => bindsAmong_pieces pieces around
  | .attribute object _, around => object.bindsAmong around
  | .subscript object index, around => (object.bindsAmong around).append (index.bindsAmong around)
  | .starred value, around => value.bindsAmong around
  | .slice lower upper step, around =>
      ((bindsAmong_option lower around).append (bindsAmong_option upper around)).append
        (bindsAmong_option step around)
  | .walrus _ value, around =>
      (BindsAmong.walrus List.mem_cons_self).both
        (((value.bindsAmong around).mono (List.subset_cons_self _ _)).both (.single ⟨rfl, rfl⟩))

theorem bindsAmong_exprs : ∀ (expressions : List Expr) (around : Surroundings),
    BindsAmong (exprsScopeEvents around expressions) (exprsMentions expressions)
  | [], _ => .nil
  | first :: rest, around => (first.bindsAmong around).append (bindsAmong_exprs rest around)

theorem bindsAmong_option : ∀ (expression : Option Expr) (around : Surroundings),
    BindsAmong (optionScopeEvents around expression) (optionMentions expression)
  | none, _ => .nil
  | some expression, around => expression.bindsAmong around

theorem bindsAmong_entries : ∀ (entries : List DictEntry) (around : Surroundings),
    BindsAmong (entriesScopeEvents around entries) (entriesMentions entries)
  | [], _ => .nil
  | .pair key value :: rest, around =>
      ((key.bindsAmong around).append (value.bindsAmong around)).append (bindsAmong_entries rest around)
  | .spread mapping :: rest, around =>
      (mapping.bindsAmong around).append (bindsAmong_entries rest around)

theorem bindsAmong_named : ∀ (named : List NamedArgument) (around : Surroundings),
    BindsAmong (namedScopeEvents around named) (namedMentions named)
  | [], _ => .nil
  | .named _ value :: rest, around => (value.bindsAmong around).append (bindsAmong_named rest around)
  | .spread mapping :: rest, around => (mapping.bindsAmong around).append (bindsAmong_named rest around)

theorem bindsAmong_pieces : ∀ (pieces : List Piece) (around : Surroundings),
    BindsAmong (piecesScopeEvents around pieces) (piecesMentions pieces)
  | [], _ => .nil
  | .literal _ :: rest, around => bindsAmong_pieces rest around
  | .value value _ format :: rest, around =>
      ((value.bindsAmong around).append (bindsAmong_pieces format around)).append
        (bindsAmong_pieces rest around)

theorem bindsAmong_source : ∀ (clauses : List Clause) (around : Surroundings),
    BindsAmong (sourceScopeEvents around clauses) (clausesMentions clauses)
  | [], _ => .nil
  | .mk _ _ source _ :: _, around =>
      (source.bindsAmong around.source).mono fun _ member => List.mem_append_left _
        (List.mem_append_left _ (List.mem_append_right _ member))

theorem bindsAmong_clauses : ∀ (clauses : List Clause) (isFirst : Bool) (around : Surroundings),
    BindsAmong (clausesScopeEvents isFirst around clauses) (clausesMentions clauses)
  | [], _, _ => .nil
  | .mk isAsync target source tests :: rest, isFirst, around => by
      refine BindsAmong.append ?_ (bindsAmong_clauses rest false around)
      refine BindsAmong.both (((target.bindsAmong around.target).append ?_).append
        (bindsAmong_exprs tests around)) ?_
      · split
        · exact BindsAmong.nil.mono (List.nil_subset _)
        · exact source.bindsAmong around.source
      · split
        · exact .single ⟨rfl, rfl⟩
        · exact BindsAmong.nil.mono (List.nil_subset _)

theorem bindsAmong_standards : ∀ (parameters : List Parameter) (around : Surroundings),
    BindsAmong (standardsScopeEvents around parameters) (parametersMentions parameters)
  | [], _ => .nil
  | .mk _ _ _ standard :: rest, around =>
      ((bindsAmong_option standard around).mono fun _ member => List.mem_cons_of_mem _
        (List.mem_append_right _ member)).append (bindsAmong_standards rest around)

theorem bindsAmong_hints : ∀ (parameters : List Parameter) (around : Surroundings),
    BindsAmong (hintsScopeEvents around parameters) (parametersMentions parameters)
  | [], _ => .nil
  | .mk _ _ hint _ :: rest, around =>
      ((bindsAmong_option hint around).mono fun _ member => List.mem_cons_of_mem _
        (List.mem_append_left _ member)).append (bindsAmong_hints rest around)

theorem Target.bindsAmong : ∀ (target : Target) (around : Surroundings),
    BindsAmong (target.scopeEvents around) target.mentions
  | .name _, _ => .use List.mem_cons_self
  | .attribute object _, around => object.bindsAmong around
  | .subscript object index, around => (object.bindsAmong around).append (index.bindsAmong around)
  | .tuple items, around | .list items, around => bindsAmong_targets items around
  | .starred target, around => target.bindsAmong around

theorem bindsAmong_targets : ∀ (targets : List Target) (around : Surroundings),
    BindsAmong (targetsScopeEvents around targets) (targetsMentions targets)
  | [], _ => .nil
  | first :: rest, around => (first.bindsAmong around).append (bindsAmong_targets rest around)

end

theorem bindsAmong_bindOptionEvent : ∀ target : Option Name,
    BindsAmong (bindOptionEvent target) (bindOption target)
  | none => .nil
  | some _ => .use List.mem_cons_self

mutual

theorem Pattern.bindsAmong : ∀ pattern : Pattern, BindsAmong pattern.scopeEvents pattern.mentions
  | .value expression => expression.bindsAmong .plain
  | .singleton _ => .nil
  | .sequence items | .alternatives items => bindsAmong_patterns items
  | .mapping keys patterns rest =>
      ((bindsAmong_exprs keys .plain).append (bindsAmong_patterns patterns)).append
        (bindsAmong_bindOptionEvent rest)
  | .ofClass cls positional _ named =>
      ((cls.bindsAmong .plain).append (bindsAmong_patterns positional)).append
        (bindsAmong_patterns named)
  | .starred target | .capture target => bindsAmong_bindOptionEvent target
  | .bound pattern _ =>
      (pattern.bindsAmong.mono (List.subset_cons_self _ _)).both (.use List.mem_cons_self)

theorem bindsAmong_patterns : ∀ patterns : List Pattern,
    BindsAmong (patternsScopeEvents patterns) (patternsMentions patterns)
  | [] => .nil
  | first :: rest => first.bindsAmong.append (bindsAmong_patterns rest)

end

theorem WithItem.bindsAmong : ∀ item : WithItem, BindsAmong item.scopeEvents item.mentions
  | .mk context none => (context.bindsAmong .plain).append .nil
  | .mk context (some target) => (context.bindsAmong .plain).append (target.bindsAmong .plain)

theorem bindsAmong_withItems (items : List WithItem) :
    BindsAmong (items.flatMap WithItem.scopeEvents) (items.flatMap WithItem.mentions) := by
  induction items with
  | nil => exact .nil
  | cons first items ih => exact first.bindsAmong.append ih

theorem bindsAmong_aliases (aliases : List Alias) :
    BindsAmong (aliases.map Alias.scopeEvent) (aliases.map fun imported => .bind imported.boundName) := by
  induction aliases with
  | nil => exact .nil
  | cons first aliases ih => exact (BindsAmong.use (List.mem_singleton_self _)).append ih

/-- Names that are declared are not bound by it. -/
theorem bindsAmong_declarations {role : NameRole} (declares : ∀ name, statedNames
      [.use role name .plain] = []) (names : List Name) :
    BindsAmong (names.map fun name => .use role name .plain) mentions := by
  induction names with
  | nil => exact BindsAmong.nil.mono (List.nil_subset _)
  | cons name names ih => exact (BindsAmong.single ⟨declares name, rfl⟩).both ih

mutual

theorem Stmt.bindsAmong : ∀ statement : Stmt, BindsAmong statement.scopeEvents statement.mentions
  | .expression value => value.bindsAmong .plain
  | .assign targets value => (bindsAmong_targets targets .plain).append (value.bindsAmong .plain)
  | .augment target _ value =>
      ((target.bindsAmong .plain).mono (List.subset_append_right _ _)).append (value.bindsAmong .plain)
  | .hinted target isSimple hint value => by
      refine BindsAmong.append (BindsAmong.append ?_ (hint.bindsAmong .plain).opens)
        (bindsAmong_option value .plain)
      match target with
      | .name identifier =>
          refine BindsAmong.both ?_ ?_
          · split
            · exact .use List.mem_cons_self
            · exact BindsAmong.nil.mono (List.nil_subset _)
          · split
            · exact .use List.mem_cons_self
            · exact BindsAmong.nil.mono (List.nil_subset _)
      | .attribute _ _ | .subscript _ _ | .tuple _ | .list _ | .starred _ =>
          exact Target.bindsAmong _ .plain
  | .returnValue value => bindsAmong_option value .plain
  | .delete targets => bindsAmong_targets targets .plain
  | .raise exception cause =>
      (bindsAmong_option exception .plain).append (bindsAmong_option cause .plain)
  | .assert test message => (test.bindsAmong .plain).append (bindsAmong_option message .plain)
  | .pass | .breakLoop | .continueLoop => .nil
  | .importModules aliases | .importNames _ _ aliases => bindsAmong_aliases aliases
  | .importAll _ _ => .single ⟨rfl, rfl⟩
  | .globalNames names | .nonlocalNames names => bindsAmong_declarations (fun _ => rfl) names
  | .ifBlock test body otherwise | .whileLoop test body otherwise =>
      ((test.bindsAmong .plain).append (bindsAmong_stmts body)).append (bindsAmong_stmts otherwise)
  | .forLoop _ target source body otherwise =>
      (((target.bindsAmong .plain).append (source.bindsAmong .plain)).append
        (bindsAmong_stmts body)).append (bindsAmong_stmts otherwise)
  | .tryBlock _ body handlers otherwise always => by
      have inBody := bindsAmong_stmts body
      have inHandlers := bindsAmong_handlers handlers
      have inOtherwise := bindsAmong_stmts otherwise
      refine BindsAmong.append ?_ (bindsAmong_stmts always)
      refine BindsAmong.both (BindsAmong.both (inBody.mono ?_) (inOtherwise.mono ?_))
        (inHandlers.mono ?_)
      · exact List.Subset.trans (List.subset_append_left _ _) (List.subset_append_left _ _)
      · exact List.subset_append_right _ _
      · exact List.Subset.trans (List.subset_append_right _ _) (List.subset_append_left _ _)
  | .withBlock _ items body => (bindsAmong_withItems items).append (bindsAmong_stmts body)
  | .matchBlock subject cases => (subject.bindsAmong .plain).append (bindsAmong_cases cases)
  | .functionDef isAsync name parameters hint decorators body => by
      have hints : BindsAmong ([.opens (.mk .hint (hintsScopeEvents .plain parameters))] ++
          [.opens (.mk .hint (optionScopeEvents .plain hint))])
          (parametersMentions parameters ++ optionMentions hint) :=
        (bindsAmong_hints parameters .plain).opens.append (bindsAmong_option hint .plain).opens
      have header := (((bindsAmong_standards parameters .plain).mono
        (List.subset_append_left _ _)).both hints).append (bindsAmong_exprs decorators .plain)
      have inside : BindsAmong [.opens (.mk (.function isAsync)
          (parameterScopeEvents parameters ++ stmtsScopeEvents body))] (stmtsMentions body) :=
        .single ⟨rfl, rfl⟩
      exact (BindsAmong.use List.mem_cons_self).both
        ((header.append inside).mono (List.subset_cons_self _ _))
  | .classDef name bases named decorators body => by
      have header := ((bindsAmong_exprs bases .plain).append (bindsAmong_named named .plain)).append
        (bindsAmong_exprs decorators .plain)
      have inside : BindsAmong [.opens (.mk (.ofClass name) (stmtsScopeEvents body))]
          (stmtsMentions body) := .single ⟨rfl, rfl⟩
      exact (BindsAmong.use List.mem_cons_self).both
        ((header.append inside).mono (List.subset_cons_self _ _))

theorem bindsAmong_stmts : ∀ statements : List Stmt,
    BindsAmong (stmtsScopeEvents statements) (stmtsMentions statements)
  | [] => .nil
  | first :: rest => first.bindsAmong.append (bindsAmong_stmts rest)

theorem bindsAmong_handlers : ∀ handlers : List Handler,
    BindsAmong (handlersScopeEvents handlers) (handlersMentions handlers)
  | [] => .nil
  | .mk kind name body :: rest =>
      (((bindsAmong_option kind .plain).append (bindsAmong_bindOptionEvent name)).append
        (bindsAmong_stmts body)).append (bindsAmong_handlers rest)

theorem bindsAmong_cases : ∀ cases : List MatchCase,
    BindsAmong (casesScopeEvents cases) (casesMentions cases)
  | [] => .nil
  | .mk pattern guard body :: rest =>
      ((pattern.bindsAmong.append (bindsAmong_option guard .plain)).append
        (bindsAmong_stmts body)).append (bindsAmong_cases rest)

end

end Stencil.Script
