import Stencil.Proofs.Script.BoundNames
import Stencil.Proofs.Script.NameResolution
import Stencil.Proofs.Source.FrameLines

/-! # Names that a function reads from the program

The names of a template are gathered without regard to scopes. What is gathered encloses what the
rules for scopes say (`Stencil.Script.programReads_between`): a free name is read from the program,
and a name that is read from the program is referenced. For this, the reads of every part of a
program are those that it mentions, in scopes that bind nothing but what it mentions as bound
(`Stencil.Script.ReadsOf`).
-/

namespace Stencil.Script

/-- Some reads are those that some mentions tell of. They stand in known scopes, and in scopes that
bind nothing but what is mentioned as bound. -/
structure ReadsOf (scopes : List Scope) (readings : List Reading) (mentions : List Mention) : Prop where
  read_iff : ∀ name, .read name ∈ mentions ↔ ∃ reading ∈ readings, reading.name = name
  known : ∀ reading ∈ readings, ∀ scope ∈ reading.scopes,
    scope ∈ scopes ∨ ∀ name ∈ scope.ownNames, .bind name ∈ mentions

variable {scopes : List Scope} {scope : Scope} {readings more : List Reading}
  {mentions others : List Mention} {name : Name}

namespace ReadsOf

theorem none (unread : ∀ name, .read name ∉ mentions) : ReadsOf scopes [] mentions where
  read_iff name := ⟨fun member => (unread name member).elim, fun ⟨_, member, _⟩ => nomatch member⟩
  known _ member := nomatch member

theorem nil : ReadsOf scopes [] [] := none fun _ member => nomatch member

theorem read : ReadsOf scopes [⟨name, scopes⟩] [.read name] where
  read_iff other := by simp [eq_comm]
  known reading member scope inside := by
    rw [List.mem_singleton.mp member] at inside
    exact .inl inside

theorem append (first : ReadsOf scopes readings mentions) (second : ReadsOf scopes more others) :
    ReadsOf scopes (readings ++ more) (mentions ++ others) where
  read_iff name := by
    simp only [List.mem_append, first.read_iff, second.read_iff, or_and_right, exists_or]
  known reading member scope inside := by
    rcases List.mem_append.mp member with member | member
    · exact (first.known reading member scope inside).imp_right fun binds name own =>
        List.mem_append_left _ (binds name own)
    · exact (second.known reading member scope inside).imp_right fun binds name own =>
        List.mem_append_right _ (binds name own)

/-- A name that is bound in front of the reads. -/
theorem bind (reads : ReadsOf scopes readings mentions) :
    ReadsOf scopes readings (.bind name :: mentions) where
  read_iff other := by simp [reads.read_iff other]
  known reading member scope inside :=
    (reads.known reading member scope inside).imp_right fun binds other own =>
      List.mem_cons_of_mem _ (binds other own)

theorem mono {further : List Scope} (reads : ReadsOf scopes readings mentions)
    (subset : scopes ⊆ further) : ReadsOf further readings mentions where
  read_iff := reads.read_iff
  known reading member inner inside :=
    (reads.known reading member inner inside).imp_left fun isKnown => subset isKnown

/-- **A scope that binds what is mentioned** need not be known. -/
theorem leave (reads : ReadsOf (scope :: scopes) readings mentions)
    (binds : ∀ name ∈ scope.ownNames, .bind name ∈ mentions) : ReadsOf scopes readings mentions where
  read_iff := reads.read_iff
  known reading member inner inside := by
    rcases reads.known reading member inner inside with isKnown | isBound
    · rcases List.mem_cons.mp isKnown with rfl | isKnown
      · exact .inr binds
      · exact .inl isKnown
    · exact .inr isBound

end ReadsOf

theorem readsOf_bindOption : ∀ target : Option Name, ReadsOf scopes [] (bindOption target)
  | .none => .nil
  | some _ => .bind .nil

mutual

/-- **The reads of an expression are mentioned.** -/
theorem Expr.readsOf : ∀ (expression : Expr) (scopes : List Scope),
    ReadsOf scopes (expression.readings scopes) expression.mentions
  | .name _, _ => .read
  | .constant _, _ => .nil
  | .unary _ operand, scopes => operand.readsOf scopes
  | .binary _ left right, scopes => (left.readsOf scopes).append (right.readsOf scopes)
  | .connected _ operands, scopes => readsOf_exprs operands scopes
  | .compared first _ others, scopes => (first.readsOf scopes).append (readsOf_exprs others scopes)
  | .conditional test whenTrue whenFalse, scopes =>
      ((test.readsOf scopes).append (whenTrue.readsOf scopes)).append (whenFalse.readsOf scopes)
  | .lambda parameters body, scopes =>
      (((readsOf_parameters parameters scopes).mono (List.subset_cons_self _ _)).append
        (body.readsOf _)).leave
        ((bindsAmong_parameters parameters).append (body.bindsAmong .plain)).ownNames
  | .tuple items, scopes | .list items, scopes | .set items, scopes => readsOf_exprs items scopes
  | .dict entries, scopes => readsOf_entries entries scopes
  | .comprehension _ element clauses, scopes => by
      have elements := (bindsAmong_exprs [element] .plain).mono
        (List.append_subset.mpr ⟨List.subset_append_left element.mentions (clausesMentions clauses),
          List.nil_subset _⟩)
      have binds := ((bindsAmong_clauses clauses true .plain).mono
        (List.subset_append_right element.mentions _)).both elements
      exact ((element.readsOf _).append
        (readsOf_clauses clauses scopes _ (List.subset_cons_self _ _))).leave binds.ownNames
  | .dictComprehension key value clauses, scopes => by
      have elements := (bindsAmong_exprs [key, value] .plain).mono
        (List.append_subset.mpr ⟨List.subset_append_left key.mentions _,
          List.append_subset.mpr ⟨List.subset_append_right _ value.mentions, List.nil_subset _⟩⟩)
      have binds := ((bindsAmong_clauses clauses true .plain).mono
        (List.subset_append_right (key.mentions ++ value.mentions) _)).both
          (elements.mono (List.subset_append_left _ _))
      exact (((key.readsOf _).append (value.readsOf _)).append
        (readsOf_clauses clauses scopes _ (List.subset_cons_self _ _))).leave binds.ownNames
  | .await awaited, scopes => awaited.readsOf scopes
  | .yield value, scopes => readsOf_option value scopes
  | .yieldFrom source, scopes => source.readsOf scopes
  | .call callee positional named, scopes =>
      ((callee.readsOf scopes).append (readsOf_exprs positional scopes)).append
        (readsOf_named named scopes)
  | .formatted pieces, scopes => readsOf_pieces pieces scopes
  | .attribute object _, scopes => object.readsOf scopes
  | .subscript object index, scopes => (object.readsOf scopes).append (index.readsOf scopes)
  | .starred value, scopes => value.readsOf scopes
  | .slice lower upper step, scopes =>
      ((readsOf_option lower scopes).append (readsOf_option upper scopes)).append
        (readsOf_option step scopes)
  | .walrus _ value, scopes => (value.readsOf scopes).bind

theorem readsOf_exprs : ∀ (expressions : List Expr) (scopes : List Scope),
    ReadsOf scopes (exprsReadings scopes expressions) (exprsMentions expressions)
  | [], _ => .nil
  | first :: rest, scopes => (first.readsOf scopes).append (readsOf_exprs rest scopes)

theorem readsOf_option : ∀ (expression : Option Expr) (scopes : List Scope),
    ReadsOf scopes (optionReadings scopes expression) (optionMentions expression)
  | .none, _ => .nil
  | some expression, scopes => expression.readsOf scopes

theorem readsOf_entries : ∀ (entries : List DictEntry) (scopes : List Scope),
    ReadsOf scopes (entriesReadings scopes entries) (entriesMentions entries)
  | [], _ => .nil
  | .pair key value :: rest, scopes =>
      ((key.readsOf scopes).append (value.readsOf scopes)).append (readsOf_entries rest scopes)
  | .spread mapping :: rest, scopes => (mapping.readsOf scopes).append (readsOf_entries rest scopes)

theorem readsOf_named : ∀ (named : List NamedArgument) (scopes : List Scope),
    ReadsOf scopes (namedReadings scopes named) (namedMentions named)
  | [], _ => .nil
  | .named _ value :: rest, scopes => (value.readsOf scopes).append (readsOf_named rest scopes)
  | .spread mapping :: rest, scopes => (mapping.readsOf scopes).append (readsOf_named rest scopes)

theorem readsOf_pieces : ∀ (pieces : List Piece) (scopes : List Scope),
    ReadsOf scopes (piecesReadings scopes pieces) (piecesMentions pieces)
  | [], _ => .nil
  | .literal _ :: rest, scopes => readsOf_pieces rest scopes
  | .value value _ format :: rest, scopes =>
      ((value.readsOf scopes).append (readsOf_pieces format scopes)).append
        (readsOf_pieces rest scopes)

theorem readsOf_clauses : ∀ (clauses : List Clause) (outer inner : List Scope),
    outer ⊆ inner → ReadsOf inner (clausesReadings outer inner clauses) (clausesMentions clauses)
  | [], _, _, _ => .nil
  | .mk _ target source tests :: rest, outer, inner, subset =>
      (((target.readsOf inner).append ((source.readsOf outer).mono subset)).append
        (readsOf_exprs tests inner)).append (readsOf_clauses rest inner inner (List.Subset.refl _))

theorem readsOf_parameters : ∀ (parameters : List Parameter) (scopes : List Scope),
    ReadsOf scopes (parametersReadings scopes parameters) (parametersMentions parameters)
  | [], _ => .nil
  | .mk _ _ hint standard :: rest, scopes =>
      ((readsOf_option hint scopes).append (readsOf_option standard scopes)).bind.append
        (readsOf_parameters rest scopes)

theorem Target.readsOf : ∀ (target : Target) (scopes : List Scope),
    ReadsOf scopes (target.readings scopes) target.mentions
  | .name _, _ => .bind .nil
  | .attribute object _, scopes => object.readsOf scopes
  | .subscript object index, scopes => (object.readsOf scopes).append (index.readsOf scopes)
  | .tuple items, scopes | .list items, scopes => readsOf_targets items scopes
  | .starred target, scopes => target.readsOf scopes

theorem readsOf_targets : ∀ (targets : List Target) (scopes : List Scope),
    ReadsOf scopes (targetsReadings scopes targets) (targetsMentions targets)
  | [], _ => .nil
  | first :: rest, scopes => (first.readsOf scopes).append (readsOf_targets rest scopes)

end

mutual

theorem Pattern.readsOf : ∀ (pattern : Pattern) (scopes : List Scope),
    ReadsOf scopes (pattern.readings scopes) pattern.mentions
  | .value expression, scopes => expression.readsOf scopes
  | .singleton _, _ => .nil
  | .sequence items, scopes | .alternatives items, scopes => readsOf_patterns items scopes
  | .mapping keys patterns rest, scopes => by
      have reads := ((readsOf_exprs keys scopes).append (readsOf_patterns patterns scopes)).append
        (readsOf_bindOption rest)
      rwa [List.append_nil] at reads
  | .ofClass cls positional _ named, scopes =>
      ((cls.readsOf scopes).append (readsOf_patterns positional scopes)).append
        (readsOf_patterns named scopes)
  | .starred target, _ | .capture target, _ => readsOf_bindOption target
  | .bound pattern _, scopes => (pattern.readsOf scopes).bind

theorem readsOf_patterns : ∀ (patterns : List Pattern) (scopes : List Scope),
    ReadsOf scopes (patternsReadings scopes patterns) (patternsMentions patterns)
  | [], _ => .nil
  | first :: rest, scopes => (first.readsOf scopes).append (readsOf_patterns rest scopes)

end

theorem WithItem.readsOf : ∀ (item : WithItem) (scopes : List Scope),
    ReadsOf scopes (item.readings scopes) item.mentions
  | .mk context .none, scopes => by
      have reads := (context.readsOf scopes).append .nil
      rwa [List.append_nil] at reads
  | .mk context (some target), scopes => (context.readsOf scopes).append (target.readsOf scopes)

theorem readsOf_withItems (items : List WithItem) (scopes : List Scope) :
    ReadsOf scopes (items.flatMap (·.readings scopes)) (items.flatMap WithItem.mentions) := by
  induction items with
  | nil => exact .nil
  | cons first items ih => exact (first.readsOf scopes).append ih

mutual

/-- **The reads of a statement are mentioned.** -/
theorem Stmt.readsOf : ∀ (statement : Stmt) (scopes : List Scope),
    ReadsOf scopes (statement.readings scopes) statement.mentions
  | .expression value, scopes => value.readsOf scopes
  | .assign targets value, scopes => (readsOf_targets targets scopes).append (value.readsOf scopes)
  | .augment target _ value, scopes => by
      match target with
      | .name _ => exact (ReadsOf.read.append (.bind .nil)).append (value.readsOf scopes)
      | .attribute _ _ | .subscript _ _ | .tuple _ | .list _ | .starred _ =>
          exact (Target.readsOf _ scopes).append (value.readsOf scopes)
  | .hinted target _ hint value, scopes =>
      ((target.readsOf scopes).append (hint.readsOf scopes)).append (readsOf_option value scopes)
  | .returnValue value, scopes => readsOf_option value scopes
  | .delete targets, scopes => readsOf_targets targets scopes
  | .raise exception cause, scopes =>
      (readsOf_option exception scopes).append (readsOf_option cause scopes)
  | .assert test message, scopes => (test.readsOf scopes).append (readsOf_option message scopes)
  | .pass, _ | .breakLoop, _ | .continueLoop, _ => .nil
  | .importModules _, _ | .importNames _ _ _, _ | .importAll _ _, _ | .globalNames _, _
  | .nonlocalNames _, _ => .none fun _ member => by simp [Stmt.mentions] at member
  | .ifBlock test body otherwise, scopes | .whileLoop test body otherwise, scopes =>
      ((test.readsOf scopes).append (readsOf_stmts body scopes)).append
        (readsOf_stmts otherwise scopes)
  | .forLoop _ target source body otherwise, scopes =>
      (((target.readsOf scopes).append (source.readsOf scopes)).append
        (readsOf_stmts body scopes)).append (readsOf_stmts otherwise scopes)
  | .tryBlock _ body handlers otherwise always, scopes =>
      (((readsOf_stmts body scopes).append (readsOf_handlers handlers scopes)).append
        (readsOf_stmts otherwise scopes)).append (readsOf_stmts always scopes)
  | .withBlock _ items body, scopes =>
      (readsOf_withItems items scopes).append (readsOf_stmts body scopes)
  | .matchBlock subject cases, scopes =>
      (subject.readsOf scopes).append (readsOf_cases cases scopes)
  | .functionDef _ _ parameters hint decorators body, scopes => by
      have header := ((readsOf_parameters parameters scopes).append
        (readsOf_option hint scopes)).append (readsOf_exprs decorators scopes)
      have binds := ((bindsAmong_parameters parameters).mono (List.subset_append_left _
        (optionMentions hint ++ exprsMentions decorators))).append (bindsAmong_stmts body)
      rw [← List.append_assoc] at binds
      exact (((header.mono (List.subset_cons_self _ _)).append (readsOf_stmts body _)).leave
        binds.ownNames).bind
  | .classDef _ bases named decorators body, scopes => by
      have header := ((readsOf_exprs bases scopes).append (readsOf_named named scopes)).append
        (readsOf_exprs decorators scopes)
      have binds := (bindsAmong_stmts body).mono (List.subset_append_right
        (exprsMentions bases ++ namedMentions named ++ exprsMentions decorators) _)
      exact (((header.mono (List.subset_cons_self _ _)).append (readsOf_stmts body _)).leave
        binds.ownNames).bind

theorem readsOf_stmts : ∀ (statements : List Stmt) (scopes : List Scope),
    ReadsOf scopes (stmtsReadings scopes statements) (stmtsMentions statements)
  | [], _ => .nil
  | first :: rest, scopes => (first.readsOf scopes).append (readsOf_stmts rest scopes)

theorem readsOf_handlers : ∀ (handlers : List Handler) (scopes : List Scope),
    ReadsOf scopes (handlersReadings scopes handlers) (handlersMentions handlers)
  | [], _ => .nil
  | .mk kind name body :: rest, scopes => by
      have header := (readsOf_option kind scopes).append (readsOf_bindOption name)
      rw [List.append_nil] at header
      exact (header.append (readsOf_stmts body scopes)).append (readsOf_handlers rest scopes)

theorem readsOf_cases : ∀ (cases : List MatchCase) (scopes : List Scope),
    ReadsOf scopes (casesReadings scopes cases) (casesMentions cases)
  | [], _ => .nil
  | .mk pattern guard body :: rest, scopes =>
      (((pattern.readsOf scopes).append (readsOf_option guard scopes)).append
        (readsOf_stmts body scopes)).append (readsOf_cases rest scopes)

end

/-- A name that no scope around it binds comes from the program. -/
theorem comesFromProgram_of_unbound (unbound : ∀ scope ∈ scopes, name ∉ scope.ownNames) :
    comesFromProgram name scopes = true := by
  induction scopes with
  | nil => rfl
  | cons scope scopes ih =>
      obtain ⟨notHere, around⟩ := List.forall_mem_cons.mp unbound
      have absent : scope.ownNames.contains name = false :=
        Bool.eq_false_iff.mpr fun held => notHere (List.contains_iff_mem.mp held)
      unfold comesFromProgram
      rw [ih around, absent, Bool.not_false, Bool.true_and, Bool.or_true, ite_self]

theorem Reading.isOfProgram_of_unbound {reading : Reading}
    (unbound : ∀ scope ∈ reading.scopes, reading.name ∉ scope.ownNames) :
    reading.isOfProgram = true := by
  obtain ⟨name, scopes⟩ := reading
  cases scopes with
  | nil => rfl
  | cons innermost outer =>
      obtain ⟨notHere, around⟩ := List.forall_mem_cons.mp unbound
      have absent : innermost.ownNames.contains name = false :=
        Bool.eq_false_iff.mpr fun held => notHere (List.contains_iff_mem.mp held)
      unfold Reading.isOfProgram
      dsimp only
      rw [comesFromProgram_of_unbound around, absent, Bool.not_false, Bool.true_and, Bool.or_true]

/-- The parameters of a render function. -/
def renderParameters : List Parameter := [.mk .ordinary (text "ctx") none none]

/-- The names of the program of a render function are those of its parameter and its body. -/
theorem ofProgram_renderDefinition {body : List Stmt} : NameUse.ofProgram [renderDefinition body] =
    .ofMentions (parametersMentions renderParameters ++ stmtsMentions body) := by
  rw [NameUse.ofProgram, List.flatMap_singleton]
  rfl

theorem mem_programReads {parameters : List Parameter} {body : List Stmt} :
    name ∈ programReads parameters body ↔ name ∉ reservedNames ∧
      ∃ reading ∈ stmtsReadings [.ofFunction false parameters body] body,
        reading.isOfProgram = true ∧ reading.name = name := by
  simp only [programReads, List.mem_filter, List.mem_map, Bool.not_eq_true',
    List.contains_eq_mem, decide_eq_false_iff_not, and_assoc]
  exact and_comm

/-- **What is gathered without regard to scopes encloses what scopes say.** A name that the body of
a render function reads and binds nowhere is read from the program, and a name that is read from the
program, in whatever scope, is one that the context has to supply, unless names are declared
global. -/
theorem programReads_between (body : List Stmt)
    (undeclared : ∀ name, .declare name ∉ stmtsMentions body) :
    (NameUse.ofProgram [renderDefinition body]).free ⊆ programReads renderParameters body ∧
      programReads renderParameters body ⊆ (NameUse.ofProgram [renderDefinition body]).referenced := by
  have reads := readsOf_stmts body [.ofFunction false renderParameters body]
  have own : ∀ name ∈ (Scope.ofFunction false renderParameters body).ownNames,
      .bind name ∈ parametersMentions renderParameters ++ stmtsMentions body :=
    ((bindsAmong_parameters renderParameters).append (bindsAmong_stmts body)).ownNames
  rw [ofProgram_renderDefinition]
  constructor
  · intro name isFree
    obtain ⟨isReferenced, unbound⟩ := NameUse.mem_free.mp isFree
    obtain ⟨isLoaded, -, plain⟩ := NameUse.mem_referenced.mp isReferenced
    rw [NameUse.mem_bound_ofMentions] at unbound
    have mentioned := (List.mem_append.mp (NameUse.mem_loaded_ofMentions.mp isLoaded)).resolve_left
      (by simp [renderParameters, parametersMentions, Parameter.mentions, optionMentions])
    obtain ⟨reading, member, rfl⟩ := (reads.read_iff name).mp mentioned
    refine mem_programReads.mpr ⟨plain, reading, member, Reading.isOfProgram_of_unbound ?_, rfl⟩
    intro scope around isOwn
    rcases reads.known reading member scope around with isRender | binds
    · rw [List.mem_singleton.mp isRender] at isOwn
      exact unbound (own _ isOwn)
    · exact unbound (List.mem_append_right _ (binds _ isOwn))
  · intro name isRead
    obtain ⟨plain, reading, member, -, rfl⟩ := mem_programReads.mp isRead
    have mentioned := (reads.read_iff reading.name).mpr ⟨reading, member, rfl⟩
    refine NameUse.mem_referenced.mpr ⟨?_, ?_, plain⟩
    · exact NameUse.mem_loaded_ofMentions.mpr (List.mem_append_right _ mentioned)
    · rw [NameUse.mem_declared_ofMentions, List.mem_append]
      rintro (isParameter | isDeclared)
      · simp [renderParameters, parametersMentions, Parameter.mentions, optionMentions]
          at isParameter
      · exact undeclared _ isDeclared

/-- In `[c for c in d]`, `c` and `x = x`, the name `c` is bound inside the comprehension and is read
from the program outside of it, and the name `x` is local. -/
theorem programReads_between_comprehension :
    let read := fun name => Expr.name (text name)
    let body : List Stmt :=
      [.expression (.comprehension .list (read "c") [.mk false (.name (text "c")) (read "d") []]),
        .expression (read "c"), .assign [.name (text "x")] (read "x")]
    let names := NameUse.ofProgram [renderDefinition body]
    let program := programReads renderParameters body
    (names.free ⊆ program ∧ program ⊆ names.referenced) ∧
      (text "c" ∈ program ∧ text "c" ∉ names.free) ∧
      text "x" ∈ names.referenced ∧ text "x" ∉ program := by
  refine ⟨programReads_between _ ?_, ?_⟩
  · intro name
    simp [stmtsMentions, Stmt.mentions, Expr.mentions, clausesMentions, Clause.mentions,
      exprsMentions, targetsMentions, Target.mentions]
  · decide

end Stencil.Script
