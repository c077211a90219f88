import Stencil.Proofs.Script.BoundNames
import Stencil.Proofs.Source.BindingScope
import Stencil.Proofs.Source.BoundProgram
import Stencil.Proofs.Source.RenderFunction
import Stencil.Proofs.Template.Compilation
import Stencil.Proofs.Text.SortedSet

/-! # A program with the lines of its context

Fragments that make a program by themselves make one with the lines that take their names from the
context as well: the assembled program has one more statement for each name, in dictionary order,
behind the two lines that every render function begins with. It can be executed just when these
names may be bound in the function (`Stencil.assemble_bindings`). Only a program that is too deep for
the walk that gathers its names is not put together. The name that stands for whether
checks are made may be read and not bound, so a template that reads it is refused
(`Stencil.assemble_fixedName`).
-/

namespace Stencil

open Script Source CodePoint Text

variable {names : List Name} {name : Name} {inside others : List Stmt} {place : Place}

theorem isPlaced_bindingStatement : (bindingStatement name).isPlaced place = mayBind name := by
  unfold bindingStatement
  split
  · simp [preferStatement, Stmt.isPlaced, Target.isPlaced, Expr.isPlaced, itemsArePlaced,
      namedArePlaced, areDistinct]
  · simp [fetchStatement, Stmt.isPlaced, Target.isPlaced, Expr.isPlaced, exprsArePlaced,
      stmtsArePlaced]

/-- The lines of the context stand wherever their names may be bound. -/
theorem stmtsArePlaced_bindings :
    stmtsArePlaced place (names.map bindingStatement) = names.all mayBind := by
  induction names with
  | nil => rfl
  | cons name names ih =>
      rw [List.map_cons, stmtsArePlaced, isPlaced_bindingStatement, ih, List.all_cons]

theorem anyAwaits_bindings :
    anyAwaits (stmtsScopeEvents (names.map bindingStatement)) = false := by
  induction names with
  | nil => rfl
  | cons name names ih =>
      rw [List.map_cons, stmtsScopeEvents, anyAwaits_append, ih, scopeEvents_bindingStatement]
      split <;> rfl

/-- The lines of the context do not make the function wait. -/
theorem awaits_renderScope_bindings :
    (renderScope (bufferStatement :: appendStatement ::
      (names.map bindingStatement ++ inside))).awaits =
        (renderScope (bufferStatement :: appendStatement :: inside)).awaits := by
  have through (behind : List Stmt) :
      (renderScope (bufferStatement :: appendStatement :: behind)).awaits =
        anyAwaits (stmtsScopeEvents behind) := rfl
  rw [through, through, stmtsScopeEvents_append, anyAwaits_append, anyAwaits_bindings,
    Bool.false_or]

/-- The lines of the context do not make the function hand values to its caller. -/
theorem isGenerator_renderScope_bindings :
    (renderScope (bufferStatement :: appendStatement ::
      (names.map bindingStatement ++ inside))).isGenerator =
        (renderScope (bufferStatement :: appendStatement :: inside)).isGenerator := by
  have through (behind : List Stmt) :
      (renderScope (bufferStatement :: appendStatement :: behind)).isGenerator =
        (Scope.mk (.function false) (stmtsScopeEvents behind)).isGenerator := rfl
  rw [through, through]
  induction names with
  | nil => rfl
  | cons name names ih =>
      rw [← ih, List.map_cons, List.cons_append, stmtsScopeEvents, scopeEvents_bindingStatement]
      split <;> rfl

/-- The lines of the context leave the other statements of a program in their places. -/
theorem arePlaced_bindings_iff :
    stmtsArePlaced (.start .program) (renderDefinition (bufferStatement :: appendStatement ::
        (names.map bindingStatement ++ inside)) :: others) =
      (names.all mayBind && stmtsArePlaced (.start .program)
        (renderDefinition (bufferStatement :: appendStatement :: inside) :: others)) := by
  have through (behind : List Stmt) : stmtsArePlaced (.start .program)
      (renderDefinition (bufferStatement :: appendStatement :: behind) :: others) =
        (stmtsArePlaced { Place.start (.function false) with
          isAwaitingGenerator :=
            (renderScope (bufferStatement :: appendStatement :: behind)).awaits &&
              (renderScope (bufferStatement :: appendStatement :: behind)).isGenerator } behind &&
          stmtsArePlaced (.start .program) others) := rfl
  rw [through, through, awaits_renderScope_bindings, isGenerator_renderScope_bindings,
    stmtsArePlaced_append, stmtsArePlaced_bindings, Bool.and_assoc]

/-- The names of a program may be bound in its render function: keywords and the name that stands for
whether checks are made are not among them, and the public names can be read there, from a name that
the function does not declare. -/
structure AreBindable (names : List Name) (inside : List Stmt) : Prop where
  unreserved : ∀ name ∈ names, Keyword.ofText? name = none
  plain : fixedName ∉ names
  own : HoldsPublic names → text "_builtins" ∉ declaredNames .declaredGlobal (stmtsScopeEvents inside)

theorem isExecutable_bindings_iff
    (executable : isExecutable
      (renderDefinition (bufferStatement :: appendStatement :: inside) :: others) = true)
    (free : ∀ name ∈ names, name ∉ declaredNames .declaredGlobal (stmtsScopeEvents inside))
    (unreserved : ∀ name ∈ names, Keyword.ofText? name = none) :
    isExecutable (renderDefinition (bufferStatement :: appendStatement ::
      (names.map bindingStatement ++ inside)) :: others) = true ↔ AreBindable names inside := by
  obtain ⟨consistent, placed⟩ := Bool.and_eq_true_iff.mp executable
  have mayBindAll : names.all mayBind = true ↔ fixedName ∉ names := by
    simp only [List.all_eq_true, mayBind, bne_iff_ne]
    exact ⟨fun each member => each _ member rfl, fun absent _ member same => absent (same ▸ member)⟩
  rw [isExecutable, Bool.and_eq_true, declaresConsistently_bindings_iff consistent,
    arePlaced_bindings_iff, placed, Bool.and_true, mayBindAll]
  exact ⟨fun ⟨⟨_, own⟩, plain⟩ => ⟨unreserved, plain, own⟩,
    fun bindable => ⟨⟨free, bindable.own⟩, bindable.plain⟩⟩

/-- A name that the render function declares global is one that its program declares. -/
theorem mem_declared_of_mem_declaredNames
    (declared : name ∈ declaredNames .declaredGlobal (stmtsScopeEvents inside)) :
    name ∈ (NameUse.ofProgram (renderDefinition
      (bufferStatement :: appendStatement :: inside) :: others)).declared := by
  have mentioned := stmts_declare_mem_mentions inside declared
  refine List.mem_filterMap.mpr ⟨.declare name, List.mem_flatMap.mpr
    ⟨_, List.mem_cons_self, ?_⟩, rfl⟩
  change Mention.declare name ∈ parametersMentions _ ++
    stmtsMentions (bufferStatement :: appendStatement :: inside)
  rw [stmtsMentions, stmtsMentions]
  exact List.mem_append_right _ (List.mem_append_right _ (List.mem_append_right _ mentioned))

/-- What is taken from the context is not declared global. -/
theorem not_declared_of_mem_referenced (referenced : name ∈ (NameUse.ofProgram (renderDefinition
      (bufferStatement :: appendStatement :: inside) :: others)).referenced) :
    name ∉ declaredNames .declaredGlobal (stmtsScopeEvents inside) := by
  intro declared
  obtain ⟨-, free⟩ := List.mem_filter.mp referenced
  rw [Bool.and_eq_true, Bool.not_eq_true', List.contains_eq_mem, decide_eq_false_iff_not] at free
  exact free.1 (mem_declared_of_mem_declaredNames declared)

/-- The program that the assembled fragments spell, and when it can be executed. -/
theorem executableProgram_boundProgram {body : Text} {unbound : Program}
    (accepted : executableProgram (prologue ++ body ++ epilogue) = .ok unbound) :
    ∃ inside others,
      unbound = renderDefinition (bufferStatement :: appendStatement :: inside) :: others ∧
      (AreBindable (sortedSet (NameUse.ofProgram unbound).referenced) inside →
        executableProgram (boundProgram (NameUse.ofProgram unbound) body) =
          .ok (renderDefinition (bufferStatement :: appendStatement ::
            ((sortedSet (NameUse.ofProgram unbound).referenced).map bindingStatement ++ inside)) ::
              others)) ∧
      (¬AreBindable (sortedSet (NameUse.ofProgram unbound).referenced) inside →
        executableProgram (boundProgram (NameUse.ofProgram unbound) body) = .error .malformed) := by
  obtain ⟨read, executable⟩ := readProgram_of_executableProgram accepted
  obtain ⟨inside, others, isUnbound, readBound⟩ := readProgram_boundProgram read
  rw [isUnbound] at executable
  have free : ∀ name ∈ sortedSet (NameUse.ofProgram unbound).referenced,
      name ∉ declaredNames .declaredGlobal (stmtsScopeEvents inside) := by
    intro name member
    rw [mem_sortedSet, isUnbound] at member
    exact not_declared_of_mem_referenced member
  by_cases unreserved : ∀ name ∈ sortedSet (NameUse.ofProgram unbound).referenced,
      Keyword.ofText? name = none
  · have decides := isExecutable_bindings_iff executable free unreserved
    refine ⟨inside, others, isUnbound, fun bindable => ?_, fun unbindable => ?_⟩
    · exact executableProgram_of_readProgram (readBound unreserved) (decides.mpr bindable)
    · unfold executableProgram
      rw [readBound unreserved]
      exact if_neg fun held => unbindable (decides.mp held)
  · refine ⟨inside, others, isUnbound, fun bindable => (unreserved bindable.unreserved).elim,
      fun _ => ?_⟩
    obtain ⟨name, reserved⟩ := not_forall.mp unreserved
    obtain ⟨member, isKeyword⟩ := Classical.not_imp.mp reserved
    unfold executableProgram
    rw [readProgram_boundProgram_keyword read ⟨name, member, isKeyword⟩]
    rfl

/-- A name that a render function binds before its directives, or in them without declaring it to
belong to the program, lives in the calls of the function: its program would not be accepted if it
declared a name of the first kind to belong elsewhere. -/
theorem home_renderScene {globals frame : Run.Address} (consistent : declaresConsistently
      (renderDefinition (bufferStatement :: appendStatement :: inside) :: others) = true)
    (isBound : name ∈ [text "ctx", text "_buf", text "_append"] ∨
      .use .bind name .plain ∈ stmtsScopeEvents inside ∧
        name ∉ declaredNames .declaredGlobal (stmtsScopeEvents inside)) :
    (renderScene (bufferStatement :: appendStatement :: inside) globals frame).home name =
      .running frame := by
  obtain ⟨closed, outer, scope, applied, -⟩ := declaresConsistently_iff.mp consistent
  have notGlobal : name ∉ (renderScope (bufferStatement :: appendStatement :: inside)).globalNames := by
    change name ∉ declaredNames .declaredGlobal (stmtsScopeEvents inside)
    rcases isBound with isFirst | ⟨-, notGlobal⟩
    · rw [mem_declaredNames]
      rintro ⟨around, member⟩
      refine not_mem_of_isSettled rfl ?_ (.inl rfl) applied member
      simp only [List.mem_cons, List.not_mem_nil, or_false] at isFirst
      rcases isFirst with rfl | rfl | rfl <;> decide
    · exact notGlobal
  have notNonlocal : name ∉ declaredNames .declaredNonlocal
      (renderScope (bufferStatement :: appendStatement :: inside)).events := by
    change name ∉ declaredNames .declaredNonlocal (stmtsScopeEvents inside)
    rw [declaredNonlocal_eq_nil consistent]
    exact List.not_mem_nil
  have stated : name ∈ (renderScope (bufferStatement :: appendStatement :: inside)).boundNames := by
    let first : List ScopeEvent := .use .parameter (text "ctx") .plain ::
      (bufferStatement.scopeEvents ++ appendStatement.scopeEvents)
    have split : statedNames (first ++ stmtsScopeEvents inside) =
        statedNames first ++ statedNames (stmtsScopeEvents inside) := List.filterMap_append
    refine List.mem_append_left _ (split ▸ ?_)
    rcases isBound with isFirst | ⟨member, -⟩
    · refine List.mem_append_left _ ?_
      simp only [List.mem_cons, List.not_mem_nil, or_false] at isFirst
      rcases isFirst with rfl | rfl | rfl <;> decide
    · exact List.mem_append_right _ (List.mem_filterMap.mpr ⟨_, member, rfl⟩)
  have isOwn : name ∈ (renderScope (bufferStatement :: appendStatement :: inside)).ownNames := by
    unfold Scope.ownNames
    rw [List.mem_eraseDups, List.mem_filter]
    refine ⟨stated, ?_⟩
    rw [Bool.not_eq_true', List.contains_eq_mem, decide_eq_false_iff_not, List.mem_append, not_or]
    exact ⟨notGlobal, notNonlocal⟩
  exact (if_neg fun member => notGlobal (List.contains_iff_mem.mp member)).trans
    (if_pos (List.contains_iff_mem.mpr isOwn))

/-- What the lines of the context do in the scope of their function. -/
theorem mem_scopeEvents_bindings {event : ScopeEvent} :
    event ∈ stmtsScopeEvents (names.map bindingStatement) ↔
      ∃ name ∈ names, event ∈ (bindingStatement name).scopeEvents := by
  induction names with
  | nil => exact ⟨nofun, nofun⟩
  | cons first others ih =>
      rw [List.map_cons, stmtsScopeEvents, List.mem_append, ih, List.exists_mem_cons_iff]

/-- A name of a line of the context lives in the calls of the function. -/
theorem home_of_mem_names {globals frame : Run.Address} (consistent : declaresConsistently
      (renderDefinition (bufferStatement :: appendStatement ::
        (names.map bindingStatement ++ inside)) :: others) = true)
    (member : name ∈ names) (free : name ∉ declaredNames .declaredGlobal (stmtsScopeEvents inside)) :
    (renderScene (bufferStatement :: appendStatement :: (names.map bindingStatement ++ inside))
      globals frame).home name = .running frame := by
  refine home_renderScene consistent (.inr ?_)
  rw [stmtsScopeEvents_append]
  constructor
  · refine List.mem_append_left _ (mem_scopeEvents_bindings.mpr ⟨name, member, ?_⟩)
    rw [scopeEvents_bindingStatement]
    split
    · exact List.mem_cons_self
    · exact List.mem_cons_of_mem _ List.mem_cons_self
  · rw [mem_declaredNames] at free ⊢
    rintro ⟨around, declared⟩
    rcases List.mem_append.mp declared with inLines | inBody
    · obtain ⟨other, -, isUse⟩ := mem_scopeEvents_bindings.mp inLines
      rw [scopeEvents_bindingStatement] at isUse
      split at isUse <;> simp at isUse
    · exact free ⟨around, inBody⟩

/-- The lines of the context bind their names and no others. -/
theorem mem_names_of_bind (bound : .bind name ∈ stmtsMentions (names.map bindingStatement)) :
    name ∈ names := by
  induction names with
  | nil => cases bound
  | cons first others ih =>
      rw [List.map_cons, stmtsMentions, List.mem_append] at bound
      refine bound.elim (fun inFirst => List.mem_cons.mpr (.inl ?_))
        fun later => List.mem_cons_of_mem _ (ih later)
      unfold bindingStatement at inFirst
      split at inFirst <;> simpa [preferStatement, fetchStatement, Stmt.mentions, stmtsMentions,
        targetsMentions, Target.mentions, Expr.mentions, exprsMentions, namedMentions] using inFirst

/-- The public names are those of the program where neither the lines of the context nor the
directives bind the name that holds them. -/
theorem home_builtins {globals frame : Run.Address} (notTaken : text "_builtins" ∉ names)
    (unbound : .bind (text "_builtins") ∉ stmtsMentions inside) :
    (renderScene (bufferStatement :: appendStatement :: (names.map bindingStatement ++ inside))
      globals frame).home (text "_builtins") = .program := by
  have notOwn : text "_builtins" ∉ (renderScope (bufferStatement :: appendStatement ::
      (names.map bindingStatement ++ inside))).ownNames := by
    intro member
    have mentioned := ((bindsAmong_parameters [.mk .ordinary (text "ctx") none none]).append
      (bindsAmong_stmts (bufferStatement :: appendStatement ::
        (names.map bindingStatement ++ inside)))).ownNames _ member
    rw [List.mem_append, stmtsMentions, stmtsMentions, stmtsMentions_append, List.mem_append,
      List.mem_append, List.mem_append] at mentioned
    rcases mentioned with isParameter | isList | isMethod | inLines | inBody
    · revert isParameter; decide
    · revert isList; decide
    · revert isMethod; decide
    · exact notTaken (mem_names_of_bind inLines)
    · exact unbound inBody
  unfold Run.Scene.home renderScene
  dsimp only
  split
  · rfl
  · rw [if_neg fun member => notOwn (List.contains_iff_mem.mp member)]
    rfl

/-- **The lines of the context leave an accepted program accepted**, when the names that it takes
from there may be bound in its function. Where no block is open, fragments that make a program by
themselves are put together to the code with one line for each of these names, in order, and the
program of this code is the one without the lines with one statement for each of them. When the
names may not be bound, the code is refused. Fragments are not put together when their program is too
deep for the walk that gathers its names. -/
theorem assemble_bindings {generator : Generator} {fragments : List Text} {unbound : Program}
    (closed : generator.blocks = [])
    (accepted : executableProgram (prologue ++ fragments.flatten ++ epilogue) = .ok unbound) :
    ∃ (names : List Name) (inside others : List Stmt) (code : Text) (after : Generator),
      (names.Nodup ∧ names.Pairwise (fun left right => precedes left right = true) ∧
        ∀ name, name ∈ names ↔ name ∈ (NameUse.ofProgram unbound).referenced) ∧
      unbound = renderDefinition (bufferStatement :: appendStatement :: inside) :: others ∧
      (programDepth unbound ≤ walkLimit → generator.assemble fragments = .ok (code, after)) ∧
      (walkLimit < programDepth unbound → ∃ fault ∈ [SourceFault.deepWalk, .deepTree],
        generator.assemble fragments = .error (.program fault)) ∧
      code = prologue ++ names.flatMap bindingLine ++ fragments.flatten ++ epilogue ∧
      (AreBindable names inside → executableProgram code = .ok (renderDefinition
        (bufferStatement :: appendStatement :: (names.map bindingStatement ++ inside)) :: others)) ∧
      (¬AreBindable names inside → executableProgram code = .error .malformed) := by
  obtain ⟨inside, others, isUnbound, whenBindable, whenNot⟩ :=
    executableProgram_boundProgram accepted
  have read := (readProgram_of_executableProgram accepted).1
  refine ⟨sortedSet (NameUse.ofProgram unbound).referenced, inside, others,
    boundProgram (NameUse.ofProgram unbound) fragments.flatten,
    { generator with names := sortedSet (NameUse.ofProgram unbound).free },
    ⟨nodup_sortedSet, pairwise_sortedSet, fun _ => mem_sortedSet⟩, isUnbound, ?_, ?_, rfl,
    whenBindable, whenNot⟩
  · exact assemble_of_readProgram closed read
  · exact assemble_of_lt closed read

/-- Names that are read in scopes inside the function are taken from the context of the function,
and so are the names of public values. -/
theorem assemble_bindings_scopes :
    let fragments := [text "    _append(_str(sorted(items)))\n",
      text "    total = sum(map(lambda item: item + extra, items))\n"]
    ∃ unbound, executableProgram (prologue ++ fragments.flatten ++ epilogue) = .ok unbound ∧
      ∃ (names : List Name) (inside others : List Stmt) (code : Text) (after : Generator),
        (names.Nodup ∧ names.Pairwise (fun left right => precedes left right = true) ∧
          ∀ name, name ∈ names ↔ name ∈ (NameUse.ofProgram unbound).referenced) ∧
        unbound = renderDefinition (bufferStatement :: appendStatement :: inside) :: others ∧
        Generator.start.assemble fragments = .ok (code, after) ∧
        code = prologue ++ names.flatMap bindingLine ++ fragments.flatten ++ epilogue ∧
        executableProgram code = .ok (renderDefinition (bufferStatement :: appendStatement ::
          (names.map bindingStatement ++ inside)) :: others) := by
  intro fragments
  obtain ⟨unbound, -, accepted, plain⟩ := @exists_executableProgram
    (prologue ++ fragments.flatten ++ epilogue) (fun program =>
      ((NameUse.ofProgram program).declared.isEmpty && programDepth program ≤ walkLimit) &&
        (NameUse.ofProgram program).referenced.all fun name =>
          name != fixedName && (Keyword.ofText? name).isNone)
    (by decide +kernel) (by decide +kernel)
  obtain ⟨⟨undeclared, shallow⟩, bindable⟩ := (Bool.and_eq_true_iff.mp plain).imp_left
    Bool.and_eq_true_iff.mp
  obtain ⟨names, inside, others, code, after, inOrder, isUnbound, assembled, -, isCode, accepts, -⟩ :=
    @assemble_bindings .start fragments unbound rfl accepted
  have each : ∀ name ∈ names, name ≠ fixedName ∧ Keyword.ofText? name = none := by
    intro name member
    have both := List.all_eq_true.mp bindable name ((inOrder.2.2 name).mp member)
    rwa [Bool.and_eq_true, bne_iff_ne, Option.isNone_iff_eq_none] at both
  refine ⟨unbound, accepted, names, inside, others, code, after, inOrder, isUnbound,
    assembled (of_decide_eq_true shallow), isCode, accepts ⟨fun name member => (each name member).2,
      fun member => (each _ member).1 rfl, fun _ declared => ?_⟩⟩
  have isDeclared := @mem_declared_of_mem_declaredNames _ _ others declared
  rw [← isUnbound, List.isEmpty_iff.mp undeclared] at isDeclared
  cases isDeclared

/-- The name that stands for whether checks are made can be read in a program and not taken from the
context. -/
theorem assemble_fixedName :
    let fragments := [text "    _append(_str(__debug__))\n"]
    ∃ unbound code after,
      executableProgram (prologue ++ fragments.flatten ++ epilogue) = .ok unbound ∧
      Generator.start.assemble fragments = .ok (code, after) ∧
      executableProgram code = .error .malformed := by
  intro fragments
  obtain ⟨unbound, -, accepted, isRead⟩ := @exists_executableProgram
    (prologue ++ fragments.flatten ++ epilogue)
    (fun program => (NameUse.ofProgram program).referenced.contains fixedName &&
      programDepth program ≤ walkLimit) (by decide +kernel) (by decide +kernel)
  obtain ⟨isReferenced, shallow⟩ := Bool.and_eq_true_iff.mp isRead
  obtain ⟨inside, others, -, -, whenNot⟩ := executableProgram_boundProgram accepted
  refine ⟨unbound, _, _, accepted,
    assemble_of_readProgram rfl (readProgram_of_executableProgram accepted).1
      (of_decide_eq_true shallow),
    whenNot fun bindable => bindable.plain ?_⟩
  exact mem_sortedSet.mpr (List.contains_iff_mem.mp isReferenced)

end Stencil
