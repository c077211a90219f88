import Stencil.Proofs.Script.DeclaredNames
import Stencil.Proofs.Script.ScopeGrowth
import Stencil.Proofs.Source.BindingLines

/-! # The names of the lines of the context

The lines that take names from the context bind these names in the render function and read the
context, and nothing else in the program is refused because of them, unless the function declares
one of these names global (`Stencil.declaresConsistently_bindings_iff`).
-/

namespace Stencil

open Script Source CodePoint Text

variable {names : List Name} {name : Name} {inside body others : List Stmt}
  {declared : Name → Prop}

/-- The program at the start of its render function. -/
def programScope : OpenScope :=
  ⟨.program, none, [(text "render", NameStatus.unused.after .bind)], []⟩

/-- The render function at the start of its body. -/
def functionScope : OpenScope :=
  ⟨.function false, none, [(text "_buf", (NameStatus.unused.after .bind).after .read),
    (text "_append", NameStatus.unused.after .bind),
    (text "ctx", NameStatus.unused.after .parameter)], []⟩

theorem isFaithful_functionScope : functionScope.names.IsFaithful := by
  intro entry member
  simp only [functionScope, List.mem_cons, List.not_mem_nil, or_false] at member
  rcases member with rfl | rfl | rfl <;> decide

theorem isFaithful_programScope : programScope.names.IsFaithful := by
  intro entry member
  rw [List.mem_singleton.mp member]
  decide

/-- The scope events of a program that defines a render function are those of the function, in a
scope of its own, and those behind it. -/
theorem applyAll_renderDefinition : applyAll [.opened .program none] (stmtsScopeEvents
      (renderDefinition (bufferStatement :: appendStatement :: inside) :: others)) =
    ((applyAll [functionScope, programScope] (stmtsScopeEvents inside)).bind fun closing =>
      match closing with
      | closed :: outer :: others => some (outer.enclose closed :: others)
      | _ => none).bind fun scopes => applyAll scopes (stmtsScopeEvents others) := by
  have before : applyAll [.opened .program none] [bindEvent (text "render"),
      .opens (.mk .hint []), .opens (.mk .hint [])] = some [programScope] := by rfl
  have opened : applyAll [.opened (.function false) (some programScope), programScope]
      (.use .parameter (text "ctx") .plain ::
        (bufferStatement.scopeEvents ++ appendStatement.scopeEvents)) =
      some [functionScope, programScope] := by rfl
  have events : stmtsScopeEvents
      (renderDefinition (bufferStatement :: appendStatement :: inside) :: others) =
      [bindEvent (text "render"), .opens (.mk .hint []), .opens (.mk .hint [])] ++
        (.opens (.mk (.function false) ((.use .parameter (text "ctx") .plain ::
          (bufferStatement.scopeEvents ++ appendStatement.scopeEvents)) ++
            stmtsScopeEvents inside)) :: stmtsScopeEvents others) := by rfl
  rw [events, applyAll_append, before, Option.bind_some, applyAll, ScopeEvent.apply,
    List.head?_cons, applyAll_append, opened]
  rfl

/-- The names of a render program are consistent when those of its function are accepted, and those
of what is behind the function, and every nonlocal name is found. -/
theorem declaresConsistently_iff :
    declaresConsistently
        (renderDefinition (bufferStatement :: appendStatement :: inside) :: others) = true ↔
      ∃ closed outer scope,
        applyAll [functionScope, programScope] (stmtsScopeEvents inside) = some [closed, outer] ∧
        applyAll [outer.enclose closed] (stmtsScopeEvents others) = some [scope] ∧
        scope.close.isResolved none = true := by
  unfold declaresConsistently
  rw [applyAll_renderDefinition]
  constructor
  · intro consistent
    split at consistent
    · next scope isScope =>
        obtain ⟨scopes, isScopes, appliedOthers⟩ := Option.bind_eq_some_iff.mp isScope
        obtain ⟨closing, isClosing, same⟩ := Option.bind_eq_some_iff.mp isScopes
        have follows := applyAll_follows _ isClosing
        obtain ⟨closed, rest, -, followsRest, rfl⟩ := List.forall₂_cons_left_iff.mp follows
        obtain ⟨outer, rest, -, none, rfl⟩ := List.forall₂_cons_left_iff.mp followsRest
        cases none
        cases same
        exact ⟨closed, outer, scope, isClosing, appliedOthers, consistent⟩
    · cases consistent
  · rintro ⟨closed, outer, scope, isClosing, appliedOthers, resolved⟩
    rw [isClosing, Option.bind_some, Option.bind_some, appliedOthers]
    exact resolved

/-- A name that is not that of the class above is used without any other name. -/
theorem use_eq_useOnly {scope : OpenScope} {role : NameRole} {around : Surroundings}
    (plain : role ≠ .read ∨ name ≠ classAboveName) :
    scope.use role name around = scope.useOnly role name around := by
  have noClass : (decide (role = .read) && decide (name = classAboveName)) = false := by
    rw [Bool.and_eq_false_iff, decide_eq_false_iff_not, decide_eq_false_iff_not]
    exact plain
  unfold OpenScope.use
  rw [noClass, Bool.false_and]
  cases scope.useOnly role name around <;> rfl

/-- A use of a name that only the second scope makes. -/
theorem exists_apply_use {scope further : OpenScope} {role : NameRole} (name : Name)
    (outer : List OpenScope) (grows : scope.Grows declared further) (isUse : role = .read ∨ role = .bind)
    (plain : role ≠ .read ∨ name ≠ classAboveName)
    (apart : declared name → (scope.names.status name).isSettled = true) :
    ∃ last, (ScopeEvent.use role name .plain).apply (further :: outer) = some (last :: outer) ∧
      scope.Grows declared last := by
  obtain ⟨last, used, growsLast⟩ := grows.mark isUse apart
  refine ⟨last, ?_, growsLast⟩
  rw [apply_use, stepInnermost, use_eq_useOnly plain, used]
  rfl

theorem scopeEvents_bindingStatement : (bindingStatement name).scopeEvents =
    if isPublicName name then
      [.use .bind name .plain, .use .read (text "ctx") .plain,
        .use .read (text "_builtins") .plain]
    else
      [.use .read (text "ctx") .plain, .use .bind name .plain, .use .read (text "ctx") .plain] := by
  unfold bindingStatement
  split
  · rfl
  · rfl

/-- A public name is among some names. -/
def HoldsPublic (names : List Name) : Prop := ∃ name ∈ names, isPublicName name = true

/-- The lines of the context are accepted in front of a body that declares none of their names. -/
theorem exists_applyAll_bindings {further : OpenScope} (outer : List OpenScope)
    (grows : functionScope.Grows declared further) (free : ∀ name ∈ names, ¬declared name)
    (freeOwn : HoldsPublic names → ¬declared (text "_builtins")) :
    ∃ last, applyAll (further :: outer) (stmtsScopeEvents (names.map bindingStatement)) =
        some (last :: outer) ∧ functionScope.Grows declared last := by
  induction names generalizing further with
  | nil => exact ⟨further, rfl, grows⟩
  | cons name names ih =>
      obtain ⟨freeName, freeNames⟩ := List.forall_mem_cons.mp free
      have readsContext {further : OpenScope} (grows : functionScope.Grows declared further) :=
        exists_apply_use (text "ctx") outer grows (.inl rfl) (.inr (by decide))
          fun _ => by decide
      have binds {further : OpenScope} (grows : functionScope.Grows declared further) :=
        exists_apply_use name outer grows (.inr rfl) (.inl (by decide))
          fun isDeclared => (freeName isDeclared).elim
      have first : ∃ last, applyAll (further :: outer) (bindingStatement name).scopeEvents =
          some (last :: outer) ∧ functionScope.Grows declared last := by
        rw [scopeEvents_bindingStatement]
        split
        · next isPublic =>
            have free := freeOwn ⟨name, List.mem_cons_self, isPublic⟩
            obtain ⟨bound, isBound, growsBound⟩ := binds grows
            obtain ⟨read, isRead, growsRead⟩ := readsContext growsBound
            obtain ⟨last, isLast, growsLast⟩ := exists_apply_use (text "_builtins") outer
              growsRead (.inl rfl) (.inr (by decide)) fun isDeclared => (free isDeclared).elim
            refine ⟨last, ?_, growsLast⟩
            rw [applyAll, isBound, Option.bind_eq_bind, Option.bind_some, applyAll, isRead,
              Option.bind_eq_bind, Option.bind_some, applyAll, isLast]
            rfl
        · obtain ⟨read, isRead, growsRead⟩ := readsContext grows
          obtain ⟨bound, isBound, growsBound⟩ := binds growsRead
          obtain ⟨last, isLast, growsLast⟩ := readsContext growsBound
          refine ⟨last, ?_, growsLast⟩
          rw [applyAll, isRead, Option.bind_eq_bind, Option.bind_some, applyAll, isBound,
            Option.bind_eq_bind, Option.bind_some, applyAll, isLast]
          rfl
      obtain ⟨next, isNext, growsNext⟩ := first
      obtain ⟨last, isLast, growsLast⟩ := ih growsNext freeNames
        fun ⟨other, member, isPublic⟩ => freeOwn ⟨other, List.mem_cons_of_mem _ member, isPublic⟩
      refine ⟨last, ?_, growsLast⟩
      rw [List.map_cons, stmtsScopeEvents, applyAll_append, isNext]
      exact isLast

theorem mem_declaredNames {role : NameRole} {events : List ScopeEvent} :
    name ∈ declaredNames role events ↔ ∃ around, .use role name around ∈ events := by
  simp only [declaredNames, List.mem_filterMap]
  constructor
  · rintro ⟨event, member, isDeclared⟩
    cases event with
    | use declared other around =>
        dsimp only at isDeclared
        split at isDeclared
        · next same =>
            cases isDeclared
            exact ⟨around, same ▸ member⟩
        · cases isDeclared
    | _ => cases isDeclared
  · rintro ⟨around, member⟩
    exact ⟨_, member, if_pos rfl⟩

/-- No name of a render function is nonlocal, because no function stands around it. -/
theorem declaredNonlocal_eq_nil
    (consistent : declaresConsistently
      (renderDefinition (bufferStatement :: appendStatement :: inside) :: others) = true) :
    declaredNames .declaredNonlocal (stmtsScopeEvents inside) = [] := by
  obtain ⟨closed, outer, scope, isClosing, appliedOthers, resolved⟩ :=
    declaresConsistently_iff.mp consistent
  refine List.eq_nil_iff_forall_not_mem.mpr fun name member => ?_
  obtain ⟨around, isUse⟩ := mem_declaredNames.mp member
  obtain ⟨status, follows⟩ := exists_follows_of_mem rfl isClosing isUse
  have isNonlocal : (closed.names.status name).isNonlocal = true := follows.nonlocal rfl
  obtain ⟨_, _, followsClosed, followsOuter, same⟩ :=
    List.forall₂_cons_left_iff.mp (applyAll_follows _ isClosing)
  cases same
  have followsOuter := (List.forall₂_cons.mp followsOuter).1
  have followsScope := (List.forall₂_cons.mp (applyAll_follows _ appliedOthers)).1
  have noHint : closed.isHint = false := by
    rw [OpenScope.isHint, followsClosed.kind]
    rfl
  have inside : closed.close ∈ scope.inner := by
    refine followsScope.inner ?_
    rw [OpenScope.enclose, noHint]
    exact List.mem_cons_self
  have isProgram : scope.kind = .program := by
    have kept := (outer.follows_enclose closed).kind
    rw [followsScope.kind, kept, followsOuter.kind]
    rfl
  rw [OpenScope.close, isResolved_mk, Bool.and_eq_true, areResolved_eq_all, isProgram] at resolved
  have closedResolved := List.all_eq_true.mp resolved.2 _ (List.mem_reverse.mpr inside)
  have isFound := isFound_of_isResolved closedResolved name
  rw [Script.isFound, isNonlocal, Bool.not_true, Bool.false_or, Bool.and_eq_true] at isFound
  cases isFound.2

theorem grows_functionScope : functionScope.Grows declared functionScope :=
  ⟨rfl, ⟨rfl, rfl⟩, .inr ⟨false, rfl⟩, .refl isFaithful_functionScope, .nil⟩

/-- A name that the lines of the context use is settled behind them, so it cannot be declared. -/
theorem not_declared_of_consistent {role : NameRole} (settles : role = .read ∨ role = .bind)
    (consistent : declaresConsistently (renderDefinition (bufferStatement :: appendStatement ::
      (names.map bindingStatement ++ inside)) :: others) = true)
    (used : .use role name .plain ∈ stmtsScopeEvents (names.map bindingStatement)) :
    name ∉ declaredNames .declaredGlobal (stmtsScopeEvents inside) := by
  obtain ⟨closed, outer, scope, isClosing, -⟩ := declaresConsistently_iff.mp consistent
  rw [stmtsScopeEvents_append, applyAll_append] at isClosing
  obtain ⟨between, isBetween, isClosing⟩ := Option.bind_eq_some_iff.mp isClosing
  obtain ⟨scope, rest, followsScope, -, rfl⟩ :=
    List.forall₂_cons_left_iff.mp (applyAll_follows _ isBetween)
  obtain ⟨status, follows⟩ := exists_follows_of_mem rfl isBetween used
  have settled : (scope.names.status name).isSettled = true := by
    refine follows.settled ?_
    simp only [NameStatus.isSettled, Bool.or_eq_true]
    rcases settles with rfl | rfl
    · exact .inl (.inr rfl)
    · exact .inl (.inl (.inr rfl))
  rw [mem_declaredNames]
  rintro ⟨around, member⟩
  exact not_mem_of_isSettled followsScope.owner settled (.inl rfl) isClosing member

/-- **The lines of the context leave the names of a program consistent** just when none of their
names is declared global in the render function. -/
theorem declaresConsistently_bindings_iff
    (consistent : declaresConsistently
      (renderDefinition (bufferStatement :: appendStatement :: inside) :: others) = true) :
    declaresConsistently (renderDefinition (bufferStatement :: appendStatement ::
        (names.map bindingStatement ++ inside)) :: others) = true ↔
      (∀ name ∈ names, name ∉ declaredNames .declaredGlobal (stmtsScopeEvents inside)) ∧
      (HoldsPublic names →
        text "_builtins" ∉ declaredNames .declaredGlobal (stmtsScopeEvents inside)) := by
  constructor
  · intro consistentBound
    constructor
    · intro name member
      refine not_declared_of_consistent (.inr rfl) consistentBound (mem_stmtsScopeEvents.mpr
        ⟨_, List.mem_map_of_mem member, ?_⟩)
      rw [scopeEvents_bindingStatement]
      split <;> simp
    · rintro ⟨name, member, isPublic⟩
      refine not_declared_of_consistent (.inl rfl) consistentBound (mem_stmtsScopeEvents.mpr
        ⟨_, List.mem_map_of_mem member, ?_⟩)
      rw [scopeEvents_bindingStatement, if_pos isPublic]
      simp
  · rintro ⟨free, freeOwn⟩
    have noNonlocal := declaredNonlocal_eq_nil consistent
    let declared (name : Name) : Prop :=
      name ∈ declaredNames .declaredGlobal (stmtsScopeEvents inside)
    have declares : ∀ event ∈ stmtsScopeEvents inside, event.Declares declared := by
      intro event member
      cases event with
      | use role name around =>
          rintro (rfl | rfl)
          · exact mem_declaredNames.mpr ⟨around, member⟩
          · have isDeclared := mem_declaredNames.mpr ⟨around, member⟩
            rw [noNonlocal] at isDeclared
            cases isDeclared
      | _ => trivial
    obtain ⟨closed, outer, scope, isClosing, appliedOthers, resolved⟩ :=
      declaresConsistently_iff.mp consistent
    obtain ⟨further, appliedLines, grows⟩ :=
      exists_applyAll_bindings [programScope] grows_functionScope free freeOwn
    obtain ⟨last, isLast, growsLast⟩ :=
      applyAll_grows (stmtsScopeEvents inside) (.here grows) (fun _ => declares) isClosing
    cases growsLast with
    | @here _ closedFurther _ growsClosed =>
        have keeps : closed.close.Keeps closedFurther.close := by
          unfold OpenScope.close
          rw [growsClosed.kind]
          exact isResolved_of_grows growsClosed.names (List.rel_reverse growsClosed.inner)
        obtain ⟨_, _, -, followsOuter, same⟩ :=
          List.forall₂_cons_left_iff.mp (applyAll_follows _ isClosing)
        cases same
        have followsOuter := (List.forall₂_cons.mp followsOuter).1
        have growsOuter : outer.Grows (fun _ => True) outer :=
          ⟨rfl, ⟨followsOuter.owner, followsOuter.owner⟩, .inl followsOuter.kind,
            .refl (followsOuter.faithful isFaithful_programScope),
            List.forall₂_same.mpr fun _ _ _ => id⟩
        obtain ⟨last, appliedFurther, growsLast⟩ := applyAll_grows (stmtsScopeEvents others)
          (.here (growsOuter.enclose growsClosed.kind keeps)) (fun _ event _ => by
            cases event with
            | use => exact fun _ => trivial
            | _ => trivial) appliedOthers
        cases growsLast with
        | @here _ scopeFurther _ growsScope =>
            refine declaresConsistently_iff.mpr ⟨closedFurther, outer, scopeFurther, ?_,
              appliedFurther, ?_⟩
            · rw [stmtsScopeEvents_append, applyAll_append, appliedLines]
              exact isLast
            · have keepsScope : scope.close.Keeps scopeFurther.close := by
                unfold OpenScope.close
                rw [growsScope.kind]
                exact isResolved_of_grows growsScope.names (List.rel_reverse growsScope.inner)
              exact keepsScope none resolved

end Stencil
