import Stencil.Proofs.Script.InsertedStatement

/-! # Scopes of programs with a further statement

What a further statement adds to the events of a program is at most one use of its name, in some
function or in the program itself (`Stencil.Script.AddsUse`). The scopes around it accept the same events as
before, and the program stays executable (`Stencil.Script.isExecutable_of_widened`).
-/

namespace Stencil.Script

mutual

/-- An event declares a name to live elsewhere, in its own scope or in one that opens. -/
def ScopeEvent.declares (name : Name) : ScopeEvent → Bool
  | .use role known _ => (role = .declaredGlobal || role = .declaredNonlocal) && known = name
  | .opens (.mk _ events) => anyDeclares name events
  | .walrus _ _ | .walrusEnds _ _ | .importAll | .yields | .awaits => false

/-- One of several events declares a name to live elsewhere. -/
def anyDeclares (name : Name) : List ScopeEvent → Bool
  | [] => false
  | event :: rest => event.declares name || anyDeclares name rest

end

/-- A name is read at most once more among some events of a program or a function. -/
inductive AddsUse (name : Name) : List ScopeEvent → List ScopeEvent → Prop
  | same (events : List ScopeEvent) : AddsUse name events events
  | here (before after : List ScopeEvent) :
      AddsUse name (before ++ after) (before ++ .use .read name .plain :: after)
  | inside (before after : List ScopeEvent) (isAsync : Bool) {events more : List ScopeEvent}
      (adds : AddsUse name events more) :
      AddsUse name (before ++ .opens (.mk (.function isAsync) events) :: after)
        (before ++ .opens (.mk (.function isAsync) more) :: after)

variable {name : Name} {value : Expr} {events further before after : List ScopeEvent}
  {former body more : List Stmt} {hold : List Stmt → Stmt}

theorem anyDeclares_append : anyDeclares name (before ++ after) =
    (anyDeclares name before || anyDeclares name after) := by
  induction before with
  | nil => rfl
  | cons event before ih => rw [List.cons_append, anyDeclares, anyDeclares, ih, Bool.or_assoc]

/-- Events that do not declare a name declare other names. -/
theorem declares_ne_of_anyDeclares (apart : anyDeclares name events = false) :
    ∀ event ∈ events, event.Declares (· ≠ name) := by
  induction events with
  | nil => exact fun _ member => nomatch member
  | cons event events ih =>
      rw [anyDeclares, Bool.or_eq_false_iff] at apart
      refine List.forall_mem_cons.mpr ⟨?_, ih apart.2⟩
      cases event with
      | use role known around =>
          rintro declares rfl
          have noDeclaration := apart.1
          unfold ScopeEvent.declares at noDeclaration
          rcases declares with rfl | rfl <;> simp at noDeclaration
      | _ => trivial

theorem AddsUse.surrounded (adds : AddsUse name events further) (front back : List ScopeEvent) :
    AddsUse name (front ++ events ++ back) (front ++ further ++ back) := by
  cases adds with
  | same => exact .same _
  | here before after =>
      have both : AddsUse name (front ++ before ++ (after ++ back))
          (front ++ before ++ .use .read name .plain :: (after ++ back)) := .here _ _
      simpa only [List.append_assoc, List.cons_append] using both
  | inside before after isAsync adds =>
      have both := AddsUse.inside (front ++ before) (after ++ back) isAsync adds
      simpa only [List.append_assoc, List.cons_append] using both

/-- The events of a block belong to the scope around its statement, or to the function that the
statement defines. -/
theorem Holder.exists_scopeEvents (holds : Holder hold) :
    (∃ front back : List ScopeEvent,
      ∀ body, (hold body).scopeEvents = front ++ stmtsScopeEvents body ++ back) ∨
    ∃ (front : List ScopeEvent) (isAsync : Bool) (parameters : List Parameter),
      ∀ body, (hold body).scopeEvents = front ++ [.opens (.ofFunction isAsync parameters body)] := by
  have all {statement : List Stmt → Stmt} (front back : List ScopeEvent)
      (same : ∀ body, (statement body).scopeEvents = front ++ stmtsScopeEvents body ++ back) :
      ∃ front back : List ScopeEvent,
        ∀ body, (statement body).scopeEvents = front ++ stmtsScopeEvents body ++ back :=
    ⟨front, back, same⟩
  cases holds with
  | whenTrue test otherwise =>
      exact .inl (all (test.scopeEvents .plain) (stmtsScopeEvents otherwise) fun _ => rfl)
  | whenFalse test body =>
      exact .inl (all (test.scopeEvents .plain ++ stmtsScopeEvents body) []
        fun _ => (List.append_nil _).symm)
  | whileBody test otherwise =>
      exact .inl (all (test.scopeEvents .plain) (stmtsScopeEvents otherwise) fun _ => rfl)
  | whileOtherwise test body =>
      exact .inl (all (test.scopeEvents .plain ++ stmtsScopeEvents body) []
        fun _ => (List.append_nil _).symm)
  | forBody _ target source otherwise =>
      exact .inl (all (target.scopeEvents .plain ++ source.scopeEvents .plain)
        (stmtsScopeEvents otherwise) fun _ => rfl)
  | forOtherwise _ target source body =>
      exact .inl (all (target.scopeEvents .plain ++ source.scopeEvents .plain ++
        stmtsScopeEvents body) [] fun _ => (List.append_nil _).symm)
  | tryBody _ handlers otherwise always =>
      exact .inl (all [] (stmtsScopeEvents otherwise ++ handlersScopeEvents handlers ++
        stmtsScopeEvents always) fun body => by
          simp only [Stmt.scopeEvents, List.nil_append, List.append_assoc])
  | handler _ body before after kind known otherwise always =>
      exact .inl (all (stmtsScopeEvents body ++ stmtsScopeEvents otherwise ++
        handlersScopeEvents before ++ optionScopeEvents .plain kind ++ bindOptionEvent known)
        (handlersScopeEvents after ++ stmtsScopeEvents always) fun handled => by
          simp only [Stmt.scopeEvents, handlersScopeEvents_append, handlersScopeEvents,
            Handler.scopeEvents, List.append_assoc])
  | tryOtherwise _ body handlers always =>
      exact .inl (all (stmtsScopeEvents body) (handlersScopeEvents handlers ++
        stmtsScopeEvents always) fun otherwise => by
          simp only [Stmt.scopeEvents, List.append_assoc])
  | tryAlways _ body handlers otherwise =>
      exact .inl (all (stmtsScopeEvents body ++ stmtsScopeEvents otherwise ++
        handlersScopeEvents handlers) [] fun _ => (List.append_nil _).symm)
  | withBody _ items =>
      exact .inl (all (items.flatMap WithItem.scopeEvents) [] fun _ => (List.append_nil _).symm)
  | caseBody subject before after pattern guard =>
      exact .inl (all (subject.scopeEvents .plain ++ casesScopeEvents before ++
        pattern.scopeEvents ++ optionScopeEvents .plain guard) (casesScopeEvents after)
        fun body => by
          simp only [Stmt.scopeEvents, casesScopeEvents_append, casesScopeEvents,
            MatchCase.scopeEvents, List.append_assoc])
  | functionBody isAsync known parameters hint decorators =>
      exact .inr ⟨bindEvent known :: (standardsScopeEvents .plain parameters ++
        [.opens (.mk .hint (hintsScopeEvents .plain parameters)),
          .opens (.mk .hint (optionScopeEvents .plain hint))] ++
        exprsScopeEvents .plain decorators), isAsync, parameters, fun _ => rfl⟩

theorem Holder.addsUse (holds : Holder hold)
    (adds : AddsUse name (stmtsScopeEvents body) (stmtsScopeEvents more)) :
    AddsUse name (hold body).scopeEvents (hold more).scopeEvents := by
  rcases holds.exists_scopeEvents with ⟨front, back, same⟩ | ⟨front, isAsync, parameters, same⟩
  · rw [same, same]
    exact adds.surrounded front back
  · have inner := adds.surrounded (parameterScopeEvents parameters) []
    rw [List.append_nil, List.append_nil] at inner
    rw [same, same]
    exact .inside front [] isAsync inner

/-- A statement that reads one name adds a use of it, unless another one was there. -/
theorem Inserted.addsUse (formerReads : FormerReads name former)
    (reads : value.scopeEvents .plain = [.use .read name .plain])
    (inserted : Inserted former value body more) :
    AddsUse name (stmtsScopeEvents body) (stmtsScopeEvents more) := by
  induction inserted with
  | behind first rest =>
      cases formerReads with
      | nothing =>
          have adds : AddsUse name (first.scopeEvents ++ stmtsScopeEvents rest)
              (first.scopeEvents ++ .use .read name .plain :: stmtsScopeEvents rest) := .here _ _
          rwa [← List.singleton_append, ← reads] at adds
      | @another other otherReads =>
          have same : stmtsScopeEvents (first :: .expression other :: rest) =
              stmtsScopeEvents (first :: .expression value :: rest) := by
            simp only [stmtsScopeEvents, Stmt.scopeEvents, reads, otherReads.events]
          exact same ▸ .same _
  | later first _ ih =>
      have adds := ih.surrounded first.scopeEvents []
      rwa [List.append_nil, List.append_nil] at adds
  | inside rest holds _ ih => exact (holds.addsUse ih).surrounded [] (stmtsScopeEvents rest)

/-- A use of a name neither hands values to a caller nor waits. -/
theorem AddsUse.isGenerator_eq (adds : AddsUse name events further) (kind : ScopeKind) :
    (Scope.mk kind further).isGenerator = (Scope.mk kind events).isGenerator := by
  cases adds <;>
    simp only [Scope.isGenerator, Scope.events, List.any_append, List.any_cons, Bool.false_or]

theorem AddsUse.awaits_eq (adds : AddsUse name events further) (kind : ScopeKind) :
    (Scope.mk kind further).awaits = (Scope.mk kind events).awaits := by
  cases adds <;>
    simp only [Scope.awaits, anyAwaits_append, anyAwaits, ScopeEvent.isAwaiting, Bool.false_or]

/-- The innermost scope belongs to a program or a function outside of classes, and every name in it
has one status. -/
structure OpenScope.IsBase (scope : OpenScope) : Prop where
  owner : scope.owner = none
  kind : scope.kind = .program ∨ ∃ isAsync, scope.kind = .function isAsync
  faithful : scope.names.IsFaithful

namespace OpenScope.IsBase

variable {scope last : OpenScope}

theorem grows (base : scope.IsBase) {declared : Name → Prop} : scope.Grows declared scope where
  kind := rfl
  owner := ⟨base.owner, base.owner⟩
  isBase := base.kind
  names := .refl base.faithful
  inner := List.forall₂_same.mpr fun _ _ _ => id

theorem follows (base : scope.IsBase) (follows : scope.Follows last) : last.IsBase where
  owner := follows.owner.trans base.owner
  kind := follows.kind ▸ base.kind
  faithful := follows.faithful base.faithful

theorem opened (base : scope.IsBase) (isAsync : Bool) :
    (OpenScope.opened (.function isAsync) (some scope)).IsBase where
  owner := base.owner
  kind := .inr ⟨isAsync, rfl⟩
  faithful := NameTable.isFaithful_nil

end OpenScope.IsBase

/-- A name that is read once more in the innermost scope. -/
theorem exists_apply_read {scope : OpenScope} {outer : List OpenScope} (base : scope.IsBase)
    (plain : name ≠ classAboveName) :
    ∃ last, (ScopeEvent.use .read name .plain).apply (scope :: outer) = some last ∧
      StackGrows (· ≠ name) 0 (scope :: outer) last := by
  have same : scope.Grows (· ≠ name) scope := base.grows
  obtain ⟨last, used, grows⟩ := same.mark (.inl rfl) fun differs => (differs rfl).elim
  refine ⟨last :: outer, ?_, .here grows⟩
  have whole : scope.use .read name .plain = some last := by
    unfold OpenScope.use
    rw [used, Option.bind_eq_bind, Option.bind_some, if_neg (by simp [plain])]
    rfl
  rw [apply_use]
  exact Option.map_eq_some_iff.mpr ⟨last, whole, rfl⟩

/-- **A further use of a name is accepted**, and the other events are accepted as before. -/
theorem AddsUse.applyAll (adds : AddsUse name events further) (plain : name ≠ classAboveName) :
    ∀ {scope : OpenScope} {outer after : List OpenScope}, scope.IsBase →
      anyDeclares name events = false → Script.applyAll (scope :: outer) events = some after →
      ∃ last, Script.applyAll (scope :: outer) further = some last ∧
        StackGrows (· ≠ name) 0 after last := by
  induction adds with
  | same events =>
      intro scope outer after base _ applied
      obtain ⟨last, outerLast, follows, -, rfl⟩ :=
        List.forall₂_cons_left_iff.mp (applyAll_follows events applied)
      exact ⟨last :: outerLast, applied, .here (base.follows follows).grows⟩
  | here before behind =>
      intro scope outer after base apart applied
      rw [anyDeclares_append, Bool.or_eq_false_iff] at apart
      rw [applyAll_append] at applied ⊢
      obtain ⟨between, appliedBefore, applied⟩ := Option.bind_eq_some_iff.mp applied
      obtain ⟨scopeBetween, outerBetween, follows, -, rfl⟩ :=
        List.forall₂_cons_left_iff.mp (applyAll_follows before appliedBefore)
      obtain ⟨marked, isMarked, grows⟩ :
          ∃ marked, (ScopeEvent.use .read name .plain).apply (scopeBetween :: outerBetween) =
            some marked ∧ StackGrows (· ≠ name) 0 (scopeBetween :: outerBetween) marked :=
        exists_apply_read (base.follows follows) plain
      obtain ⟨last, isLast, growsLast⟩ := applyAll_grows behind grows
        (fun _ => declares_ne_of_anyDeclares apart.2) applied
      refine ⟨last, ?_, growsLast⟩
      rw [appliedBefore, Option.bind_some, Script.applyAll, isMarked]
      exact isLast
  | @inside before behind isAsync events further _ ih =>
      intro scope outer after base apart applied
      rw [anyDeclares_append, Bool.or_eq_false_iff, anyDeclares, Bool.or_eq_false_iff] at apart
      rw [applyAll_append] at applied ⊢
      obtain ⟨between, appliedBefore, applied⟩ := Option.bind_eq_some_iff.mp applied
      obtain ⟨scopeBetween, outerBetween, follows, -, rfl⟩ :=
        List.forall₂_cons_left_iff.mp (applyAll_follows before appliedBefore)
      have baseBetween := base.follows follows
      obtain ⟨behindOpening, opening, applied⟩ := Option.bind_eq_some_iff.mp applied
      obtain ⟨closing, appliedInside, opening⟩ := Option.bind_eq_some_iff.mp opening
      obtain ⟨closed, others, followsInside, followsOuter, rfl⟩ :=
        List.forall₂_cons_left_iff.mp (applyAll_follows events appliedInside)
      obtain ⟨around, aroundOuter, followsAround, -, rfl⟩ := List.forall₂_cons_left_iff.mp followsOuter
      cases opening
      obtain ⟨lastInside, isLastInside, growsInside⟩ :=
        ih (baseBetween.opened isAsync) apart.2.1 appliedInside
      cases growsInside with
      | @here _ closedFurther _ growsHere =>
          have sameAround : around.Grows (· ≠ name) around :=
            (baseBetween.follows followsAround).grows
          have enclosed := sameAround.enclose growsHere.kind growsHere.keeps
          obtain ⟨last, isLast, growsLast⟩ := applyAll_grows behind (.here enclosed)
            (fun _ => declares_ne_of_anyDeclares apart.2.2) applied
          refine ⟨last, ?_, growsLast⟩
          rw [appliedBefore, Option.bind_some, Script.applyAll]
          refine Option.bind_eq_some_iff.mpr ⟨_, ?_, isLast⟩
          exact Option.bind_eq_some_iff.mpr ⟨_, isLastInside, rfl⟩

/-- **The declarations of a program stay consistent** when a name is read once more in it. -/
theorem declaresConsistently_of_addsUse {program longer : Program} (plain : name ≠ classAboveName)
    (adds : AddsUse name (stmtsScopeEvents program) (stmtsScopeEvents longer))
    (apart : anyDeclares name (stmtsScopeEvents program) = false)
    (consistent : declaresConsistently program = true) : declaresConsistently longer = true := by
  have base : (OpenScope.opened .program none).IsBase := ⟨rfl, .inl rfl, NameTable.isFaithful_nil⟩
  unfold declaresConsistently at consistent ⊢
  split at consistent
  · next scope applied =>
      obtain ⟨last, isLast, grows⟩ := adds.applyAll plain base apart applied
      cases grows with
      | here grows =>
          rw [isLast]
          exact grows.keeps _ consistent
  · cases consistent

variable {place handler : Place}

theorem handlersArePlaced_of_imp {before after : List Handler} {kind : Option Expr}
    {known : Option Name}
    (keeps : stmtsArePlaced handler body = true → stmtsArePlaced handler more = true)
    (placed : handlersArePlaced place handler (before ++ .mk kind known body :: after) = true) :
    handlersArePlaced place handler (before ++ .mk kind known more :: after) = true := by
  induction before with
  | nil =>
      simp only [List.nil_append, handlersArePlaced, Bool.and_eq_true] at placed ⊢
      exact ⟨⟨placed.1.1, keeps placed.1.2⟩, placed.2⟩
  | cons first before ih =>
      obtain ⟨firstKind, firstName, firstBody⟩ := first
      have sameEnd : (before ++ .mk kind known more :: after).isEmpty =
          (before ++ .mk kind known body :: after).isEmpty := by cases before <;> rfl
      simp only [List.cons_append, handlersArePlaced, Bool.and_eq_true, sameEnd] at placed ⊢
      exact ⟨placed.1, ih placed.2⟩

theorem casesArePlaced_of_imp {before after : List MatchCase} {pattern : Pattern}
    {guard : Option Expr}
    (keeps : stmtsArePlaced place body = true → stmtsArePlaced place more = true)
    (placed : casesArePlaced place (before ++ .mk pattern guard body :: after) = true) :
    casesArePlaced place (before ++ .mk pattern guard more :: after) = true := by
  induction before with
  | nil =>
      simp only [List.nil_append, casesArePlaced, Bool.and_eq_true] at placed ⊢
      exact ⟨⟨placed.1.1, keeps placed.1.2⟩, placed.2⟩
  | cons first before ih =>
      obtain ⟨firstPattern, firstGuard, firstBody⟩ := first
      have sameEnd : (before ++ .mk pattern guard more :: after).isEmpty =
          (before ++ .mk pattern guard body :: after).isEmpty := by cases before <;> rfl
      simp only [List.cons_append, casesArePlaced, Bool.and_eq_true, sameEnd] at placed ⊢
      exact ⟨placed.1, ih placed.2⟩

/-- A statement stays in its place when the statements of its block do. -/
theorem Holder.isPlaced (holds : Holder hold)
    (keeps : ∀ place, stmtsArePlaced place body = true → stmtsArePlaced place more = true)
    (held : body ≠ [] ∧ more ≠ [])
    (adds : AddsUse name (stmtsScopeEvents body) (stmtsScopeEvents more))
    (placed : (hold body).isPlaced place = true) : (hold more).isPlaced place = true := by
  have sameEmpty : more.isEmpty = body.isEmpty := by
    rw [List.isEmpty_eq_false_iff.mpr held.1, List.isEmpty_eq_false_iff.mpr held.2]
  have goesOn : ∀ {place}, stmtsArePlaced place body = true → stmtsArePlaced place more = true :=
    fun {place} => keeps place
  cases holds with
  | whenTrue _ _ | whenFalse _ _ | whileBody _ _ | whileOtherwise _ _ | forBody _ _ _ _
  | forOtherwise _ _ _ _ | withBody _ _ | tryBody _ _ _ _ | tryOtherwise _ _ _ _ =>
      simp only [Stmt.isPlaced, Bool.and_eq_true] at placed ⊢
      first
        | exact ⟨placed.1, goesOn placed.2⟩
        | exact ⟨⟨placed.1.1, goesOn placed.1.2⟩, placed.2⟩
        | exact ⟨⟨⟨⟨⟨placed.1.1.1.1.1, goesOn placed.1.1.1.1.2⟩, placed.1.1.1.2⟩, placed.1.1.2⟩,
            placed.1.2⟩, placed.2⟩
  | tryAlways _ _ _ _ =>
      simp only [Stmt.isPlaced, Bool.and_eq_true, sameEmpty] at placed ⊢
      exact ⟨placed.1, goesOn placed.2⟩
  | handler _ _ before after kind known _ _ =>
      have sameHandlers : (before ++ .mk kind known more :: after).isEmpty =
          (before ++ .mk kind known body :: after).isEmpty := by cases before <;> rfl
      simp only [Stmt.isPlaced, Bool.and_eq_true, sameHandlers] at placed ⊢
      exact ⟨⟨⟨placed.1.1.1, handlersArePlaced_of_imp goesOn placed.1.1.2⟩, placed.1.2⟩, placed.2⟩
  | caseBody _ _ _ _ _ =>
      simp only [Stmt.isPlaced, Bool.and_eq_true] at placed ⊢
      exact ⟨placed.1, casesArePlaced_of_imp goesOn placed.2⟩
  | functionBody isAsync _ parameters _ _ =>
      have inner := adds.surrounded (parameterScopeEvents parameters) []
      rw [List.append_nil, List.append_nil] at inner
      have sameScope : (Scope.ofFunction isAsync parameters more).isGenerator =
            (Scope.ofFunction isAsync parameters body).isGenerator ∧
          (Scope.ofFunction isAsync parameters more).awaits =
            (Scope.ofFunction isAsync parameters body).awaits :=
        ⟨inner.isGenerator_eq _, inner.awaits_eq _⟩
      simp only [Stmt.isPlaced, Bool.and_eq_true, sameScope.1, sameScope.2] at placed ⊢
      exact ⟨placed.1, goesOn placed.2⟩

theorem Inserted.arePlaced (formerReads : FormerReads name former) (reads : value.ReadsOnly name)
    (inserted : Inserted former value body more) :
    ∀ place, stmtsArePlaced place body = true → stmtsArePlaced place more = true := by
  induction inserted with
  | behind first rest =>
      intro place placed
      simp only [stmtsArePlaced, stmtsArePlaced_append, Stmt.isPlaced, reads.placed, Bool.true_and,
        Bool.and_eq_true] at placed ⊢
      exact ⟨placed.1, placed.2.2⟩
  | later first _ ih =>
      intro place placed
      simp only [stmtsArePlaced, Bool.and_eq_true] at placed ⊢
      exact ⟨placed.1, ih place placed.2⟩
  | inside rest holds inserted ih =>
      intro place placed
      simp only [stmtsArePlaced, Bool.and_eq_true] at placed ⊢
      exact ⟨holds.isPlaced ih inserted.ne_nil (inserted.addsUse formerReads reads.events) placed.1,
        placed.2⟩

/-- A name that nothing declares to live elsewhere is still declared nowhere. -/
theorem AddsUse.anyDeclares_eq {other : Name} (adds : AddsUse name events further) :
    anyDeclares other further = anyDeclares other events := by
  induction adds with
  | same => rfl
  | here before after =>
      simp only [anyDeclares_append, anyDeclares, ScopeEvent.declares]
      simp
  | inside before after isAsync _ ih =>
      simp only [anyDeclares_append, anyDeclares, ScopeEvent.declares, ih]

/-- **A program stays executable** when statements are put into it that read a name which nothing
in the program declares to live elsewhere. -/
theorem isExecutable_of_widened {program longer : Program} (formerReads : FormerReads name former)
    (reads : value.ReadsOnly name) (plain : name ≠ classAboveName)
    (apart : anyDeclares name (stmtsScopeEvents program) = false)
    (widened : Widened former value program longer) (executable : isExecutable program = true) :
    isExecutable longer = true ∧ anyDeclares name (stmtsScopeEvents longer) = false := by
  induction widened with
  | refl => exact ⟨executable, apart⟩
  | tail _ inserted ih =>
      obtain ⟨executable, apart⟩ := ih
      have adds := inserted.addsUse formerReads reads.events
      rw [isExecutable, Bool.and_eq_true] at executable ⊢
      exact ⟨⟨declaresConsistently_of_addsUse plain adds apart executable.1,
        inserted.arePlaced formerReads reads _ executable.2⟩, adds.anyDeclares_eq.trans apart⟩

end Stencil.Script
