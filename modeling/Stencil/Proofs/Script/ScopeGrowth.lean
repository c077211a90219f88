import Stencil.Proofs.Script.NameTables

/-! # Scopes with more uses of names

A function that reads and binds more names at its start is read in the same way behind them: the
events of its body are accepted as before (`Stencil.Script.applyAll_grows`), unless the body declares
one of these names to live elsewhere. Names stay settled and nonlocal while a scope is read
(`Stencil.Script.applyAll_follows`).
-/

namespace Stencil.Script

variable {declared : Name → Prop} {name : Name} {role : NameRole} {around : Surroundings}

/-- Outside of classes a name stands for itself. -/
theorem privateName_none : privateName none name = name := by
  have bare : ((none : Option Name).getD []).dropWhile (fun point => text "_" == [point]) = [] := rfl
  unfold privateName
  dsimp only
  rw [bare]
  simp only [List.isEmpty_nil, Bool.not_true, Bool.and_false, Bool.false_eq_true, ↓reduceIte]

namespace OpenScope

variable {scope further after : OpenScope}

/-- A scope does not allow a role for a name that has been used in another one. -/
def refuses (scope : OpenScope) (role : NameRole) (name : Name) : Bool :=
  match role with
  | .declaredGlobal | .declaredNonlocal => (scope.names.status name).isSettled
  | .hinted => (scope.names.status name).isElsewhere && scope.kind != .program
  | _ => false

theorem useOnly_eq : scope.useOnly role name around =
    if scope.refuses role (privateName scope.owner name) then none
    else (scope.names.use role (privateName scope.owner name) around.inTarget).map fun names =>
      { scope with names := names } := by
  unfold useOnly refuses
  cases role <;>
  · dsimp only
    split
    · rfl
    · cases scope.names.use _ (privateName scope.owner name) around.inTarget <;> rfl

/-- A scope is another one in which more names may have been read and bound. -/
structure Grows (declared : Name → Prop) (scope further : OpenScope) : Prop where
  kind : further.kind = scope.kind
  owner : scope.owner = none ∧ further.owner = none
  isBase : scope.kind = .program ∨ ∃ isAsync, scope.kind = .function isAsync
  names : NameTable.Grows declared scope.names further.names
  inner : List.Forall₂ ScopeTable.Keeps scope.inner further.inner

theorem Grows.useOnly (grows : Grows declared scope further)
    (allowed : role = .declaredGlobal ∨ role = .declaredNonlocal → declared name)
    (used : scope.useOnly role name around = some after) :
    ∃ last, further.useOnly role name around = some last ∧ Grows declared after last := by
  rw [useOnly_eq, grows.owner.1, privateName_none] at used
  rw [useOnly_eq, grows.owner.2, privateName_none]
  split at used
  · cases used
  next accepts =>
    have acceptsFurther : ¬further.refuses role name = true := by
      intro refused
      refine accepts ?_
      unfold refuses at refused ⊢
      cases role with
      | declaredGlobal => exact grows.names.free name (allowed (.inl rfl)) refused
      | declaredNonlocal => exact grows.names.free name (allowed (.inr rfl)) refused
      | hinted => rwa [(grows.names.each name).isElsewhere, grows.kind] at refused
      | _ => cases refused
    obtain ⟨names, isUsed, rfl⟩ := Option.map_eq_some_iff.mp used
    obtain ⟨last, isUsedFurther, namesGrow⟩ := grows.names.use isUsed
    rw [if_neg acceptsFurther, isUsedFurther]
    exact ⟨_, rfl, grows.kind, ⟨rfl, rfl⟩, grows.isBase, namesGrow, grows.inner⟩

theorem Grows.use (grows : Grows declared scope further)
    (allowed : role = .declaredGlobal ∨ role = .declaredNonlocal → declared name)
    (used : scope.use role name around = some after) :
    ∃ last, further.use role name around = some last ∧ Grows declared after last := by
  obtain ⟨once, usedOnce, used⟩ := Option.bind_eq_some_iff.mp used
  obtain ⟨last, usedFurther, growsOnce⟩ := grows.useOnly allowed usedOnce
  unfold OpenScope.use
  rw [usedFurther, grows.kind, Option.bind_eq_bind, Option.bind_some]
  split at used
  · next readsAbove =>
      rw [if_pos readsAbove]
      exact growsOnce.useOnly (fun declares => by rcases declares with isRead | isRead <;> cases isRead) used
  · next plain =>
      rw [if_neg plain]
      cases used
      exact ⟨last, rfl, growsOnce⟩

/-- A name is read or bound in the second scope only. -/
theorem Grows.mark (grows : Grows declared scope further) (isUse : role = .read ∨ role = .bind)
    (apart : declared name → (scope.names.status name).isSettled = true) :
    ∃ last, further.useOnly role name .plain = some last ∧ Grows declared scope last := by
  have accepts : ¬further.refuses role name = true := by
    rcases isUse with rfl | rfl
    · exact Bool.false_ne_true
    · exact Bool.false_ne_true
  have used : further.names.use role name Surroundings.plain.inTarget =
      some (further.names.update name ((further.names.status name).after role)) := by
    rcases isUse with rfl | rfl
    · rfl
    · rfl
  rw [useOnly_eq, grows.owner.2, privateName_none, if_neg accepts, used]
  exact ⟨_, rfl, grows.kind, ⟨grows.owner.1, rfl⟩, grows.isBase, grows.names.mark isUse apart,
    grows.inner⟩

/-- A scope has been read further. -/
structure Follows (scope further : OpenScope) : Prop where
  kind : further.kind = scope.kind
  owner : further.owner = scope.owner
  names : ∀ name, (scope.names.status name).Follows (further.names.status name)
  faithful : scope.names.IsFaithful → further.names.IsFaithful
  inner : scope.inner ⊆ further.inner

theorem Follows.refl (scope : OpenScope) : scope.Follows scope :=
  ⟨rfl, rfl, fun _ => .refl _, id, List.Subset.refl _⟩

theorem Follows.trans {last : OpenScope} (first : scope.Follows further)
    (second : further.Follows last) : scope.Follows last :=
  ⟨second.kind.trans first.kind, second.owner.trans first.owner,
    fun name => (first.names name).trans (second.names name), second.faithful ∘ first.faithful,
    List.Subset.trans first.inner second.inner⟩

theorem follows_names {names : NameTable} {known : Name} {inTarget : Bool}
    (used : scope.names.use role known inTarget = some names) :
    scope.Follows { scope with names := names } :=
  ⟨rfl, rfl, NameTable.follows_use used, fun faithful => faithful.use used, List.Subset.refl _⟩

theorem follows_useOnly (used : scope.useOnly role name around = some after) :
    scope.Follows after := by
  rw [useOnly_eq] at used
  split at used
  · cases used
  · obtain ⟨names, isUsed, rfl⟩ := Option.map_eq_some_iff.mp used
    exact follows_names isUsed

theorem follows_use (used : scope.use role name around = some after) : scope.Follows after := by
  obtain ⟨once, usedOnce, used⟩ := Option.bind_eq_some_iff.mp used
  have first := follows_useOnly usedOnce
  split at used
  · exact first.trans (follows_useOnly used)
  · cases used
    exact first

theorem follows_enclose (scope closed : OpenScope) : scope.Follows (scope.enclose closed) := by
  unfold enclose
  split
  · exact .refl _
  · exact ⟨rfl, rfl, fun _ => .refl _, id, List.subset_cons_self _ _⟩

end OpenScope

/-- The scopes around an event, of which one has more names; so many scopes are open inside it. -/
inductive StackGrows (declared : Name → Prop) : Nat → List OpenScope → List OpenScope → Prop
  | here {scope further : OpenScope} {outer : List OpenScope}
      (grows : OpenScope.Grows declared scope further) :
      StackGrows declared 0 (scope :: outer) (further :: outer)
  | inside {count : Nat} {scope : OpenScope} {scopes others : List OpenScope}
      (grows : StackGrows declared count scopes others) :
      StackGrows declared (count + 1) (scope :: scopes) (scope :: others)

variable {count : Nat} {scopes others after : List OpenScope}

/-- A scope that opens starts in the same way. -/
theorem StackGrows.opened_eq (grows : StackGrows declared count scopes others) (kind : ScopeKind) :
    OpenScope.opened kind others.head? = OpenScope.opened kind scopes.head? := by
  cases grows with
  | here grows =>
      unfold OpenScope.opened
      cases kind <;> simp only [List.head?_cons, Option.bind_some, grows.owner]
  | inside _ => rfl

/-- A scope has the same kind. -/
theorem StackGrows.kind_eq (grows : StackGrows declared count scopes others) :
    others.head?.map OpenScope.kind = scopes.head?.map OpenScope.kind := by
  cases grows with
  | here grows => exact congrArg some grows.kind
  | inside _ => rfl

/-- An assignment inside a comprehension lands in a scope, or goes on to those around it. -/
theorem landWalrus_cons (name : Name) (scope : OpenScope) :
    (∃ answer : Option (NameRole × OpenScope),
      (∀ outer, landWalrus name (scope :: outer) =
        answer.map fun found => (found.1, found.2 :: outer)) ∧
      ∀ found ∈ answer, scope.Follows found.2) ∨
    ∀ outer, landWalrus name (scope :: outer) =
      (landWalrus name outer).map fun found => (found.1, scope :: found.2) := by
  obtain ⟨kind, owner, names, inner⟩ := scope
  have lands : ∀ (landing : NameRole) (answered : NameRole),
      ∃ answer : Option (NameRole × OpenScope),
        (∀ outer : List OpenScope,
          ((names.use landing (privateName owner name) false).bind fun landed =>
            some (answered, ({ kind := kind, owner := owner, names := landed, inner := inner } :
              OpenScope) :: outer)) = answer.map fun found => (found.1, found.2 :: outer)) ∧
        ∀ found ∈ answer, (OpenScope.mk kind owner names inner).Follows found.2 := by
    intro landing answered
    refine ⟨(names.use landing (privateName owner name) false).map fun landed =>
      (answered, ⟨kind, owner, landed, inner⟩), fun outer => ?_, fun found isFound => ?_⟩
    · cases names.use landing (privateName owner name) false <;> rfl
    · obtain ⟨landed, isLanded, rfl⟩ := Option.map_eq_some_iff.mp isFound
      exact OpenScope.follows_names isLanded
  cases kind with
  | program => exact .inl (lands .declaredGlobal .declaredGlobal)
  | function isAsync => exact .inl (lands .bind _)
  | lambda => exact .inl (lands .bind _)
  | ofClass _ => exact .inl ⟨none, fun _ => rfl, fun _ isFound => nomatch isFound⟩
  | hint => exact .inr fun _ => rfl
  | comprehension _ =>
      by_cases blocked : (names.status name).isIterated = true
      · exact .inl ⟨none, fun _ => if_pos blocked, fun _ isFound => nomatch isFound⟩
      · exact .inr fun _ => if_neg blocked

/-- What an assignment inside a comprehension is for the program or the function that it lands in,
and for the comprehension. -/
def OpenScope.landing (scope : OpenScope) (name : Name) : NameRole × NameRole :=
  if scope.kind = .program then (.declaredGlobal, .declaredGlobal)
  else (.bind, if (scope.names.status name).isGlobal then .declaredGlobal else .declaredNonlocal)

theorem landWalrus_base {scope : OpenScope} {outer : List OpenScope}
    (isBase : scope.kind = .program ∨ ∃ isAsync, scope.kind = .function isAsync) :
    landWalrus name (scope :: outer) =
      (scope.names.use (scope.landing name).1 (privateName scope.owner name) false).map fun landed =>
        ((scope.landing name).2, { scope with names := landed } :: outer) := by
  obtain ⟨kind, owner, names, inner⟩ := scope
  rcases isBase with isProgram | ⟨isAsync, isFunction⟩
  · cases isProgram
    rw [Option.map_eq_bind]
    rfl
  · cases isFunction
    rw [Option.map_eq_bind]
    rfl

theorem StackGrows.landWalrus (grows : StackGrows declared count scopes others)
    (landed : landWalrus name scopes = some (role, after)) :
    ∃ last, Script.landWalrus name others = some (role, last) ∧
      StackGrows declared count after last := by
  induction grows generalizing after with
  | @here scope further outer grows =>
      have isBase : further.kind = .program ∨ ∃ isAsync, further.kind = .function isAsync :=
        grows.kind ▸ grows.isBase
      have landing : further.landing name = scope.landing name := by
        unfold OpenScope.landing
        rw [grows.kind, (grows.names.each name).global]
      rw [landWalrus_base grows.isBase, grows.owner.1] at landed
      rw [landWalrus_base isBase, grows.owner.2, landing]
      obtain ⟨names, used, same⟩ := Option.map_eq_some_iff.mp landed
      obtain ⟨namesFurther, usedFurther, namesGrow⟩ := grows.names.use used
      cases same
      rw [usedFurther]
      exact ⟨_, rfl, .here ⟨grows.kind, ⟨rfl, rfl⟩, grows.isBase, namesGrow, grows.inner⟩⟩
  | @inside count scope scopes others grows ih =>
      rcases landWalrus_cons name scope with ⟨answer, stops, -⟩ | passes
      · rw [stops] at landed ⊢
        obtain ⟨found, isFound, same⟩ := Option.map_eq_some_iff.mp landed
        cases same
        exact ⟨found.2 :: others, by rw [isFound]; rfl, .inside grows⟩
      · rw [passes] at landed ⊢
        obtain ⟨found, isFound, same⟩ := Option.map_eq_some_iff.mp landed
        cases same
        obtain ⟨last, isLast, further⟩ := ih isFound
        exact ⟨scope :: last, by rw [isLast]; rfl, .inside further⟩

/-- An assignment inside an expression begins in a comprehension by landing somewhere around it, and
elsewhere by nothing. -/
theorem beginWalrus_cons (name : Name) (around : Surroundings) (innermost : OpenScope) :
    (∃ accepts : Bool, ∀ outer, beginWalrus name around (innermost :: outer) =
      if accepts then some (innermost :: outer) else none) ∨
    innermost.kind.isComprehension = true ∧
      ∀ outer, beginWalrus name around (innermost :: outer) =
        (landWalrus name outer).bind fun landed =>
          (innermost.names.use landed.1 (privateName innermost.owner name) around.inTarget).map
            fun names => { innermost with names := names } :: landed.2 := by
  obtain ⟨kind, owner, names, inner⟩ := innermost
  by_cases refused : around.inSource = true ∨ kind = .hint
  · refine .inl ⟨false, fun outer => ?_⟩
    unfold beginWalrus
    rcases refused with inSource | rfl
    · rw [if_pos inSource]
      rfl
    · split
      · rfl
      · rfl
  rw [not_or] at refused
  obtain ⟨notInSource, noHint⟩ := refused
  have plain : ∀ outer, beginWalrus name around (⟨kind, owner, names, inner⟩ :: outer) =
      if kind.isComprehension then
        if (names.status name).isIterated then none
        else (landWalrus name outer).bind fun landed =>
          (names.use landed.1 (privateName owner name) around.inTarget).map fun names =>
            ⟨kind, owner, names, inner⟩ :: landed.2
      else some (⟨kind, owner, names, inner⟩ :: outer) := by
    intro outer
    have notHint : ((⟨kind, owner, names, inner⟩ :: outer : List OpenScope).head?.any
        OpenScope.isHint) = false := beq_eq_false_iff_ne.mpr noHint
    unfold beginWalrus
    rw [if_neg notInSource, notHint, if_neg Bool.false_ne_true]
    change (if kind.isComprehension then _ else _) = _
    split
    · split
      · rfl
      · change (landWalrus name outer).bind _ = (landWalrus name outer).bind _
        cases landWalrus name outer with
        | none => rfl
        | some landed =>
            change (names.use landed.1 (privateName owner name) around.inTarget).bind _ = _
            rw [Option.bind_some, Option.map_eq_bind]
            rfl
    · rfl
  by_cases isComprehension : kind.isComprehension = true
  · by_cases blocked : (names.status name).isIterated = true
    · exact .inl ⟨false, fun outer => by rw [plain, if_pos isComprehension, if_pos blocked]; rfl⟩
    · exact .inr ⟨isComprehension, fun outer => by
        rw [plain, if_pos isComprehension, if_neg blocked]⟩
  · exact .inl ⟨true, fun outer => by rw [plain, if_neg isComprehension]; rfl⟩

theorem StackGrows.beginWalrus (grows : StackGrows declared count scopes others)
    (begun : beginWalrus name around scopes = some after) :
    ∃ last, Script.beginWalrus name around others = some last ∧
      StackGrows declared count after last := by
  cases grows with
  | @here scope further outer grows =>
      have notHint : ∀ {kind : ScopeKind},
          kind = .program ∨ (∃ isAsync, kind = .function isAsync) →
            kind.isComprehension = false ∧ (kind == .hint) = false := by
        rintro kind (rfl | ⟨isAsync, rfl⟩)
        · exact ⟨rfl, rfl⟩
        · exact ⟨rfl, rfl⟩
      have plain : ∀ {innermost : OpenScope},
          innermost.kind = .program ∨ (∃ isAsync, innermost.kind = .function isAsync) →
            Script.beginWalrus name around (innermost :: outer) =
              if around.inSource then none else some (innermost :: outer) := by
        intro innermost isBase
        obtain ⟨noComprehension, noHint⟩ := notHint isBase
        unfold Script.beginWalrus
        simp only [List.head?_cons, Option.any_some, OpenScope.isHint, noHint, Bool.false_eq_true,
          ↓reduceIte, Option.map_some, List.tail_cons, noComprehension, Option.bind_eq_bind,
          Option.bind_some, Option.pure_def]
      rw [plain grows.isBase] at begun
      rw [plain (grows.kind ▸ grows.isBase)]
      split at begun
      · cases begun
      · next notInSource =>
          cases begun
          rw [if_neg notInSource]
          exact ⟨_, rfl, .here grows⟩
  | @inside count scope scopes others grows =>
      rcases beginWalrus_cons name around scope with ⟨accepts, stops⟩ | ⟨-, lands⟩
      · rw [stops] at begun ⊢
        cases accepts with
        | false => cases begun
        | true =>
            cases begun
            exact ⟨_, rfl, .inside grows⟩
      · rw [lands] at begun ⊢
        obtain ⟨landed, isLanded, begun⟩ := Option.bind_eq_some_iff.mp begun
        obtain ⟨names, used, rfl⟩ := Option.map_eq_some_iff.mp begun
        obtain ⟨last, isLast, further⟩ := grows.landWalrus isLanded
        rw [isLast, Option.bind_some, used]
        exact ⟨_, rfl, .inside further⟩

/-- A name that an event declares to live elsewhere is one of some names. -/
def ScopeEvent.Declares (declared : Name → Prop) : ScopeEvent → Prop
  | .use role name _ => role = .declaredGlobal ∨ role = .declaredNonlocal → declared name
  | _ => True

theorem OpenScope.Grows.enclose {scope further : OpenScope} (grows : scope.Grows declared further)
    {closed closedFurther : OpenScope} (kind : closedFurther.kind = closed.kind)
    (keeps : closed.close.Keeps closedFurther.close) :
    (scope.enclose closed).Grows declared (further.enclose closedFurther) := by
  have sameHint : closedFurther.isHint = closed.isHint := by
    rw [OpenScope.isHint, OpenScope.isHint, kind]
  unfold OpenScope.enclose
  rw [sameHint]
  split
  · exact grows
  · exact ⟨grows.kind, grows.owner, grows.isBase, grows.names, .cons keeps grows.inner⟩

/-- What is nonlocal in a scope or inside it is still found. -/
theorem OpenScope.Grows.keeps {declared : Name → Prop} {scope last : OpenScope}
    (grows : scope.Grows declared last) : scope.close.Keeps last.close := by
  unfold OpenScope.close
  rw [grows.kind]
  exact isResolved_of_grows grows.names (List.rel_reverse grows.inner)

/-- The scopes after a step of the innermost one. -/
def stepInnermost (step : OpenScope → Option OpenScope) : List OpenScope → Option (List OpenScope)
  | [] => none
  | innermost :: outer => (step innermost).map (· :: outer)

theorem apply_use (scopes : List OpenScope) : (ScopeEvent.use role name around).apply scopes =
    stepInnermost (·.use role name around) scopes := by
  cases scopes <;> rfl

theorem apply_walrusEnds (scopes : List OpenScope) : (ScopeEvent.walrusEnds name around).apply scopes =
    stepInnermost (·.useOnly .bind name around) scopes := by
  cases scopes <;> rfl

/-- An event that uses no names asks for the kind of the innermost scope only. -/
theorem exists_apply_eq {event : ScopeEvent}
    (isPlain : event = .importAll ∨ event = .yields ∨ event = .awaits) :
    ∃ test : Option ScopeKind → Bool, ∀ scopes, event.apply scopes =
      if test (scopes.head?.map OpenScope.kind) then some scopes else none := by
  rcases isPlain with rfl | rfl | rfl
  · refine ⟨fun kind => kind = some .program, fun scopes => ?_⟩
    simp only [decide_eq_true_eq]
    rfl
  · refine ⟨fun kind => !kind.any fun kind => kind.isComprehension || kind == .hint,
      fun scopes => ?_⟩
    cases scopes with
    | nil => rfl
    | cons innermost outer =>
        change (if innermost.refusesYield then _ else _) = if !innermost.refusesYield then _ else _
        cases innermost.refusesYield <;> rfl
  · refine ⟨fun kind => !kind.any (· == .hint), fun scopes => ?_⟩
    cases scopes with
    | nil => rfl
    | cons innermost outer =>
        change (if innermost.isHint then _ else _) = if !innermost.isHint then _ else _
        cases innermost.isHint <;> rfl

/-- The innermost scope takes the same step. -/
theorem StackGrows.stepInnermost (grows : StackGrows declared count scopes others)
    {step : OpenScope → Option OpenScope}
    (steps : count = 0 → ∀ {scope further after : OpenScope}, scope.Grows declared further →
      step scope = some after → ∃ last, step further = some last ∧ after.Grows declared last)
    (stepped : Script.stepInnermost step scopes = some after) :
    ∃ last, Script.stepInnermost step others = some last ∧
      StackGrows declared count after last := by
  cases grows with
  | here grows =>
      obtain ⟨next, isNext, rfl⟩ := Option.map_eq_some_iff.mp stepped
      obtain ⟨last, isLast, further⟩ := steps rfl grows isNext
      exact ⟨_, Option.map_eq_some_iff.mpr ⟨last, isLast, rfl⟩, .here further⟩
  | inside grows =>
      obtain ⟨next, isNext, rfl⟩ := Option.map_eq_some_iff.mp stepped
      exact ⟨_, Option.map_eq_some_iff.mpr ⟨next, isNext, rfl⟩, .inside grows⟩

/-- An event that uses no names is accepted as before. -/
theorem StackGrows.apply_plain (grows : StackGrows declared count scopes others)
    {event : ScopeEvent} (isPlain : event = .importAll ∨ event = .yields ∨ event = .awaits)
    (applied : event.apply scopes = some after) :
    ∃ last, event.apply others = some last ∧ StackGrows declared count after last := by
  obtain ⟨test, same⟩ := exists_apply_eq isPlain
  rw [same] at applied ⊢
  rw [grows.kind_eq]
  split at applied
  · next passes =>
      cases applied
      exact ⟨_, if_pos passes, grows⟩
  · cases applied

mutual

/-- An event is accepted as before, and the scope has more names behind it. -/
theorem ScopeEvent.apply_grows : ∀ (event : ScopeEvent) {count : Nat}
    {scopes others after : List OpenScope}, StackGrows declared count scopes others →
    (count = 0 → event.Declares declared) → event.apply scopes = some after →
    ∃ last, event.apply others = some last ∧ StackGrows declared count after last
  | .use role name around, _, _, _, _, grows, allowed, applied => by
      rw [apply_use] at applied ⊢
      exact grows.stepInnermost (fun here _ _ _ grows used => grows.use (allowed here) used) applied
  | .walrus name around, _, _, _, _, grows, _, applied => grows.beginWalrus applied
  | .walrusEnds name around, _, _, _, _, grows, _, applied => by
      rw [apply_walrusEnds] at applied ⊢
      exact grows.stepInnermost (fun _ _ _ _ grows used => grows.useOnly
        (fun declares => by rcases declares with isBind | isBind <;> cases isBind) used) applied
  | .importAll, _, _, _, _, grows, _, applied => grows.apply_plain (.inl rfl) applied
  | .yields, _, _, _, _, grows, _, applied => grows.apply_plain (.inr (.inl rfl)) applied
  | .awaits, _, _, _, _, grows, _, applied => grows.apply_plain (.inr (.inr rfl)) applied
  | .opens (.mk kind events), count, scopes, others, _, grows, _, applied => by
      obtain ⟨closing, appliedInside, applied⟩ := Option.bind_eq_some_iff.mp applied
      have start : StackGrows declared (count + 1) (.opened kind scopes.head? :: scopes)
          (.opened kind others.head? :: others) := by
        rw [grows.opened_eq]
        exact .inside grows
      obtain ⟨closingFurther, appliedFurther, growsInside⟩ :=
        applyAll_grows events start (fun none => nomatch none) appliedInside
      cases growsInside with
      | @inside _ closed outer outerFurther growsOuter =>
          cases growsOuter with
          | here growsHere =>
              cases applied
              refine ⟨_, Option.bind_eq_some_iff.mpr ⟨_, appliedFurther, rfl⟩, .here ?_⟩
              exact growsHere.enclose rfl fun _ => id
          | inside growsOuter =>
              cases applied
              exact ⟨_, Option.bind_eq_some_iff.mpr ⟨_, appliedFurther, rfl⟩, .inside growsOuter⟩

/-- **The events of a scope are accepted as before.** -/
theorem applyAll_grows : ∀ (events : List ScopeEvent) {count : Nat}
    {scopes others after : List OpenScope}, StackGrows declared count scopes others →
    (count = 0 → ∀ event ∈ events, event.Declares declared) → applyAll scopes events = some after →
    ∃ last, applyAll others events = some last ∧ StackGrows declared count after last
  | [], _, _, _, _, grows, _, applied => by
      cases applied
      exact ⟨_, rfl, grows⟩
  | event :: events, _, _, _, _, grows, allowed, applied => by
      obtain ⟨next, appliedFirst, applied⟩ := Option.bind_eq_some_iff.mp applied
      obtain ⟨nextFurther, isNext, growsNext⟩ := event.apply_grows grows
        (fun here => allowed here event List.mem_cons_self) appliedFirst
      obtain ⟨last, isLast, growsLast⟩ := applyAll_grows events growsNext
        (fun here other member => allowed here other (List.mem_cons_of_mem _ member)) applied
      refine ⟨last, ?_, growsLast⟩
      rw [applyAll, isNext]
      exact isLast

end

/-- The scopes around an event have been read further. -/
abbrev StackFollows (scopes after : List OpenScope) : Prop :=
  List.Forall₂ OpenScope.Follows scopes after

theorem StackFollows.refl (scopes : List OpenScope) : StackFollows scopes scopes :=
  List.forall₂_same.mpr fun scope _ => .refl scope

theorem StackFollows.trans {last : List OpenScope} (first : StackFollows scopes after)
    (second : StackFollows after last) : StackFollows scopes last := by
  induction first generalizing last with
  | nil =>
      cases second
      exact .nil
  | cons head _ ih =>
      cases second with
      | cons headFurther tailFurther => exact .cons (head.trans headFurther) (ih tailFurther)

theorem follows_landWalrus (landed : landWalrus name scopes = some (role, after)) :
    StackFollows scopes after := by
  induction scopes generalizing after with
  | nil => cases landed
  | cons scope outer ih =>
      rcases landWalrus_cons name scope with ⟨answer, stops, follows⟩ | passes
      · rw [stops] at landed
        obtain ⟨found, isFound, same⟩ := Option.map_eq_some_iff.mp landed
        cases same
        exact .cons (follows found isFound) (StackFollows.refl outer)
      · rw [passes] at landed
        obtain ⟨found, isFound, same⟩ := Option.map_eq_some_iff.mp landed
        cases same
        exact .cons (.refl scope) (ih isFound)

theorem follows_beginWalrus (begun : beginWalrus name around scopes = some after) :
    StackFollows scopes after := by
  cases scopes with
  | nil =>
      unfold beginWalrus at begun
      split at begun
      · cases begun
      · cases begun
  | cons innermost outer =>
      rcases beginWalrus_cons name around innermost with ⟨accepts, stops⟩ | ⟨-, lands⟩
      · rw [stops] at begun
        cases accepts with
        | false => cases begun
        | true =>
            cases begun
            exact .refl _
      · rw [lands] at begun
        obtain ⟨landed, isLanded, begun⟩ := Option.bind_eq_some_iff.mp begun
        obtain ⟨names, used, rfl⟩ := Option.map_eq_some_iff.mp begun
        exact .cons (OpenScope.follows_names used) (follows_landWalrus isLanded)

theorem follows_stepInnermost {step : OpenScope → Option OpenScope}
    (steps : ∀ {scope next : OpenScope}, step scope = some next → scope.Follows next)
    (stepped : stepInnermost step scopes = some after) : StackFollows scopes after := by
  cases scopes with
  | nil => cases stepped
  | cons innermost outer =>
      obtain ⟨next, isNext, rfl⟩ := Option.map_eq_some_iff.mp stepped
      exact .cons (steps isNext) (StackFollows.refl outer)

theorem follows_plain {event : ScopeEvent}
    (isPlain : event = .importAll ∨ event = .yields ∨ event = .awaits)
    (applied : event.apply scopes = some after) : StackFollows scopes after := by
  obtain ⟨test, same⟩ := exists_apply_eq isPlain
  rw [same] at applied
  split at applied
  · cases applied
    exact .refl _
  · cases applied

mutual

/-- An event reads the scopes around it further. -/
theorem ScopeEvent.apply_follows : ∀ (event : ScopeEvent) {scopes after : List OpenScope},
    event.apply scopes = some after → StackFollows scopes after
  | .use role name around, _, _, applied => by
      rw [apply_use] at applied
      exact follows_stepInnermost OpenScope.follows_use applied
  | .walrus name around, _, _, applied => follows_beginWalrus applied
  | .walrusEnds name around, _, _, applied => by
      rw [apply_walrusEnds] at applied
      exact follows_stepInnermost OpenScope.follows_useOnly applied
  | .importAll, _, _, applied => follows_plain (.inl rfl) applied
  | .yields, _, _, applied => follows_plain (.inr (.inl rfl)) applied
  | .awaits, _, _, applied => follows_plain (.inr (.inr rfl)) applied
  | .opens (.mk kind events), scopes, _, applied => by
      obtain ⟨closing, appliedInside, applied⟩ := Option.bind_eq_some_iff.mp applied
      have inside := applyAll_follows events appliedInside
      cases inside with
      | @cons _ closed _ _ _ outside =>
          cases outside with
          | nil => cases applied
          | cons head tail =>
              cases applied
              exact .cons (head.trans (OpenScope.follows_enclose _ closed)) tail

/-- **The events of a scope read the scopes around it further.** -/
theorem applyAll_follows : ∀ (events : List ScopeEvent) {scopes after : List OpenScope},
    applyAll scopes events = some after → StackFollows scopes after
  | [], _, _, applied => by
      cases applied
      exact .refl _
  | event :: events, _, _, applied => by
      obtain ⟨next, appliedFirst, applied⟩ := Option.bind_eq_some_iff.mp applied
      exact (event.apply_follows appliedFirst).trans (applyAll_follows events applied)

end

theorem applyAll_append (events further : List ScopeEvent) (scopes : List OpenScope) :
    applyAll scopes (events ++ further) =
      (applyAll scopes events).bind fun after => applyAll after further := by
  induction events generalizing scopes with
  | nil => rfl
  | cons event events ih =>
      rw [List.cons_append, applyAll, applyAll]
      cases event.apply scopes with
      | none => rfl
      | some next => exact ih next

section

variable {scope after : OpenScope} {outer outerAfter : List OpenScope} {events : List ScopeEvent}

/-- What a use makes of its name is kept. -/
theorem OpenScope.follows_status (noOwner : scope.owner = none)
    (used : scope.use role name around = some after) :
    ((scope.names.status name).after role).Follows (after.names.status name) := by
  obtain ⟨once, usedOnce, used⟩ := Option.bind_eq_some_iff.mp used
  have first : ((scope.names.status name).after role).Follows (once.names.status name) := by
    rw [useOnly_eq, noOwner, privateName_none] at usedOnce
    split at usedOnce
    · cases usedOnce
    · obtain ⟨names, isUsed, rfl⟩ := Option.map_eq_some_iff.mp usedOnce
      rw [NameTable.use_eq] at isUsed
      obtain ⟨status, isStatus, rfl⟩ := Option.map_eq_some_iff.mp isUsed
      dsimp only
      rw [NameTable.status_update, if_pos rfl]
      rcases NameStatus.eq_of_used? isStatus with rfl | rfl
      · exact .refl _
      · exact ⟨id, id⟩
  split at used
  · exact first.trans ((follows_useOnly used).names name)
  · cases used
    exact first

/-- What an event makes of its name is kept to the end of its scope. -/
theorem exists_follows_of_mem (noOwner : scope.owner = none)
    (applied : applyAll (scope :: outer) events = some (after :: outerAfter))
    (member : .use role name around ∈ events) :
    ∃ status : NameStatus, (status.after role).Follows (after.names.status name) := by
  induction events generalizing scope outer with
  | nil => cases member
  | cons event events ih =>
      obtain ⟨next, appliedFirst, applied⟩ := Option.bind_eq_some_iff.mp applied
      obtain ⟨between, outerBetween, first, -, rfl⟩ :=
        List.forall₂_cons_left_iff.mp (event.apply_follows appliedFirst)
      rcases List.mem_cons.mp member with rfl | later
      · rw [apply_use] at appliedFirst
        obtain ⟨used, isUsed, same⟩ := Option.map_eq_some_iff.mp appliedFirst
        cases same
        have rest := (List.forall₂_cons.mp (applyAll_follows events applied)).1
        exact ⟨_, (OpenScope.follows_status noOwner isUsed).trans (rest.names name)⟩
      · exact ih (first.owner.trans noOwner) applied later

/-- A name that is settled is not declared any more. -/
theorem not_mem_of_isSettled (noOwner : scope.owner = none)
    (settled : (scope.names.status name).isSettled = true)
    (declares : role = .declaredGlobal ∨ role = .declaredNonlocal)
    (applied : applyAll (scope :: outer) events = some scopes) :
    .use role name around ∉ events := by
  induction events generalizing scope outer with
  | nil => exact List.not_mem_nil
  | cons event events ih =>
      obtain ⟨next, appliedFirst, applied⟩ := Option.bind_eq_some_iff.mp applied
      obtain ⟨between, outerBetween, first, -, rfl⟩ :=
        List.forall₂_cons_left_iff.mp (event.apply_follows appliedFirst)
      rw [List.mem_cons, not_or]
      refine ⟨?_, ih (first.owner.trans noOwner) ((first.names name).settled settled) applied⟩
      rintro rfl
      have refused : scope.refuses role name = true := by
        rcases declares with rfl | rfl
        · exact settled
        · exact settled
      rw [apply_use] at appliedFirst
      obtain ⟨used, isUsed, -⟩ := Option.map_eq_some_iff.mp appliedFirst
      obtain ⟨once, usedOnce, -⟩ := Option.bind_eq_some_iff.mp isUsed
      rw [OpenScope.useOnly_eq, noOwner, privateName_none, if_pos refused] at usedOnce
      cases usedOnce

end

end Stencil.Script
