import Mathlib.Data.List.Forall2
import Stencil.Script.Scope.Declarations

/-! # Tables of names

A table holds one status for every name that has been used (`Stencil.Script.NameTable.IsFaithful`),
and a further use of a name changes the status of this name only
(`Stencil.Script.NameTable.status_update`). A name may have been read or bound more often than in
another table, and be the same in everything else (`Stencil.Script.NameStatus.Grows`). Then a scope
hands on at least the names that it hands on with the other table, so the names that are declared
inside it are still found (`Stencil.Script.isResolved_of_grows`).
-/

namespace Stencil.Script

namespace NameStatus

variable {status further : NameStatus} {role : NameRole}

/-- A name is the same but that it may have been read and bound more often. -/
structure Grows (status further : NameStatus) : Prop where
  parameter : further.isParameter = status.isParameter
  imported : further.isImported = status.isImported
  global : further.isGlobal = status.isGlobal
  nonlocal : further.isNonlocal = status.isNonlocal
  bound : status.isBound = true → further.isBound = true

/-- A name has been used once more. -/
structure Follows (status further : NameStatus) : Prop where
  settled : status.isSettled = true → further.isSettled = true
  nonlocal : status.isNonlocal = true → further.isNonlocal = true

theorem Grows.refl (status : NameStatus) : status.Grows status := ⟨rfl, rfl, rfl, rfl, id⟩

theorem Grows.isElsewhere (grows : status.Grows further) :
    further.isElsewhere = status.isElsewhere := by
  rw [NameStatus.isElsewhere, NameStatus.isElsewhere, grows.global, grows.nonlocal]

theorem Grows.isOccupied (grows : status.Grows further) (occupied : status.isOccupied = true) :
    further.isOccupied = true := by
  simp only [NameStatus.isOccupied, Bool.or_eq_true, grows.parameter, grows.imported]
    at occupied ⊢
  exact occupied.imp_left (Or.imp_right grows.bound)

/-- The same use is made of both. -/
theorem Grows.after (grows : status.Grows further) : (status.after role).Grows (further.after role) := by
  cases role with
  | read => exact ⟨grows.parameter, grows.imported, grows.global, grows.nonlocal, grows.bound⟩
  | bind => exact ⟨grows.parameter, grows.imported, grows.global, grows.nonlocal, id⟩
  | imported => exact ⟨grows.parameter, rfl, grows.global, grows.nonlocal, grows.bound⟩
  | parameter => exact ⟨rfl, grows.imported, grows.global, grows.nonlocal, grows.bound⟩
  | hinted => exact ⟨grows.parameter, grows.imported, grows.global, grows.nonlocal, id⟩
  | declaredGlobal => exact ⟨grows.parameter, grows.imported, rfl, grows.nonlocal, grows.bound⟩
  | declaredNonlocal => exact ⟨grows.parameter, grows.imported, grows.global, rfl, grows.bound⟩

theorem isSettled_after (same : further.isSettled = true → status.isSettled = true)
    (settled : (further.after role).isSettled = true) : (status.after role).isSettled = true := by
  simp only [isSettled, Bool.or_eq_true] at same settled ⊢
  cases role with
  | read => exact .inl (.inr rfl)
  | bind => exact .inl (.inl (.inr rfl))
  | imported => exact same settled
  | parameter => exact .inl (.inl (.inl rfl))
  | hinted => exact .inr rfl
  | declaredGlobal => exact same settled
  | declaredNonlocal => exact same settled

theorem Follows.refl (status : NameStatus) : status.Follows status := ⟨id, id⟩

theorem Follows.trans {last : NameStatus} (first : status.Follows further)
    (second : further.Follows last) : status.Follows last :=
  ⟨second.settled ∘ first.settled, second.nonlocal ∘ first.nonlocal⟩

theorem follows_after (status : NameStatus) (role : NameRole) :
    status.Follows (status.after role) := by
  constructor
  · simp only [isSettled, Bool.or_eq_true]
    cases role with
    | read => exact fun _ => .inl (.inr rfl)
    | bind => exact fun _ => .inl (.inl (.inr rfl))
    | imported => exact id
    | parameter => exact fun _ => .inl (.inl (.inl rfl))
    | hinted => exact fun _ => .inr rfl
    | declaredGlobal => exact id
    | declaredNonlocal => exact id
  · cases role with
    | declaredNonlocal => exact fun _ => rfl
    | _ => exact id

end NameStatus

namespace NameTable

variable {table further after : NameTable} {name other : Name} {status : NameStatus}
  {role : NameRole} {inTarget : Bool}

/-- Every entry of a table is the status of its name. -/
def IsFaithful (table : NameTable) : Prop := ∀ entry ∈ table, table.status entry.1 = entry.2

theorem isFaithful_nil : IsFaithful [] := fun _ member => nomatch member

/-- Another status for a name leaves the other names alone. -/
theorem status_update : (table.update name status).status other =
    if other = name then status else table.status other := by
  unfold NameTable.status update
  rw [List.lookup_cons]
  by_cases same : other = name
  · rw [if_pos same, same, beq_self_eq_true]
    rfl
  · rw [if_neg same, beq_eq_false_iff_ne.mpr same]
    dsimp only
    congr 1
    induction table with
    | nil => rfl
    | cons entry table ih =>
        obtain ⟨key, held⟩ := entry
        by_cases isName : key = name
        · have differs : (other == key) = false := beq_eq_false_iff_ne.mpr (isName ▸ same)
          rw [List.filter_cons_of_neg (by simp [isName]), ih, List.lookup_cons, differs]
        · rw [List.filter_cons_of_pos (by simp [isName]), List.lookup_cons, List.lookup_cons, ih]

theorem IsFaithful.update (faithful : table.IsFaithful) : (table.update name status).IsFaithful := by
  intro entry member
  rw [status_update]
  rcases List.mem_cons.mp member with rfl | inside
  · exact if_pos rfl
  · obtain ⟨isEntry, differs⟩ := List.mem_filter.mp inside
    rw [if_neg (bne_iff_ne.mp differs)]
    exact faithful entry isEntry

/-- A name that a table does not hold is unused. -/
theorem status_eq_unused_or (table : NameTable) (name : Name) :
    table.status name = .unused ∨ (name, table.status name) ∈ table := by
  unfold NameTable.status
  cases found : table.lookup name with
  | none => exact .inl rfl
  | some held =>
      obtain ⟨before, after, split, -⟩ := List.lookup_eq_some_iff.mp found
      exact .inr (split ▸ List.mem_append_right _ List.mem_cons_self)

/-- The entries of a table pass a test when all names do, if unused names pass it. -/
theorem IsFaithful.all_iff (faithful : table.IsFaithful) {test : Name × NameStatus → Bool}
    (unused : ∀ name, test (name, .unused) = true) :
    table.all test = true ↔ ∀ name, test (name, table.status name) = true := by
  rw [List.all_eq_true]
  constructor
  · intro passes name
    rcases table.status_eq_unused_or name with isUnused | member
    · rw [isUnused]
      exact unused name
    · exact passes _ member
  · intro passes entry member
    have here := passes entry.1
    rwa [faithful entry member] at here

/-- The names that pass a test that unused names do not pass. -/
theorem IsFaithful.mem_having (faithful : table.IsFaithful) {test : NameStatus → Bool}
    (unused : test .unused = false) :
    name ∈ table.having test ↔ test (table.status name) = true := by
  simp only [having, List.mem_map, List.mem_filter]
  constructor
  · rintro ⟨entry, ⟨member, passes⟩, rfl⟩
    rw [faithful entry member]
    exact passes
  · intro passes
    rcases table.status_eq_unused_or name with isUnused | member
    · rw [isUnused, unused] at passes
      cases passes
    · exact ⟨_, ⟨member, passes⟩, rfl⟩

end NameTable

namespace NameStatus

variable {status further after : NameStatus} {role : NameRole} {inTarget : Bool}

/-- What a use makes of the status of its name, if the use is allowed. -/
def used? (status : NameStatus) (role : NameRole) (inTarget : Bool) : Option NameStatus :=
  if role = .parameter && status.isParameter then none
  else if inTarget then
    if (status.after role).isElsewhere then none
    else some { status.after role with isIterated := true }
  else some (status.after role)

/-- A use that is allowed makes the use of its role. -/
theorem eq_of_used? (used : status.used? role inTarget = some after) :
    after = status.after role ∨ after = { status.after role with isIterated := true } := by
  unfold used? at used
  split at used
  · cases used
  split at used
  · split at used
    · cases used
    · exact .inr (Option.some.inj used).symm
  · exact .inl (Option.some.inj used).symm

theorem follows_used? (used : status.used? role inTarget = some after) : status.Follows after := by
  have follows := status.follows_after role
  rcases eq_of_used? used with rfl | rfl
  · exact follows
  · exact ⟨follows.settled, follows.nonlocal⟩

theorem Grows.used? (grows : status.Grows further)
    (used : status.used? role inTarget = some after) :
    ∃ last, further.used? role inTarget = some last ∧ after.Grows last ∧
      ((further.isSettled = true → status.isSettled = true) →
        last.isSettled = true → after.isSettled = true) := by
  have step : (status.after role).Grows (further.after role) := grows.after
  unfold NameStatus.used? at used ⊢
  rw [grows.parameter]
  split at used
  · cases used
  next notTwice =>
    rw [if_neg notTwice, step.isElsewhere]
    split at used
    · next isIn =>
        rw [if_pos isIn]
        split at used
        · cases used
        · next here =>
            rw [if_neg here]
            cases used
            exact ⟨_, rfl, ⟨step.parameter, step.imported, step.global, step.nonlocal, step.bound⟩,
              isSettled_after⟩
    · next isOut =>
        rw [if_neg isOut]
        cases used
        exact ⟨_, rfl, step, isSettled_after⟩

end NameStatus

namespace NameTable

variable {table further after : NameTable} {name : Name} {role : NameRole} {inTarget : Bool}
  {declared : Name → Prop}

theorem use_eq : table.use role name inTarget =
    ((table.status name).used? role inTarget).map (table.update name) := by
  unfold use NameStatus.used?
  dsimp only
  split
  · rfl
  split
  · split
    · rfl
    · rfl
  · rfl

/-- A table holds the names of another one, some of which may have been read and bound more
often, but none that is still to be declared. -/
structure Grows (declared : Name → Prop) (table further : NameTable) : Prop where
  each : ∀ name, (table.status name).Grows (further.status name)
  free : ∀ name, declared name → (further.status name).isSettled = true →
    (table.status name).isSettled = true
  faithful : table.IsFaithful
  faithfulFurther : further.IsFaithful

theorem Grows.refl (faithful : table.IsFaithful) : Grows declared table table :=
  ⟨fun _ => .refl _, fun _ _ => id, faithful, faithful⟩

/-- The same use is made of both tables. -/
theorem Grows.use (grows : Grows declared table further)
    (used : table.use role name inTarget = some after) :
    ∃ last, further.use role name inTarget = some last ∧ Grows declared after last := by
  rw [use_eq] at used
  obtain ⟨status, isUsed, rfl⟩ := Option.map_eq_some_iff.mp used
  obtain ⟨last, isUsedFurther, step, settled⟩ := (grows.each name).used? isUsed
  refine ⟨further.update name last, ?_, ?_, ?_, grows.faithful.update,
    grows.faithfulFurther.update⟩
  · rw [use_eq, isUsedFurther]
    rfl
  · intro other
    rw [status_update, status_update]
    split
    · exact step
    · exact grows.each other
  · intro other isDeclared
    rw [status_update, status_update]
    split
    · next same => exact settled (grows.free name (same ▸ isDeclared))
    · exact grows.free other isDeclared

/-- A name that is read or bound in the second table only. -/
theorem Grows.mark (grows : Grows declared table further) (isUse : role = .read ∨ role = .bind)
    (apart : declared name → (table.status name).isSettled = true) :
    Grows declared table (further.update name ((further.status name).after role)) := by
  have step := grows.each name
  have marked : (table.status name).Grows ((further.status name).after role) := by
    rcases isUse with rfl | rfl
    · exact ⟨step.parameter, step.imported, step.global, step.nonlocal, step.bound⟩
    · exact ⟨step.parameter, step.imported, step.global, step.nonlocal, fun _ => rfl⟩
  refine ⟨?_, ?_, grows.faithful, grows.faithfulFurther.update⟩
  · intro other
    rw [status_update]
    split
    · next same => exact same ▸ marked
    · exact grows.each other
  · intro other isDeclared
    rw [status_update]
    split
    · next same => exact fun _ => same ▸ apart (same ▸ isDeclared)
    · exact grows.free other isDeclared

/-- The names of a table after a use follow those before it. -/
theorem follows_use (used : table.use role name inTarget = some after) (other : Name) :
    (table.status other).Follows (after.status other) := by
  rw [use_eq] at used
  obtain ⟨status, isUsed, rfl⟩ := Option.map_eq_some_iff.mp used
  rw [status_update]
  split
  · next same => exact same ▸ NameStatus.follows_used? isUsed
  · exact .refl _

theorem IsFaithful.use (faithful : table.IsFaithful)
    (used : table.use role name inTarget = some after) : after.IsFaithful := by
  rw [use_eq] at used
  obtain ⟨status, -, rfl⟩ := Option.map_eq_some_iff.mp used
  exact faithful.update

end NameTable

section

variable {kind : ScopeKind} {names further : NameTable} {inner : List ScopeTable}
  {known wider : List Name} {around : Option (List Name)}

/-- A name is declared to belong to one scope only, and found where it is nonlocal. -/
def isFound (known : List Name) (entry : Name × NameStatus) : Bool :=
  !(entry.2.isGlobal && entry.2.isNonlocal) && (!entry.2.isNonlocal || known.contains entry.1)

/-- The names that live around the scopes inside a scope. -/
def handedOn (known : List Name) (kind : ScopeKind) (names : NameTable) : List Name :=
  let passed := known.filter fun name => !(names.having (·.isGlobal)).contains name
  match kind with
  | .ofClass _ => classAroundName :: known
  | .program => passed
  | _ => (names.having fun status => status.isOccupied && !status.isElsewhere) ++ passed

theorem isResolved_mk : (ScopeTable.mk kind names inner).isResolved around =
    (names.all (isFound (around.getD [])) &&
      areResolved (handedOn (around.getD []) kind names) inner) := by
  cases kind <;> rfl

theorem areResolved_eq_all (known : List Name) (tables : List ScopeTable) :
    areResolved known tables = tables.all (ScopeTable.isResolved (some known)) := by
  induction tables with
  | nil => rfl
  | cons first rest ih => rw [areResolved, ih, List.all_cons]

/-- A name of a scope whose names are found is found. -/
theorem isFound_of_isResolved (resolved : (ScopeTable.mk kind names inner).isResolved around = true)
    (name : Name) : isFound (around.getD []) (name, names.status name) = true := by
  rw [isResolved_mk, Bool.and_eq_true, List.all_eq_true] at resolved
  rcases names.status_eq_unused_or name with isUnused | member
  · rw [isUnused]
    rfl
  · exact resolved.1 _ member

theorem isFound_mono (wide : known ⊆ wider) {entry : Name × NameStatus}
    (found : isFound known entry = true) : isFound wider entry = true := by
  simp only [isFound, Bool.and_eq_true, Bool.or_eq_true, List.contains_iff_mem] at found ⊢
  exact found.imp_right (Or.imp_right fun member => wide member)

theorem handedOn_mono (wide : known ⊆ wider) :
    handedOn known kind names ⊆ handedOn wider kind names := by
  have passed : (known.filter fun name => !(names.having (·.isGlobal)).contains name) ⊆
      wider.filter fun name => !(names.having (·.isGlobal)).contains name :=
    fun name member => List.mem_filter.mpr ((List.mem_filter.mp member).imp_left fun inside =>
      wide inside)
  unfold handedOn
  cases kind with
  | ofClass _ => exact List.cons_subset_cons _ wide
  | program => exact passed
  | _ => exact List.append_subset.mpr ⟨List.subset_append_left _ _,
      List.subset_append_of_subset_right _ passed⟩

mutual

/-- Names that are found are found among more names. -/
theorem ScopeTable.isResolved_mono : ∀ (table : ScopeTable) {around wide : Option (List Name)},
    around.getD [] ⊆ wide.getD [] → table.isResolved around = true → table.isResolved wide = true
  | .mk kind names inner, around, wide, isWider, resolved => by
      rw [isResolved_mk, Bool.and_eq_true] at resolved ⊢
      refine ⟨List.all_eq_true.mpr fun entry member => isFound_mono isWider
        (List.all_eq_true.mp resolved.1 entry member), ?_⟩
      exact areResolved_mono inner (handedOn_mono isWider) resolved.2

theorem areResolved_mono : ∀ (tables : List ScopeTable) {known wider : List Name},
    known ⊆ wider → areResolved known tables = true → areResolved wider tables = true
  | [], _, _, _, _ => rfl
  | first :: rest, known, wider, isWider, resolved => by
      rw [areResolved, Bool.and_eq_true] at resolved ⊢
      exact ⟨first.isResolved_mono (by exact isWider) resolved.1, areResolved_mono rest isWider resolved.2⟩

end

/-- A scope is found as well as another one, wherever it stands. -/
def ScopeTable.Keeps (table further : ScopeTable) : Prop :=
  ∀ around, table.isResolved around = true → further.isResolved around = true

theorem areResolved_of_keeps {tables others : List ScopeTable}
    (keeps : List.Forall₂ ScopeTable.Keeps tables others) {known : List Name}
    (resolved : areResolved known tables = true) : areResolved known others = true := by
  induction keeps with
  | nil => rfl
  | cons first _ ih =>
      rw [areResolved, Bool.and_eq_true] at resolved ⊢
      exact ⟨first _ resolved.1, ih resolved.2⟩

/-- **A scope whose names have been used more often hands on at least as much**, so what is
nonlocal inside it is still found. -/
theorem isResolved_of_grows {declared : Name → Prop} {others : List ScopeTable}
    (grows : NameTable.Grows declared names further)
    (keeps : List.Forall₂ ScopeTable.Keeps inner others) :
    (ScopeTable.mk kind names inner).Keeps (.mk kind further others) := by
  intro around resolved
  rw [isResolved_mk, Bool.and_eq_true] at resolved ⊢
  have unused : ∀ name, isFound (around.getD []) (name, .unused) = true := fun _ => rfl
  constructor
  · rw [grows.faithful.all_iff unused] at resolved
    rw [grows.faithfulFurther.all_iff unused]
    intro name
    have here := resolved.1 name
    rwa [isFound, ← (grows.each name).global, ← (grows.each name).nonlocal] at here
  · refine areResolved_of_keeps keeps (areResolved_mono _ ?_ resolved.2)
    have sameGlobal : ∀ name, name ∈ further.having (·.isGlobal) ↔ name ∈ names.having (·.isGlobal) := by
      intro name
      rw [grows.faithful.mem_having (by rfl), grows.faithfulFurther.mem_having (by rfl),
        (grows.each name).global]
    have own : (names.having fun status => status.isOccupied && !status.isElsewhere) ⊆
        further.having fun status => status.isOccupied && !status.isElsewhere := by
      intro name member
      rw [grows.faithful.mem_having (by rfl), Bool.and_eq_true] at member
      rw [grows.faithfulFurther.mem_having (by rfl), Bool.and_eq_true,
        (grows.each name).isElsewhere]
      exact member.imp_left (grows.each name).isOccupied
    have passed : ((around.getD []).filter fun name =>
        !(names.having (·.isGlobal)).contains name) ⊆
          (around.getD []).filter fun name => !(further.having (·.isGlobal)).contains name := by
      intro name member
      simp only [List.mem_filter, Bool.not_eq_true', List.contains_eq_mem, decide_eq_false_iff_not,
        sameGlobal] at member ⊢
      exact member
    unfold handedOn
    cases kind with
    | ofClass _ => exact List.Subset.refl _
    | program => exact passed
    | _ => exact List.append_subset.mpr ⟨List.subset_append_of_subset_left _ own,
        List.subset_append_of_subset_right _ passed⟩

end

end Stencil.Script
