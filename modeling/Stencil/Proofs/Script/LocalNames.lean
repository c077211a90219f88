import Stencil.Script.Placement

/-! # Names of one scope

A scope whose statements only read and bind names accepts them all and declares none of them to
live elsewhere (`Stencil.Script.applyAll_events`).
-/

namespace Stencil.Script

namespace Mention

/-- The name is bound, or read as a name that means nothing else. -/
def IsUse : Mention → Prop
  | .read name => name ≠ fixedName ∧ name ≠ classAboveName
  | .bind _ => True
  | .declare _ => False

/-- What a mention is in its scope. -/
def event : Mention → ScopeEvent
  | .read name => .use .read name .plain
  | .bind name => .use .bind name .plain
  | .declare name => .use .declaredGlobal name .plain

end Mention

/-- No name of a table is declared to live in another scope. -/
def NameTable.IsLocal (table : NameTable) : Prop :=
  ∀ entry ∈ table, entry.2.isGlobal = false ∧ entry.2.isNonlocal = false

variable {table : NameTable} {mentions : List Mention}

theorem NameTable.IsLocal.status (isLocal : table.IsLocal) (name : Name) :
    (table.status name).isGlobal = false ∧ (table.status name).isNonlocal = false := by
  rw [NameTable.status]
  cases found : table.lookup name with
  | none => exact ⟨rfl, rfl⟩
  | some status =>
      obtain ⟨before, after, split, -⟩ := List.lookup_eq_some_iff.mp found
      exact isLocal (name, status) (split ▸ List.mem_append_right _ List.mem_cons_self)

/-- Reading and binding names declares none of them. -/
theorem NameTable.IsLocal.update (isLocal : table.IsLocal) {name : Name} {status : NameStatus}
    (here : status.isGlobal = false ∧ status.isNonlocal = false) :
    (table.update name status).IsLocal := by
  intro entry member
  rcases List.mem_cons.mp member with rfl | inside
  · exact here
  · exact isLocal entry (List.mem_filter.mp inside).1

/-- A name that is read or bound is entered into the table of its scope. -/
theorem OpenScope.useOnly_local {scope : OpenScope} {role : NameRole} (name : Name)
    (noClass : scope.owner = none) (isLocal : scope.names.IsLocal)
    (isUse : role = .read ∨ role = .bind) :
    ∃ after, scope.useOnly role name .plain = some after ∧ after.kind = scope.kind ∧
      after.owner = none ∧ after.inner = scope.inner ∧ after.names.IsLocal := by
  have here := isLocal.status (privateName scope.owner name)
  rcases isUse with rfl | rfl
  · exact ⟨_, rfl, rfl, noClass, rfl, isLocal.update here⟩
  · exact ⟨_, rfl, rfl, noClass, rfl, isLocal.update here⟩

/-- A mention of a name that is read or bound is accepted by its scope. -/
theorem Mention.apply_event {mention : Mention} (isUse : mention.IsUse) {scope : OpenScope}
    {outer : List OpenScope} (noClass : scope.owner = none) (isLocal : scope.names.IsLocal) :
    ∃ after, mention.event.apply (scope :: outer) = some (after :: outer) ∧
      after.kind = scope.kind ∧ after.owner = none ∧ after.inner = scope.inner ∧
      after.names.IsLocal := by
  cases mention with
  | declare name => exact isUse.elim
  | bind name =>
      obtain ⟨after, used, kept⟩ := OpenScope.useOnly_local name noClass isLocal (.inr rfl)
      refine ⟨after, ?_, kept⟩
      simp only [Mention.event, ScopeEvent.apply, OpenScope.use, used, Option.bind_eq_bind]
      rfl
  | read name =>
      obtain ⟨after, used, kept⟩ := OpenScope.useOnly_local name noClass isLocal (.inl rfl)
      refine ⟨after, ?_, kept⟩
      have notSuper : decide (name = classAboveName) = false := decide_eq_false isUse.2
      simp only [Mention.event, ScopeEvent.apply, OpenScope.use, used, Option.bind_eq_bind,
        Option.bind_some, notSuper, Bool.and_false, Bool.false_and]
      rfl

/-- Mentions of names that are read or bound are accepted by their scope. -/
theorem applyAll_events {mentions : List Mention} (areUses : ∀ mention ∈ mentions, mention.IsUse)
    {scope : OpenScope} {outer : List OpenScope} (noClass : scope.owner = none)
    (isLocal : scope.names.IsLocal) :
    ∃ after, applyAll (scope :: outer) (mentions.map Mention.event) = some (after :: outer) ∧
      after.kind = scope.kind ∧ after.inner = scope.inner ∧ after.names.IsLocal := by
  induction mentions generalizing scope with
  | nil => exact ⟨scope, rfl, rfl, rfl, isLocal⟩
  | cons first others ih =>
      have isFirst : first.IsUse := areUses first List.mem_cons_self
      have areOthers : ∀ mention ∈ others, mention.IsUse := fun mention member =>
        areUses mention (List.mem_cons_of_mem first member)
      obtain ⟨next, applied, kind, owner, inner, names⟩ := Mention.apply_event isFirst noClass isLocal
      obtain ⟨after, appliedRest, afterKind, afterInner, afterNames⟩ := ih areOthers owner names
      refine ⟨after, ?_, afterKind.trans kind, afterInner.trans inner, afterNames⟩
      rw [List.map_cons, applyAll, applied]
      exact appliedRest

variable {mentions : List Mention}

theorem mem_statedNames_events {name : Name} :
    name ∈ statedNames (mentions.map Mention.event) ↔ .bind name ∈ mentions := by
  simp only [statedNames, List.mem_filterMap, List.mem_map]
  constructor
  · rintro ⟨event, ⟨mention, member, rfl⟩, stated⟩
    cases mention with
    | bind bound => exact Option.some.inj stated ▸ member
    | read _ => cases stated
    | declare _ => cases stated
  · exact fun member => ⟨_, ⟨_, member, rfl⟩, rfl⟩

theorem declaredNames_events (areUses : ∀ mention ∈ mentions, mention.IsUse)
    {role : NameRole} (declares : role ≠ .read ∧ role ≠ .bind) :
    declaredNames role (mentions.map Mention.event) = [] := by
  refine List.filterMap_eq_nil_iff.mpr fun event member => ?_
  obtain ⟨mention, inside, rfl⟩ := List.mem_map.mp member
  cases mention with
  | read _ => exact if_neg declares.1.symm
  | bind _ => exact if_neg declares.2.symm
  | declare name => exact (areUses _ inside).elim

/-- Names that are read or bound hand nothing over and wait for nothing. -/
theorem isGenerator_events {kind : ScopeKind} :
    (Scope.mk kind (mentions.map Mention.event)).isGenerator = false := by
  refine List.any_eq_false.mpr fun event member => ?_
  obtain ⟨mention, -, rfl⟩ := List.mem_map.mp member
  cases mention with
  | read _ => exact Bool.false_ne_true
  | bind _ => exact Bool.false_ne_true
  | declare _ => exact Bool.false_ne_true

theorem walrusNames_events : walrusNames (mentions.map Mention.event) = [] := by
  induction mentions with
  | nil => rfl
  | cons first others ih =>
      rw [List.map_cons, walrusNames, ih, List.append_nil]
      cases first <;> rfl

end Stencil.Script
