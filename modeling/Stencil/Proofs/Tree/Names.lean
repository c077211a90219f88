import Mathlib.Data.Set.List
import Stencil.Proofs.Script.DeclaredNames
import Stencil.Proofs.Script.LocalNames
import Stencil.Proofs.Tree.Program

/-! # The names of a block tree

A tree reads variables, binds the targets of its loops, and uses the two names that every
render program has for writing (`Stencil.BlockTree.mentions`). No name is declared to live
elsewhere, so the scope of the render function accepts them all
(`Stencil.RenderProgram.isExecutable_program`), and what is read and not reserved is taken from
the context (`Stencil.RenderProgram.exists_bound`).
-/

namespace Stencil

open Script

mutual

/-- The names that a tree reads and binds, in order. -/
def BlockTree.mentions : BlockTree → List Mention
  | .done => []
  | .literal _ rest => .read (text "_append") :: rest.mentions
  | .output shown rest =>
      .read (text "_append") :: .read (text "_str") :: .read shown.name :: rest.mentions
  | .loop target source body rest =>
      .bind target.name :: .read source.name :: (body.mentions ++ rest.mentions)
  | .choice test body others rest =>
      .read test.name :: (body.mentions ++ (others.mentions ++ rest.mentions))

/-- The names that the branches of a choice read and bind, in order. -/
def Branches.mentions : Branches → List Mention
  | .none => []
  | .otherwise body => body.mentions
  | .test test body others => .read test.name :: (body.mentions ++ others.mentions)

end

mutual

/-- The statements of a tree mention its names. -/
theorem BlockTree.mentions_statements :
    ∀ tree : BlockTree, stmtsMentions tree.statements = tree.mentions
  | .done => rfl
  | .literal _ rest => congrArg _ rest.mentions_statements
  | .output _ rest => congrArg (_ :: _ :: _ :: ·) rest.mentions_statements
  | .loop target source body rest => by
      simp only [BlockTree.statements, stmtsMentions, Stmt.mentions, Target.mentions,
        Expr.mentions, BlockTree.mentions, body.mentions_statements, rest.mentions_statements,
        List.cons_append, List.nil_append, List.append_nil]
  | .choice test body others rest => by
      simp only [BlockTree.statements, stmtsMentions, Stmt.mentions, Expr.mentions,
        BlockTree.mentions, body.mentions_statements, others.mentions_statements,
        rest.mentions_statements, List.cons_append, List.nil_append, List.append_assoc]

theorem Branches.mentions_statements :
    ∀ others : Branches, stmtsMentions others.statements = others.mentions
  | .none => rfl
  | .otherwise body => body.mentions_statements
  | .test test body others => by
      simp only [Branches.statements, stmtsMentions, Stmt.mentions, Expr.mentions,
        Branches.mentions, body.mentions_statements, others.mentions_statements,
        List.cons_append, List.nil_append, List.append_nil]

end

/-- Reading a variable is an event of its scope. -/
theorem Variable.scopeEvents_name (shown : Variable) :
    (Expr.name shown.name).scopeEvents .plain = [.use .read shown.name .plain] :=
  if_neg shown.ne_fixedName

mutual

/-- What a scope does with names in the statements of a tree. -/
theorem BlockTree.events_statements : ∀ tree : BlockTree,
    stmtsScopeEvents tree.statements = tree.mentions.map Mention.event
  | .done => rfl
  | .literal _ rest => congrArg _ rest.events_statements
  | .output shown rest => by
      have written : (writeStatement (writtenValue shown)).scopeEvents =
          .use .read (text "_append") .plain :: .use .read (text "_str") .plain ::
            ((Expr.name shown.name).scopeEvents .plain ++ [] ++ [] ++ [] ++ []) := rfl
      rw [BlockTree.statements, stmtsScopeEvents, rest.events_statements, written,
        shown.scopeEvents_name]
      rfl
  | .loop target source body rest => by
      simp only [BlockTree.statements, stmtsScopeEvents, Stmt.scopeEvents, Target.scopeEvents,
        source.scopeEvents_name, BlockTree.mentions, body.events_statements,
        rest.events_statements, List.cons_append, List.nil_append, List.append_nil,
        List.map_cons, List.map_append, Mention.event]
  | .choice test body others rest => by
      simp only [BlockTree.statements, stmtsScopeEvents, Stmt.scopeEvents,
        test.scopeEvents_name, BlockTree.mentions, body.events_statements,
        others.events_statements, rest.events_statements, List.cons_append, List.nil_append,
        List.append_assoc, List.map_cons, List.map_append, Mention.event]

theorem Branches.events_statements : ∀ others : Branches,
    stmtsScopeEvents others.statements = others.mentions.map Mention.event
  | .none => rfl
  | .otherwise body => body.events_statements
  | .test test body others => by
      simp only [Branches.statements, stmtsScopeEvents, Stmt.scopeEvents,
        test.scopeEvents_name, Branches.mentions, body.events_statements,
        others.events_statements, List.cons_append, List.nil_append, List.append_nil,
        List.map_cons, List.map_append, Mention.event]

end

/-- A name that a tree may mention: one of the two for writing, or that of a variable. -/
def IsTreeMention (mention : Mention) : Prop :=
  mention = .read (text "_append") ∨ mention = .read (text "_str") ∨
    ∃ shown : Variable, mention = .read shown.name ∨ mention = .bind shown.name

theorem Variable.isTreeMention_read (shown : Variable) : IsTreeMention (.read shown.name) :=
  .inr (.inr ⟨shown, .inl rfl⟩)

/-- A variable is not what stands for the class above. -/
theorem Variable.ne_classAboveName (shown : Variable) : shown.name ≠ classAboveName := by
  intro same
  have notPublic := shown.isPublicName_eq_false
  have isPublic : isPublicName classAboveName = true := List.any_eq_true.mpr
    ⟨"super", by simp [publicNames], beq_self_eq_true classAboveName⟩
  rw [same, isPublic] at notPublic
  cases notPublic

/-- What a tree mentions is read or bound, and may be. -/
theorem IsTreeMention.isUse {mention : Mention} (ofTree : IsTreeMention mention) :
    mention.IsUse := by
  rcases ofTree with rfl | rfl | ⟨shown, rfl | rfl⟩
  · exact ⟨by decide, by decide⟩
  · exact ⟨by decide, by decide⟩
  · exact ⟨shown.ne_fixedName, shown.ne_classAboveName⟩
  · trivial

mutual

/-- A tree mentions variables and the names for writing only. -/
theorem BlockTree.isTreeMention_of_mem : ∀ (tree : BlockTree) {mention : Mention},
    mention ∈ tree.mentions → IsTreeMention mention
  | .done, _, member => nomatch member
  | .literal _ rest, mention, member => by
      rcases List.mem_cons.mp member with rfl | inRest
      · exact .inl rfl
      · exact rest.isTreeMention_of_mem inRest
  | .output shown rest, mention, member => by
      rcases List.mem_cons.mp member with rfl | inOthers
      · exact .inl rfl
      rcases List.mem_cons.mp inOthers with rfl | inOthers
      · exact .inr (.inl rfl)
      rcases List.mem_cons.mp inOthers with rfl | inRest
      · exact shown.isTreeMention_read
      · exact rest.isTreeMention_of_mem inRest
  | .loop target source body rest, mention, member => by
      rcases List.mem_cons.mp member with rfl | inOthers
      · exact .inr (.inr ⟨target, .inr rfl⟩)
      rcases List.mem_cons.mp inOthers with rfl | inBlocks
      · exact source.isTreeMention_read
      rcases List.mem_append.mp inBlocks with inBody | inRest
      · exact body.isTreeMention_of_mem inBody
      · exact rest.isTreeMention_of_mem inRest
  | .choice test body others rest, mention, member => by
      rcases List.mem_cons.mp member with rfl | inBlocks
      · exact test.isTreeMention_read
      rcases List.mem_append.mp inBlocks with inBody | inBlocks
      · exact body.isTreeMention_of_mem inBody
      rcases List.mem_append.mp inBlocks with inOthers | inRest
      · exact others.isTreeMention_of_mem inOthers
      · exact rest.isTreeMention_of_mem inRest

theorem Branches.isTreeMention_of_mem : ∀ (others : Branches) {mention : Mention},
    mention ∈ others.mentions → IsTreeMention mention
  | .none, _, member => nomatch member
  | .otherwise body, _, member => body.isTreeMention_of_mem member
  | .test test body others, mention, member => by
      rcases List.mem_cons.mp member with rfl | inBlocks
      · exact test.isTreeMention_read
      rcases List.mem_append.mp inBlocks with inBody | inOthers
      · exact body.isTreeMention_of_mem inBody
      · exact others.isTreeMention_of_mem inOthers

end

mutual

/-- The statements of a tree stand where they may as long as its loops are few enough. -/
theorem BlockTree.arePlaced_statements : ∀ (tree : BlockTree) {place : Place},
    place.blocks + tree.loopDepth ≤ blockLimit → stmtsArePlaced place tree.statements = true
  | .done, _, _ => rfl
  | .literal _ rest, _, room => rest.arePlaced_statements room
  | .output _ rest, _, room => rest.arePlaced_statements room
  | .loop target _ body rest, place, room => by
      rw [BlockTree.loopDepth] at room
      have inside : stmtsArePlaced place.loop body.statements = true :=
        body.arePlaced_statements (show place.blocks + 1 + body.loopDepth ≤ blockLimit by omega)
      have behind : stmtsArePlaced place rest.statements = true :=
        rest.arePlaced_statements (by omega)
      have hasRoom : place.loop.hasRoom = true :=
        decide_eq_true (show place.blocks + 1 ≤ blockLimit by omega)
      have mayBind : mayBind target.name = true := bne_iff_ne.mpr target.ne_fixedName
      simp only [BlockTree.statements, stmtsArePlaced, Stmt.isPlaced, Target.isPlaced,
        Expr.isPlaced, inside, behind, hasRoom, mayBind, Bool.not_false, Bool.true_or,
        Bool.and_self]
  | .choice _ body others rest, place, room => by
      rw [BlockTree.loopDepth] at room
      have inside : stmtsArePlaced place body.statements = true :=
        body.arePlaced_statements (by omega)
      have between : stmtsArePlaced place others.statements = true :=
        others.arePlaced_statements (by omega)
      have behind : stmtsArePlaced place rest.statements = true :=
        rest.arePlaced_statements (by omega)
      simp only [BlockTree.statements, stmtsArePlaced, Stmt.isPlaced, Expr.isPlaced, inside,
        between, behind, Bool.and_self]

theorem Branches.arePlaced_statements : ∀ (others : Branches) {place : Place},
    place.blocks + others.loopDepth ≤ blockLimit →
      stmtsArePlaced place others.statements = true
  | .none, _, _ => rfl
  | .otherwise body, _, room => body.arePlaced_statements room
  | .test _ body others, place, room => by
      rw [Branches.loopDepth] at room
      have inside : stmtsArePlaced place body.statements = true :=
        body.arePlaced_statements (by omega)
      have behind : stmtsArePlaced place others.statements = true :=
        others.arePlaced_statements (by omega)
      simp only [Branches.statements, stmtsArePlaced, Stmt.isPlaced, Expr.isPlaced, inside,
        behind, Bool.and_self]

end

namespace RenderProgram

/-- The mentions of the line that takes a variable from the context. -/
def bindingMentions (bound : Variable) : List Mention :=
  [.read (text "ctx"), .bind bound.name, .read (text "ctx")]

/-- The names that the body of a render function reads and binds, in order. -/
def mentions (bound : List Variable) (tree : BlockTree) : List Mention :=
  Mention.bind (text "_buf") :: Mention.bind (text "_append") :: Mention.read (text "_buf") ::
    (bound.flatMap bindingMentions ++ (tree.mentions ++ [Mention.read (text "_buf")]))

variable {bound : List Variable} {tree : BlockTree}

theorem mentions_bindings :
    stmtsMentions (bound.map bindStatement) = bound.flatMap bindingMentions := by
  induction bound with
  | nil => rfl
  | cons first others ih => rw [List.map_cons, stmtsMentions, ih, List.flatMap_cons]; rfl

theorem events_bindings : stmtsScopeEvents (bound.map bindStatement) =
    (bound.flatMap bindingMentions).map Mention.event := by
  induction bound with
  | nil => rfl
  | cons first others ih =>
      rw [List.map_cons, stmtsScopeEvents, ih, List.flatMap_cons, List.map_append]
      rfl

theorem arePlaced_bindings {place : Place} :
    stmtsArePlaced place (bound.map bindStatement) = true := by
  induction bound with
  | nil => rfl
  | cons first others ih =>
      have mayBind : mayBind first.name = true := bne_iff_ne.mpr first.ne_fixedName
      simp only [List.map_cons, bindStatement, stmtsArePlaced, Stmt.isPlaced, Expr.isPlaced,
        exprsArePlaced, List.all_cons, List.all_nil, Target.isPlaced, mayBind, ih, Bool.and_self]

theorem mentions_statements : stmtsMentions (statements bound tree) = mentions bound tree := by
  rw [statements, stmtsMentions, stmtsMentions, stmtsMentions_append, stmtsMentions_append,
    mentions_bindings, tree.mentions_statements]
  rfl

/-- What the scope of a render function does with names. -/
theorem events_statements : stmtsScopeEvents (statements bound tree) =
    (mentions bound tree).map Mention.event := by
  rw [statements, stmtsScopeEvents, stmtsScopeEvents, stmtsScopeEvents_append,
    stmtsScopeEvents_append, events_bindings, tree.events_statements]
  simp only [mentions, List.map_cons, List.map_append]
  rfl

/-- What a render function mentions is read or bound, and may be. -/
theorem isUse_of_mem {mention : Mention} (member : mention ∈ mentions bound tree) :
    mention.IsUse := by
  simp only [mentions, List.mem_cons, List.mem_append, List.mem_flatMap, bindingMentions,
    List.not_mem_nil, or_false] at member
  rcases member with rfl | rfl | rfl | ⟨shown, -, rfl | rfl | rfl⟩ | ofTree | rfl
  · trivial
  · trivial
  · exact ⟨by decide, by decide⟩
  · exact ⟨by decide, by decide⟩
  · trivial
  · exact ⟨by decide, by decide⟩
  · exact (tree.isTreeMention_of_mem ofTree).isUse
  · exact ⟨by decide, by decide⟩

/-- The events of the render function's scope. -/
def scope (bound : List Variable) (tree : BlockTree) : Scope :=
  .mk (.function false)
    (.use .parameter (text "ctx") .plain :: (mentions bound tree).map Mention.event)

/-- The scope of the render function is made of its parameter and its mentions. -/
theorem ofFunction_statements : Scope.ofFunction false
    [.mk .ordinary (text "ctx") none none] (statements bound tree) = scope bound tree := by
  rw [Scope.ofFunction, events_statements]
  rfl

theorem isGenerator_scope : (scope bound tree).isGenerator = false := by
  have others : (Scope.mk (.function false)
    ((mentions bound tree).map Mention.event)).isGenerator = false := isGenerator_events
  exact others

/-- No name of a render function is declared to live elsewhere. -/
theorem declaredNames_scope {role : NameRole} (declares : role ≠ .read ∧ role ≠ .bind)
    (noParameter : role ≠ .parameter) : declaredNames role (scope bound tree).events = [] := by
  have others : declaredNames role ((mentions bound tree).map Mention.event) = [] :=
    declaredNames_events (fun _ => isUse_of_mem) declares
  refine Eq.trans (List.filterMap_cons_none ?_) others
  exact if_neg noParameter.symm

/-- The names that live in a call of the render function are its parameter and those that it
binds. -/
theorem mem_ownNames_scope {name : Name} : name ∈ (scope bound tree).ownNames ↔
    name = text "ctx" ∨ .bind name ∈ mentions bound tree := by
  have noGlobals : (scope bound tree).globalNames = [] :=
    declaredNames_scope (by decide) (by decide)
  have noNonlocals : declaredNames .declaredNonlocal (scope bound tree).events = [] :=
    declaredNames_scope (by decide) (by decide)
  have stated : (scope bound tree).boundNames =
      text "ctx" :: statedNames ((mentions bound tree).map Mention.event) := by
    have noWalrus : walrusNames (scope bound tree).events = [] := by
      rw [scope, Scope.events, walrusNames, walrusNames_events]
      rfl
    change statedNames (scope bound tree).events ++ walrusNames (scope bound tree).events = _
    rw [noWalrus, List.append_nil]
    rfl
  rw [Scope.ownNames, List.mem_eraseDups, List.mem_filter, noGlobals, noNonlocals, stated,
    List.mem_cons, mem_statedNames_events]
  exact and_iff_left rfl

/-- The scope of the render function is accepted inside another one. -/
theorem apply_opens_scope (kind : ScopeKind) (names : NameTable) :
    ∃ table : NameTable, table.IsLocal ∧
      (ScopeEvent.opens (scope bound tree)).apply [⟨kind, none, names, []⟩] =
        some [⟨kind, none, names, [.mk (.function false) table []]⟩] := by
  let entered : OpenScope :=
    ⟨.function false, none, [(text "ctx", { NameStatus.unused with isParameter := true })], []⟩
  have enteredLocal : entered.names.IsLocal := fun entry member => by
    rw [List.mem_singleton.mp member]
    exact ⟨rfl, rfl⟩
  have areUses : ∀ mention ∈ mentions bound tree, mention.IsUse := fun _ => isUse_of_mem
  -- Which names the scope ends with does not matter, only that none of them lives elsewhere.
  obtain ⟨⟨_, owner, table, _⟩, applied, rfl, rfl, isLocal⟩ : ∃ after,
      applyAll (entered :: [⟨kind, none, names, []⟩]) ((mentions bound tree).map Mention.event) =
        some (after :: [⟨kind, none, names, []⟩]) ∧ after.kind = .function false ∧
        after.inner = [] ∧ after.names.IsLocal := applyAll_events areUses rfl enteredLocal
  have parameter : (ScopeEvent.use .parameter (text "ctx") .plain).apply
      [.opened (.function false) (some ⟨kind, none, names, []⟩), ⟨kind, none, names, []⟩] =
        some [entered, ⟨kind, none, names, []⟩] := rfl
  have inside : applyAll [.opened (.function false) (some ⟨kind, none, names, []⟩),
      ⟨kind, none, names, []⟩] (.use .parameter (text "ctx") .plain ::
        (mentions bound tree).map Mention.event) =
        some [⟨.function false, owner, table, []⟩, ⟨kind, none, names, []⟩] := by
    rw [applyAll, parameter, Option.bind_eq_bind, Option.bind_some]
    exact applied
  refine ⟨table, isLocal, ?_⟩
  rw [scope, ScopeEvent.apply]
  exact congrArg (Option.bind · _) inside

theorem events_program : stmtsScopeEvents (program bound tree) =
    [.use .bind (text "render") .plain, .opens (.mk .hint []), .opens (.mk .hint []),
      .opens (scope bound tree)] := by
  rw [← ofFunction_statements]
  rfl

/-- The names of a render function are declared consistently. -/
theorem declaresConsistently_program : declaresConsistently (program bound tree) = true := by
  let known : NameTable := [(text "render", { NameStatus.unused with isBound := true })]
  obtain ⟨table, isLocal, opened⟩ := @apply_opens_scope bound tree .program known
  have ran : applyAll [.opened .program none] (stmtsScopeEvents (program bound tree)) =
      some [⟨.program, none, known, [.mk (.function false) table []]⟩] := by
    have before : applyAll [.opened .program none] [.use .bind (text "render") .plain,
        .opens (.mk .hint []), .opens (.mk .hint []), .opens (scope bound tree)] =
          applyAll [⟨.program, none, known, []⟩] [.opens (scope bound tree)] := rfl
    rw [events_program, before, applyAll, opened]
    rfl
  have resolved : table.all (fun entry => !(entry.2.isGlobal && entry.2.isNonlocal) &&
      (!entry.2.isNonlocal || ([] : List Name).contains entry.1)) = true :=
    List.all_eq_true.mpr fun entry member => by
      obtain ⟨noGlobal, noNonlocal⟩ := isLocal entry member
      rw [noGlobal, noNonlocal]
      rfl
  rw [declaresConsistently, ran]
  exact Bool.and_eq_true_iff.mpr ⟨Bool.and_eq_true_iff.mpr ⟨resolved, rfl⟩, rfl⟩

theorem arePlaced_program (room : tree.loopDepth ≤ blockLimit) :
    stmtsArePlaced (.start .program) (program bound tree) = true := by
  have placed : stmtsArePlaced { Place.start (.function false) with isAwaitingGenerator := false }
      (statements bound tree) = true := by
    have inTree : stmtsArePlaced (.start (.function false)) tree.statements = true :=
      tree.arePlaced_statements ((Nat.zero_add _).trans_le room)
    rw [statements, stmtsArePlaced, stmtsArePlaced, stmtsArePlaced_append, stmtsArePlaced_append,
      arePlaced_bindings]
    change (true && (stmtsArePlaced (.start (.function false)) tree.statements && true)) = true
    rw [inTree]
    rfl
  rw [program, stmtsArePlaced, Stmt.isPlaced, ofFunction_statements, isGenerator_scope,
    Bool.and_false, placed]
  rfl

/-- **Every render program can be executed.** -/
theorem isExecutable_program (room : tree.loopDepth ≤ blockLimit) :
    isExecutable (program bound tree) = true :=
  Bool.and_eq_true_iff.mpr ⟨declaresConsistently_program, arePlaced_program room⟩

theorem ofProgram_program : NameUse.ofProgram (program bound tree) =
    .ofMentions (.bind (text "ctx") :: mentions bound tree) := by
  rw [NameUse.ofProgram, program, List.flatMap_singleton]
  change NameUse.ofMentions (.bind (text "ctx") :: stmtsMentions (statements bound tree)) = _
  rw [mentions_statements]

/-- Nothing is declared where every name is read or bound. -/
theorem declared_eq_nil {mentions : List Mention}
    (areUses : ∀ mention ∈ mentions, mention.IsUse) :
    (NameUse.ofMentions mentions).declared = [] := by
  refine List.filterMap_eq_nil_iff.mpr fun mention member => ?_
  cases mention with
  | read _ => rfl
  | bind _ => rfl
  | declare name => exact (areUses _ member).elim

/-- The names that have to be supplied to a tree are those that it reads and that are not
reserved. -/
theorem mem_referenced_program {name : Name} :
    name ∈ (NameUse.ofProgram (program [] tree)).referenced ↔
      .read name ∈ tree.mentions ∧ name ∉ reservedNames := by
  have areUses : ∀ mention ∈ .bind (text "ctx") :: mentions [] tree, mention.IsUse := by
    rintro mention member
    rcases List.mem_cons.mp member with rfl | inBody
    · trivial
    · exact isUse_of_mem inBody
  have noneDeclared := declared_eq_nil areUses
  rw [NameUse.referenced, ofProgram_program, noneDeclared, List.mem_filter,
    NameUse.mem_loaded_ofMentions]
  simp only [List.contains_nil, Bool.not_false, Bool.true_and, Bool.not_eq_true']
  simp only [mentions, List.flatMap_nil, List.nil_append, List.mem_cons, List.mem_append,
    reduceCtorEq, Mention.read.injEq, false_or, List.not_mem_nil, or_false,
    List.contains_eq_mem, decide_eq_false_iff_not]
  constructor
  · rintro ⟨rfl | ofTree | rfl, free⟩
    · exact absurd (by decide) free
    · exact ⟨ofTree, free⟩
    · exact absurd (by decide) free
  · rintro ⟨ofTree, free⟩
    exact ⟨.inr (.inl ofTree), free⟩

/-- **The names that are taken from the context are the variables that the tree reads.** -/
theorem exists_bound (tree : BlockTree) : ∃ bound : List Variable,
    bound.map Variable.name =
      Text.sortedSet (NameUse.ofProgram (program [] tree)).referenced ∧
    ∀ shown : Variable, shown ∈ bound ↔ .read shown.name ∈ tree.mentions := by
  have member {name : Name} : name ∈ Text.sortedSet
      (NameUse.ofProgram (program [] tree)).referenced ↔
        .read name ∈ tree.mentions ∧ name ∉ reservedNames := by
    rw [Text.sortedSet, List.mem_mergeSort, List.mem_eraseDups, mem_referenced_program]
  have areVariables : ∀ name ∈ Text.sortedSet
      (NameUse.ofProgram (program [] tree)).referenced, name ∈ Set.range Variable.name := by
    intro name inSet
    obtain ⟨isRead, free⟩ := member.mp inSet
    rcases tree.isTreeMention_of_mem isRead with same | same | ⟨shown, same | same⟩
    · exact absurd (Mention.read.inj same ▸ by decide) free
    · exact absurd (Mention.read.inj same ▸ by decide) free
    · exact ⟨shown, (Mention.read.inj same).symm⟩
    · cases same
  -- Every one of the names is that of a variable, so the list of names is one of variables.
  obtain ⟨bound, same⟩ := (Set.ext_iff.mp (Set.range_list_map Variable.name) _).mpr areVariables
  refine ⟨bound, same, fun shown => ⟨fun inBound => ?_, fun isRead => ?_⟩⟩
  · have inNames : shown.name ∈ bound.map Variable.name := List.mem_map_of_mem inBound
    rw [same] at inNames
    exact (member.mp inNames).1
  · have inSet := member.mpr ⟨isRead, fun reserved => shown.ne_of_mem_reservedNames reserved rfl⟩
    rw [← same] at inSet
    obtain ⟨found, inBound, sameName⟩ := List.mem_map.mp inSet
    cases found
    cases shown
    cases sameName
    exact inBound

end RenderProgram

end Stencil
