import Stencil.Proofs.Script.Laid
import Stencil.Proofs.Script.PatternTwins
import Stencil.Proofs.Script.StatementReader

/-! # Readers of statements as twins

The readers of statements answer alike when those of their nested parts do, and the lexemes taken
for a statement are laid out as one (`Stencil.Script.LaidTwins`). A block is read behind a colon,
so it gets less room than the statement around it. The readers of all depths that exceed the room
of the lexemes answer alike (`Stencil.Script.Inner.alike_ofDepth`).
-/

namespace Stencil.Script

open Reader

/-! ## Twins of statements -/

/-- Lexemes that go on with any statement. -/
def Continuation (lexemes : List Lexeme) : Prop := ∀ front, Laid front → Laid (front ++ lexemes)

theorem continuation_nil : Continuation [] := fun front laid => by rwa [List.append_nil]

theorem Continuation.append {front behind : List Lexeme} (continues : Continuation front)
    (others : Continuation behind) : Continuation (front ++ behind) := fun earlier laid => by
  rw [← List.append_assoc]
  exact others _ (continues earlier laid)

theorem Laid.continuation {first : Lexeme} {rest : List Lexeme} (laid : Laid (first :: rest))
    (continues : first.continues = true) : Continuation (first :: rest) :=
  fun _ laidFront => .more laidFront laid continues

/-- Two readers answer alike with names that can be spelled, and take the lexemes of a statement. -/
def LaidTwins {α : Type} [Spellable α] (room : Nat) (left right : Reader α) : Prop :=
  Reader.Twins room (fun value taken => Spells value ∧ Laid taken) left right

/-- Two readers answer alike with names that can be spelled, and take lexemes that go on with any
statement. -/
def ContinuedTwins {α : Type} [Spellable α] (room : Nat) (left right : Reader α) : Prop :=
  Reader.Twins room (fun value taken => Spells value ∧ Continuation taken) left right

section

variable {α β : Type} [Spellable α] [Spellable β] {room less : Nat} {lexeme : Lexeme}
  {left right : Reader α} {next nextRight : α → Reader β}

theorem ContinuedTwins.pure {value : α} (spelled : Spells value) :
    ContinuedTwins room (pure value) (pure value) := twins_pure ⟨spelled, continuation_nil⟩

theorem ContinuedTwins.refuse : ContinuedTwins room (refuse : Reader α) refuse := twins_refuse

theorem ContinuedTwins.bind (twins : ContinuedTwins room left right)
    (follow : ∀ value, Spells value → ContinuedTwins room (next value) (nextRight value)) :
    ContinuedTwins room (left >>= next) (right >>= nextRight) :=
  Twins.bind twins fun value _ held => (follow value held.1).weaken fun _ _ heldNext =>
    ⟨heldNext.1, held.2.append heldNext.2⟩

theorem ContinuedTwins.ite {condition : Prop} [Decidable condition] {other otherRight : Reader α}
    (whenTrue : ContinuedTwins room left right)
    (whenFalse : ContinuedTwins room other otherRight) :
    ContinuedTwins room (if condition then left else other)
      (if condition then right else otherRight) :=
  Twins.ite (fun _ => whenTrue) fun _ => whenFalse

theorem ContinuedTwins.require_bind {condition : Bool} {next nextRight : Unit → Reader β}
    (follow : ContinuedTwins room (next ()) (nextRight ())) :
    ContinuedTwins room (require condition >>= next) (require condition >>= nextRight) :=
  twins_require_bind fun _ => follow

/-- A word that may come next begins what goes on with a statement. -/
theorem ContinuedTwins.acceptKeyword_bind {word : Keyword} {next nextRight : Bool → Reader β}
    (continues : (Lexeme.keyword word).continues = true)
    (taken : ∀ less, less < room → LaidTwins less (next true) (nextRight true))
    (notTaken : ContinuedTwins room (next false) (nextRight false)) :
    ContinuedTwins room (acceptKeyword word >>= next) (acceptKeyword word >>= nextRight) :=
  twins_accept_bind (fun less fits => (taken less fits).weaken fun _ _ held =>
    ⟨held.1, (held.2.cons rfl).continuation continues⟩) notTaken

theorem ContinuedTwins.acceptKeyword_ite {word : Keyword} {left right other otherRight : Reader α}
    (continues : (Lexeme.keyword word).continues = true)
    (taken : ∀ less, less < room → LaidTwins less left right)
    (notTaken : ContinuedTwins room other otherRight) :
    ContinuedTwins room (acceptKeyword word >>= fun found => if found = true then left else other)
      (acceptKeyword word >>= fun found => if found = true then right else otherRight) :=
  acceptKeyword_bind continues taken notTaken

theorem ContinuedTwins.repeatFrom {step stepRight : α → Reader (Option α)} {value : α}
    (spelled : Spells value)
    (steps : ∀ value, Spells value → ContinuedTwins room (step value) (stepRight value)) :
    ContinuedTwins room (repeatFrom step value) (repeatFrom stepRight value) := by
  refine Twins.repeatFrom (fun value taken => Spells value ∧ Continuation taken)
    ⟨spelled, continuation_nil⟩ fun value taken held => ?_
  refine (steps value held.1).weaken fun found behind heldNext => ?_
  cases found with
  | none => exact ⟨held.1, held.2.append heldNext.2⟩
  | some following => exact ⟨spells_some.mp heldNext.1, held.2.append heldNext.2⟩

namespace LaidTwins

theorem mono (twins : LaidTwins room left right) (le : less ≤ room) : LaidTwins less left right :=
  Twins.mono twins le

theorem refuse : LaidTwins room (refuse : Reader α) refuse := twins_refuse

/-- What goes on with a statement stands behind it. -/
theorem bind (twins : LaidTwins room left right)
    (follow : ∀ value, Spells value → ContinuedTwins room (next value) (nextRight value)) :
    LaidTwins room (left >>= next) (right >>= nextRight) :=
  Twins.bind twins fun value _ held => (follow value held.1).weaken fun _ _ heldNext =>
    ⟨heldNext.1, heldNext.2 _ held.2⟩

/-- The first line of a statement begins with more lexemes. -/
theorem inline_bind (twins : InlineTwins room left right)
    (follow : ∀ value, Spells value → LaidTwins room (next value) (nextRight value)) :
    LaidTwins room (left >>= next) (right >>= nextRight) :=
  Twins.bind twins fun value _ held => (follow value held.1).weaken fun _ _ heldNext =>
    ⟨heldNext.1, heldNext.2.prepend held.2⟩

theorem peek_bind {next nextRight : Option Lexeme → Reader β}
    (follow : ∀ found, LaidTwins room (next found) (nextRight found)) :
    LaidTwins room (peek >>= next) (peek >>= nextRight) := twins_peek_bind fun found _ => follow found

theorem expect_bind {next nextRight : Unit → Reader β} (inline : lexeme.isInline = true)
    (heavy : lexeme.weight ≠ 0)
    (follow : ∀ less, less < room → LaidTwins less (next ()) (nextRight ())) :
    LaidTwins room (expect lexeme >>= next) (expect lexeme >>= nextRight) :=
  twins_expect_bind fun less fits => (follow less (by omega)).weaken fun _ _ held =>
    ⟨held.1, held.2.cons inline⟩

theorem expectSymbol_bind {symbol : Symbol} {next nextRight : Unit → Reader β}
    (follow : ∀ less, less < room → LaidTwins less (next ()) (nextRight ())) :
    LaidTwins room (expectSymbol symbol >>= next) (expectSymbol symbol >>= nextRight) :=
  expect_bind rfl Nat.one_ne_zero follow

theorem expectKeyword_bind {word : Keyword} {next nextRight : Unit → Reader β}
    (follow : ∀ less, less < room → LaidTwins less (next ()) (nextRight ())) :
    LaidTwins room (expectKeyword word >>= next) (expectKeyword word >>= nextRight) :=
  expect_bind rfl Nat.one_ne_zero follow

theorem acceptKeyword_bind {word : Keyword} {next nextRight : Bool → Reader β}
    (taken : ∀ less, less < room → LaidTwins less (next true) (nextRight true))
    (notTaken : LaidTwins room (next false) (nextRight false)) :
    LaidTwins room (acceptKeyword word >>= next) (acceptKeyword word >>= nextRight) :=
  twins_accept_bind (fun less fits => (taken less fits).weaken fun _ _ held =>
    ⟨held.1, held.2.cons rfl⟩) notTaken

theorem acceptKeyword_ite {word : Keyword} {left right other otherRight : Reader α}
    (taken : ∀ less, less < room → LaidTwins less left right)
    (notTaken : LaidTwins room other otherRight) :
    LaidTwins room (acceptKeyword word >>= fun found => if found = true then left else other)
      (acceptKeyword word >>= fun found => if found = true then right else otherRight) :=
  acceptKeyword_bind taken notTaken

theorem ite {condition : Prop} [Decidable condition] {other otherRight : Reader α}
    (whenTrue : LaidTwins room left right) (whenFalse : LaidTwins room other otherRight) :
    LaidTwins room (if condition then left else other)
      (if condition then right else otherRight) :=
  Twins.ite (fun _ => whenTrue) fun _ => whenFalse

theorem require_bind {condition : Bool} {next nextRight : Unit → Reader β}
    (follow : LaidTwins room (next ()) (nextRight ())) :
    LaidTwins room (require condition >>= next) (require condition >>= nextRight) :=
  twins_require_bind fun _ => follow

theorem nextIs_bind {next nextRight : Bool → Reader β}
    (follow : ∀ found, LaidTwins room (next found) (nextRight found)) :
    LaidTwins room (nextIs lexeme >>= next) (nextIs lexeme >>= nextRight) := twins_nextIs_bind follow

theorem acceptSymbol_bind {symbol : Symbol} {next nextRight : Bool → Reader β}
    (taken : ∀ less, less < room → LaidTwins less (next true) (nextRight true))
    (notTaken : LaidTwins room (next false) (nextRight false)) :
    LaidTwins room (acceptSymbol symbol >>= next) (acceptSymbol symbol >>= nextRight) :=
  twins_accept_bind (fun less fits => (taken less fits).weaken fun _ _ held =>
    ⟨held.1, held.2.cons rfl⟩) notTaken

theorem expectName_bind {next nextRight : Name → Reader β}
    (follow : ∀ name less, less < room → LaidTwins less (next name) (nextRight name)) :
    LaidTwins room (expectName >>= next) (expectName >>= nextRight) :=
  twins_expectName_bind fun word _ less lt =>
    (follow word.spelledName less lt).weaken fun _ _ held => ⟨held.1, held.2.cons rfl⟩

end LaidTwins

end

/-! ## Simple statements -/

variable {room : Nat} {left right : Inner}

theorem inlineTwins_assignedValue (near : left.Near room right) :
    InlineTwins room (assignedValue left) (assignedValue right) := by
  unfold assignedValue
  exact .nextIs_bind fun _ =>
    .ite (inlineTwins_yieldExpression near.below) (inlineTwins_starExpressions near)

theorem inlineTwins_hintedRest (near : left.Near room right) {target : Target}
    (spelled : Spells target) (isSimple : Bool) :
    InlineTwins room (hintedRest left target isSimple) (hintedRest right target isSimple) := by
  unfold hintedRest
  refine .expectSymbol_bind fun less lt => ?_
  have nearLess := near.below less lt
  refine nearLess.expression.bind fun hint spelledHint => ?_
  have finish : ∀ value : Option Expr, Spells value → Spells (Stmt.hinted target isSimple hint value) :=
    fun value spelledValue => AllSpelled.append.mpr
      ⟨AllSpelled.append.mpr ⟨spelled, spelledHint⟩, allSpelled_option.mpr spelledValue⟩
  refine .acceptSymbol_ite (fun lower lowerLt => ?_) (.bind (.pure spells_none) fun value held =>
    .pure (finish value held))
  refine .bind (.map (inlineTwins_assignedValue (near.mono (by omega))) fun value held =>
    spells_some.mpr held) fun value held => .pure (finish value held)

theorem inlineTwins_assignmentRest (near : left.Near room right) {first : Expr}
    (spelled : Spells first) :
    InlineTwins room (assignmentRest left first) (assignmentRest right first) := by
  have start : Spells ([first], false) := ⟨spells_cons.mpr ⟨spelled, spells_nil⟩, trivial⟩
  unfold assignmentRest
  refine .bind (.repeatFrom start ?_) ?_
  · rintro ⟨values, isEnded⟩ ⟨spelledValues, -⟩
    refine .ite (.pure spells_none) (.acceptSymbol_ite (fun less lt => .nextIs_bind fun isYield =>
      .ite ?_ ?_) (.pure spells_none))
    · exact (inlineTwins_yieldExpression (near.mono (Nat.le_of_lt lt)).below).bind
        fun value spelledValue =>
          .pure (spells_some.mpr ⟨spells_cons.mpr ⟨spelledValue, spelledValues⟩, trivial⟩)
    · exact (inlineTwins_starExpressions (near.mono (Nat.le_of_lt lt))).bind
        fun value spelledValue =>
          .pure (spells_some.mpr ⟨spells_cons.mpr ⟨spelledValue, spelledValues⟩, trivial⟩)
  · rintro ⟨values, isEnded⟩ ⟨spelledValues, -⟩
    match values with
    | [] => exact .refuse
    | [single] => exact .pure (spells_cons.mp spelledValues).1
    | value :: next :: targets =>
        obtain ⟨spelledValue, spelledTargets⟩ := spells_cons.mp spelledValues
        refine .ofOption_bind fun found isFound => .pure ?_
        exact AllSpelled.append.mpr ⟨allSpelled_targets.mpr
          (spells_targetsOf? (spells_reverse.mpr spelledTargets) isFound), spelledValue⟩

theorem inlineTwins_assignmentOrRow (near : left.Near room right) :
    InlineTwins room (assignmentOrRow left) (assignmentOrRow right) := by
  unfold assignmentOrRow
  refine (inlineTwins_starExpressions near).bind fun first spelled => .peek_bind fun next _ => ?_
  split
  · refine .ofOption_bind fun target found => .require_bind ?_
    exact inlineTwins_hintedRest near (spells_toTarget? spelled found) false
  · refine .ofOption_bind fun target found => .require_bind (.expectSymbol_bind fun less lt => ?_)
    refine (inlineTwins_assignedValue (near.below less lt)).bind fun value spelledValue => .pure ?_
    refine AllSpelled.append.mpr ⟨AllSpelled.append.mpr ⟨?_, spells_toTarget? spelled found⟩,
      spelledValue⟩
    -- A name that is combined with a value was read as an expression.
    split
    · rw [eq_name_of_toTarget? found] at spelled
      exact spelled
    · exact AllSpelled.nil
  · exact inlineTwins_assignmentRest near spelled

theorem inlineTwins_assignmentOrExpression (near : left.Near room right) :
    InlineTwins room (assignmentOrExpression left) (assignmentOrExpression right) := by
  unfold assignmentOrExpression
  refine .peek_bind fun next _ => .peekSecond_bind fun second => ?_
  split
  · refine .expectName_bind fun name _ less lt => ?_
    exact inlineTwins_hintedRest (near.below less lt) (AllSpelled.cons_bind.mpr AllSpelled.nil) true
  · exact (inlineTwins_yieldExpression near.below).bind fun value spelled => .pure spelled
  · exact inlineTwins_assignmentOrRow near

/-- Items of a row without parentheses. -/
theorem inlineTwins_row {α : Type} [Spellable α] {item : Reader α} {symbol : Symbol}
    (twins : InlineTwins room item item) {found : List α} (spelled : Spells found) :
    InlineTwins room
      (repeatFrom (fun found => do
        if ← acceptSymbol symbol then return some ((← item) :: found) else return none) found)
      (repeatFrom (fun found => do
        if ← acceptSymbol symbol then return some ((← item) :: found) else return none) found) := by
  refine .repeatFrom spelled fun earlier spelledEarlier => ?_
  refine .acceptSymbol_ite (fun less lt => ?_) (.pure spells_none)
  exact (twins.mono (Nat.le_of_lt lt)).bind fun value spelledValue =>
    .pure (spells_some.mpr (spells_cons.mpr ⟨spelledValue, spelledEarlier⟩))

theorem inlineTwins_nameList : InlineTwins room nameList nameList := by
  unfold nameList
  refine InlineTwins.expectName.bind fun first _ => ?_
  exact (inlineTwins_row .expectName (spells_cons.mpr ⟨spells_name _, spells_nil⟩)).bind
    fun found spelled => .pure (spells_reverse.mpr spelled)

theorem inlineTwins_dottedName : InlineTwins room dottedName dottedName := by
  unfold dottedName
  refine InlineTwins.expectName.bind fun first _ => ?_
  exact (inlineTwins_row .expectName (spells_cons.mpr ⟨spells_name _, spells_nil⟩)).bind
    fun found spelled => .pure (spells_reverse.mpr spelled)

theorem inlineTwins_givenName : InlineTwins room givenName givenName := by
  unfold givenName
  exact .acceptKeyword_ite (fun _ _ => .map .expectName fun name _ =>
    spells_some.mpr (spells_name name)) (.pure spells_none)

/-- Imports read no names. -/
theorem allSpelled_aliases (aliases : List Alias) :
    AllSpelled (aliases.map fun imported => .bind imported.boundName) := by
  intro name member
  obtain ⟨imported, -, differs⟩ := List.mem_map.mp member
  cases differs

theorem inlineTwins_importedModules : InlineTwins room importedModules importedModules := by
  have item : ∀ {room}, InlineTwins room
      (do
        let path ← dottedName
        return Alias.mk path (← givenName))
      (do
        let path ← dottedName
        return Alias.mk path (← givenName)) := fun {room} =>
    inlineTwins_dottedName.bind fun _ _ => inlineTwins_givenName.bind fun _ _ => .pure trivial
  unfold importedModules
  refine item.bind fun first _ => ?_
  exact (inlineTwins_row item (spells_cons.mpr ⟨trivial, spells_nil⟩)).bind fun found _ =>
    .pure (allSpelled_aliases _)

/-- What is imported from a module, with the keyword in front. -/
def importedItems (dots : Nat) (path : List Name) : Reader Stmt := do
  expectKeyword .importWord
  let item : Reader Alias := do
    let name ← expectName
    return ⟨[name], ← givenName⟩
  if ← acceptSymbol (.operator .multiply) then return .importAll dots path
  else if ← acceptSymbol .leftParen then
    let (aliases, _) ← items item isNameLexeme
    expectSymbol .rightParen
    return .importNames dots path aliases
  else
    let step (found : List Alias) : Reader (Option (List Alias)) := do
      if ← acceptSymbol .comma then return some ((← item) :: found) else return none
    return .importNames dots path (← repeatFrom step [← item]).reverse

theorem inlineTwins_importedItems (dots : Nat) (path : List Name) :
    InlineTwins room (importedItems dots path) (importedItems dots path) := by
  have item : ∀ {room}, InlineTwins room
      (do
        let name ← expectName
        return Alias.mk [name] (← givenName))
      (do
        let name ← expectName
        return Alias.mk [name] (← givenName)) := fun {room} =>
    .expectName_bind fun _ _ _ _ => inlineTwins_givenName.bind fun _ _ => .pure trivial
  unfold importedItems
  refine .expectKeyword_bind fun less lt => ?_
  refine .acceptSymbol_ite (fun _ _ => .pure (AllSpelled.cons_bind.mpr AllSpelled.nil))
    (.acceptSymbol_ite (fun lower _ => ?_) ?_)
  · exact item.items.bind fun found _ => .expectSymbol_bind fun _ _ =>
      .pure (allSpelled_aliases _)
  · refine item.bind fun first _ => ?_
    exact (inlineTwins_row item (spells_cons.mpr ⟨trivial, spells_nil⟩)).bind fun found _ =>
      .pure (allSpelled_aliases _)

theorem inlineTwins_importedNames : InlineTwins room importedNames importedNames := by
  unfold importedNames
  have start : Spells 0 := trivial
  refine .bind (.repeatFrom start fun found _ => ?_) fun dots _ => .peek_bind fun next _ => ?_
  · refine .acceptSymbol_ite (fun _ _ => .pure (spells_some.mpr trivial)) ?_
    exact .acceptSymbol_ite (fun _ _ => .pure (spells_some.mpr trivial)) (.pure spells_none)
  · exact .ite (inlineTwins_dottedName.bind fun path _ => inlineTwins_importedItems dots path)
      (.ite (inlineTwins_dottedName.bind fun path _ => inlineTwins_importedItems dots path)
        (inlineTwins_importedItems dots []))

theorem inlineTwins_deletedTargets (near : left.Near room right) :
    InlineTwins room (deletedTargets left) (deletedTargets right) := by
  unfold deletedTargets
  refine near.primary.items.bind fun found spelled => .ofOption_bind fun targets isFound => ?_
  exact .require_bind (.pure (allSpelled_targets.mpr (spells_targetsOf? spelled.1 isFound)))

theorem inlineTwins_raisedException (near : left.Near room right) :
    InlineTwins room (raisedException left) (raisedException right) := by
  unfold raisedException
  refine .peek_bind fun next _ => .ite ?_ (.pure AllSpelled.nil)
  refine near.expression.bind fun exception spelled => .acceptKeyword_ite (fun less lt => ?_) ?_
  · exact (near.below less lt).expression.bind fun cause spelledCause =>
      .pure (AllSpelled.append.mpr ⟨spelled, spelledCause⟩)
  · exact .pure (AllSpelled.append.mpr ⟨spelled, AllSpelled.nil⟩)

theorem inlineTwins_assertedTest (near : left.Near room right) :
    InlineTwins room (assertedTest left) (assertedTest right) := by
  unfold assertedTest
  refine near.expression.bind fun test spelled => .acceptSymbol_ite (fun less lt => ?_) ?_
  · exact (near.below less lt).expression.bind fun message spelledMessage =>
      .pure (AllSpelled.append.mpr ⟨spelled, spelledMessage⟩)
  · exact .pure (AllSpelled.append.mpr ⟨spelled, AllSpelled.nil⟩)

/-- A declaration reads no names. -/
theorem spells_globalNames (names : List Name) : Spells (Stmt.globalNames names) := by
  intro name member
  obtain ⟨declared, -, differs⟩ := List.mem_map.mp member
  cases differs

theorem spells_nonlocalNames (names : List Name) : Spells (Stmt.nonlocalNames names) := by
  intro name member
  obtain ⟨declared, -, differs⟩ := List.mem_map.mp member
  cases differs

theorem inlineTwins_simpleStatement (near : left.Near room right) :
    InlineTwins room (simpleStatement left) (simpleStatement right) := by
  have nothing : ∀ {less : Nat} {stmt : Stmt}, stmt.mentions = [] →
      InlineTwins less (pure stmt) (pure stmt) := fun none => .pure fun name member => by
    rw [none] at member
    cases member
  unfold simpleStatement
  refine .acceptKeyword_ite (fun _ _ => nothing rfl) (.acceptKeyword_ite (fun _ _ => nothing rfl)
    (.acceptKeyword_ite (fun _ _ => nothing rfl) (.acceptKeyword_ite (fun less lt => ?_)
    (.acceptKeyword_ite (fun less lt => inlineTwins_raisedException (near.below less lt))
    (.acceptKeyword_ite (fun _ _ => ?_) (.acceptKeyword_ite (fun _ _ => ?_)
    (.acceptKeyword_ite (fun less lt => inlineTwins_deletedTargets (near.below less lt))
    (.acceptKeyword_ite (fun less lt => inlineTwins_assertedTest (near.below less lt))
    (.acceptKeyword_ite (fun _ _ => inlineTwins_importedModules)
    (.acceptKeyword_ite (fun _ _ => inlineTwins_importedNames)
      (inlineTwins_assignmentOrExpression near)))))))))))
  · refine .peek_bind fun next _ => .ite ?_ (nothing rfl)
    exact (inlineTwins_starExpressions (near.below less lt)).bind fun value spelled => .pure spelled
  · exact inlineTwins_nameList.bind fun names _ => .pure (spells_globalNames names)
  · exact inlineTwins_nameList.bind fun names _ => .pure (spells_nonlocalNames names)

/-! ## Lines and blocks -/

/-- The simple statements of a line as far as they have been read: the line has ended once the
reader says so. -/
def LineInvariant (found : List Stmt × Bool) (taken : List Lexeme) : Prop :=
  Spells found.1 ∧ if found.2 then Laid taken else Inline taken

/-- A line may end behind some of its statements. -/
theorem twins_accept_lineEnd {inside : List Lexeme} {statements : List Stmt}
    {post : Option (List Stmt × Bool) → List Lexeme → Prop}
    {next nextRight : Reader (Option (List Stmt × Bool))} (spelled : Spells statements)
    (inline : Inline inside)
    (ended : ∀ taken, LineInvariant (statements, true) (inside ++ taken) →
      post (some (statements, true)) taken)
    (goesOn : Twins room post next nextRight) :
    Twins room post
      (do if ← accept .lineEnd then return some (statements, true) else next)
      (do if ← accept .lineEnd then return some (statements, true) else nextRight) :=
  twins_accept_bind (fun _ _ => twins_pure (ended [.lineEnd] ⟨spelled, .line inline⟩)) goesOn

/-- The statements of one line, with the end of the line. -/
theorem laidTwins_simpleStatements (near : left.Near room right) :
    LaidTwins room (simpleStatements left) (simpleStatements right) := by
  unfold simpleStatements
  refine Twins.bind (inlineTwins_simpleStatement near) fun first taken held => ?_
  have start : LineInvariant ([first], false) (taken ++ []) :=
    ⟨spells_cons.mpr ⟨held.1, spells_nil⟩, by rw [List.append_nil]; exact held.2⟩
  refine Twins.repeatFrom_bind (fun found behind => LineInvariant found (taken ++ behind))
    (fun found behind => Spells found.1 ∧ Laid (taken ++ behind)) start ?_ ?_
  · rintro ⟨statements, isEnded⟩ more ⟨spelled, shape⟩
    cases isEnded with
    | true => exact twins_pure ⟨spelled, by rw [List.append_nil]; exact shape⟩
    | false =>
        simp only [← List.append_assoc]
        refine twins_accept_lineEnd spelled shape (fun _ held => held) ?_
        refine twins_expect_bind fun less fits => ?_
        have inline : Inline (taken ++ more ++ [.symbol .semicolon]) :=
          Inline.append shape (inline_cons rfl inline_nil)
        have nearLess := near.mono (Nat.le_of_add_right_le fits)
        refine twins_accept_lineEnd spelled inline (fun behind held => ?_) ?_
        · rwa [List.append_assoc] at held
        · refine Twins.bind (inlineTwins_simpleStatement nearLess) fun stmt behind heldStmt => ?_
          refine twins_pure ⟨spells_cons.mpr ⟨heldStmt.1, spelled⟩, ?_⟩
          rw [List.append_nil]
          exact Inline.append shape (inline_cons rfl heldStmt.2)
  · rintro ⟨statements, isEnded⟩ more ⟨spelled, laid⟩
    exact twins_pure ⟨spells_reverse.mpr spelled, by rwa [List.append_nil]⟩

/-- Two readers of blocks answer alike with names that can be spelled. -/
def BlockTwins (room : Nat) (left right : Reader (List Stmt)) : Prop :=
  Reader.Twins room (fun found taken => Spells found ∧ LaidBlock taken) left right

/-- The readers for nested parts are twins, those of blocks wherever there is less room. -/
structure Inner.Alike (room : Nat) (left right : Inner) : Prop where
  near : left.Near room right
  statements : ∀ less < room, BlockTwins less left.statements right.statements

theorem Inner.Alike.mono {less : Nat} (alike : left.Alike room right) (le : less ≤ room) :
    left.Alike less right :=
  ⟨alike.near.mono le, fun lower lt => alike.statements lower (Nat.lt_of_lt_of_le lt le)⟩

theorem laidTwins_block (alike : left.Alike room right) :
    LaidTwins room (block left) (block right) := by
  unfold block
  refine twins_accept_bind (fun less fits => ?_) (laidTwins_simpleStatements alike.near)
  refine twins_expect_bind fun lower lowerFits => ?_
  have lt : lower < room := by
    have lineEndWeighs : Lexeme.lineEnd.weight = 1 := rfl
    omega
  refine Twins.bind (alike.statements lower lt) fun body taken held => ?_
  refine twins_expect_bind fun _ _ => twins_pure ⟨held.1, ?_⟩
  obtain ⟨parts, rfl, laid⟩ := held.2
  exact Laid.block inline_nil laid

theorem laidTwins_colonBlock (alike : left.Alike room right) :
    LaidTwins room (colonBlock left) (colonBlock right) := by
  unfold colonBlock
  exact .expectSymbol_bind fun less lt => laidTwins_block (alike.mono (Nat.le_of_lt lt))

theorem continuedTwins_elseBlock (alike : left.Alike room right) :
    ContinuedTwins room (elseBlock left) (elseBlock right) := by
  unfold elseBlock
  exact .acceptKeyword_ite rfl (fun less lt => laidTwins_colonBlock (alike.mono (Nat.le_of_lt lt)))
    (.pure spells_nil)

/-! ## Choices and loops -/

theorem laidTwins_choiceBranch (alike : left.Alike room right) :
    LaidTwins room (choiceBranch left) (choiceBranch right) := by
  unfold choiceBranch
  refine .inline_bind (inlineTwins_namedExpression alike.near) fun test spelledTest => ?_
  exact (laidTwins_colonBlock alike).bind fun body spelledBody =>
    .pure ⟨spelledTest, spelledBody⟩

theorem continuedTwins_elifStep (alike : left.Alike room right)
    {found : List (Expr × List Stmt)} (spelled : Spells found) :
    ContinuedTwins room (elifStep left found) (elifStep right found) := by
  unfold elifStep
  refine .acceptKeyword_ite rfl (fun less lt => ?_) (.pure spells_none)
  exact (laidTwins_choiceBranch (alike.mono (Nat.le_of_lt lt))).bind fun branch spelledBranch =>
    .pure (spells_some.mpr (spells_cons.mpr ⟨spelledBranch, spelled⟩))

/-- A choice whose further tests nest in its last block. -/
theorem spells_nested {found : List (Expr × List Stmt)} (spelled : Spells found) {last : Stmt}
    (spelledLast : Spells last) :
    Spells (found.foldl (fun statement (branch : Expr × List Stmt) =>
      .ifBlock branch.1 branch.2 [statement]) last) := by
  induction found generalizing last with
  | nil => exact spelledLast
  | cons branch found ih =>
      obtain ⟨⟨spelledTest, spelledBody⟩, spelledFound⟩ := spells_cons.mp spelled
      refine ih spelledFound ?_
      exact AllSpelled.append.mpr ⟨AllSpelled.append.mpr ⟨spelledTest,
        allSpelled_stmts.mpr spelledBody⟩,
        allSpelled_stmts.mpr (spells_cons.mpr ⟨spelledLast, spells_nil⟩)⟩

theorem laidTwins_ifStatement (alike : left.Alike room right) :
    LaidTwins room (ifStatement left) (ifStatement right) := by
  unfold ifStatement
  refine (laidTwins_choiceBranch alike).bind fun branch spelledBranch => ?_
  have start : Spells [branch] := spells_cons.mpr ⟨spelledBranch, spells_nil⟩
  refine .bind (.repeatFrom start fun found spelled => continuedTwins_elifStep alike spelled)
    fun found spelled => ?_
  refine (continuedTwins_elseBlock alike).bind fun otherwise spelledOtherwise => ?_
  match found with
  | [] => exact .refuse
  | (test, body) :: earlier =>
      obtain ⟨⟨spelledTest, spelledBody⟩, spelledEarlier⟩ := spells_cons.mp spelled
      refine .pure (spells_nested spelledEarlier ?_)
      exact AllSpelled.append.mpr ⟨AllSpelled.append.mpr ⟨spelledTest,
        allSpelled_stmts.mpr spelledBody⟩, allSpelled_stmts.mpr spelledOtherwise⟩

theorem laidTwins_whileStatement (alike : left.Alike room right) :
    LaidTwins room (whileStatement left) (whileStatement right) := by
  unfold whileStatement
  refine .inline_bind (inlineTwins_namedExpression alike.near) fun test spelledTest => ?_
  refine (laidTwins_colonBlock alike).bind fun body spelledBody => ?_
  exact (continuedTwins_elseBlock alike).bind fun otherwise spelledOtherwise =>
    .pure (AllSpelled.append.mpr ⟨AllSpelled.append.mpr ⟨spelledTest,
      allSpelled_stmts.mpr spelledBody⟩, allSpelled_stmts.mpr spelledOtherwise⟩)

theorem laidTwins_forStatement (alike : left.Alike room right) (isAsync : Bool) :
    LaidTwins room (forStatement left isAsync) (forStatement right isAsync) := by
  unfold forStatement
  refine .inline_bind (inlineTwins_starTargets alike.near.primary) fun target spelledTarget => ?_
  refine .expectKeyword_bind fun less lt => ?_
  have alikeLess := alike.mono (Nat.le_of_lt lt)
  refine .inline_bind (inlineTwins_starExpressions alikeLess.near) fun source spelledSource => ?_
  refine (laidTwins_colonBlock alikeLess).bind fun body spelledBody => ?_
  exact (continuedTwins_elseBlock alikeLess).bind fun otherwise spelledOtherwise =>
    .pure (AllSpelled.append.mpr ⟨AllSpelled.append.mpr ⟨AllSpelled.append.mpr
      ⟨spelledTarget, spelledSource⟩, allSpelled_stmts.mpr spelledBody⟩,
      allSpelled_stmts.mpr spelledOtherwise⟩)

/-! ## Entered contexts -/

/-- The first of two readers that does not refuse has a twin when both have. -/
theorem twins_orElse {α : Type} {post : α → List Lexeme → Prop}
    {first second firstRight secondRight : Reader α} (twins : Reader.Twins room post first firstRight)
    (others : Reader.Twins room post second secondRight) :
    Reader.Twins room post (Reader.orElse first second) (Reader.orElse firstRight secondRight) := by
  intro rest fits words
  obtain ⟨same, answers⟩ := twins rest fits words
  unfold Reader.orElse
  rw [← same]
  cases read : first rest with
  | none => exact others rest fits words
  | some found => exact ⟨rfl, fun value behind isFound => answers value behind (read.trans isFound)⟩

theorem spells_withItem {context : Expr} {target : Option Target} (spelled : Spells context)
    (spelledTarget : Spells target) : Spells (WithItem.mk context target) := by
  refine AllSpelled.append.mpr ⟨spelled, ?_⟩
  cases target with
  | none => exact AllSpelled.nil
  | some target => exact spells_some.mp spelledTarget

theorem inlineTwins_withItem (near : left.Near room right) :
    InlineTwins room (withItem left) (withItem right) := by
  unfold withItem
  refine near.expression.bind fun context spelled => .acceptKeyword_ite (fun less lt => ?_)
    (.pure (spells_withItem spelled spells_none))
  refine (inlineTwins_starTarget (near.below less lt).primary).bind fun target spelledTarget => ?_
  refine .peek_bind fun next _ => ?_
  have both : Spells (WithItem.mk context (some target)) :=
    spells_withItem spelled (spells_some.mpr spelledTarget)
  split
  all_goals first
    | exact .pure both
    | exact .refuse

theorem inlineTwins_parenthesizedItems (near : left.Near room right) :
    InlineTwins room (parenthesizedItems left) (parenthesizedItems right) := by
  unfold parenthesizedItems
  refine .expectSymbol_bind fun less lt => ?_
  refine (inlineTwins_withItem (near.below less lt)).items.bind fun found spelled => ?_
  exact .expectSymbol_bind fun _ _ => .expectSymbol_bind fun _ _ => .pure spelled.1

theorem inlineTwins_plainItems (near : left.Near room right) :
    InlineTwins room (plainItems left) (plainItems right) := by
  unfold plainItems
  refine (inlineTwins_withItem near).bind fun first spelledFirst => ?_
  have start : Spells [first] := spells_cons.mpr ⟨spelledFirst, spells_nil⟩
  refine .bind (.repeatFrom start fun found spelled => ?_) fun found spelled =>
    .expectSymbol_bind fun _ _ => .pure (spells_reverse.mpr spelled)
  refine .acceptSymbol_ite (fun less lt => ?_) (.pure spells_none)
  exact (inlineTwins_withItem (near.below less lt)).bind fun item spelledItem =>
    .pure (spells_some.mpr (spells_cons.mpr ⟨spelledItem, spelled⟩))

/-- The names of entered contexts, one context after the other. -/
theorem allSpelled_withItems {items : List WithItem} (spelled : Spells items) :
    AllSpelled (items.flatMap WithItem.mentions) := by
  intro name member
  obtain ⟨item, inItems, inItem⟩ := List.mem_flatMap.mp member
  exact spelled item inItems name inItem

theorem laidTwins_withStatement (alike : left.Alike room right) (isAsync : Bool) :
    LaidTwins room (withStatement left isAsync) (withStatement right isAsync) := by
  unfold withStatement
  have entered : InlineTwins room (Reader.orElse (parenthesizedItems left) (plainItems left))
      (Reader.orElse (parenthesizedItems right) (plainItems right)) :=
    twins_orElse (inlineTwins_parenthesizedItems alike.near) (inlineTwins_plainItems alike.near)
  refine .inline_bind entered fun found spelled => ?_
  exact (laidTwins_block alike).bind fun body spelledBody =>
    .pure (AllSpelled.append.mpr ⟨allSpelled_withItems spelled, allSpelled_stmts.mpr spelledBody⟩)

/-! ## Handlers -/

instance : Spellable HandlerState := ⟨fun state => Spells state.reversed⟩

/-- The rest of a handler, behind its kind. -/
def handlerRest (inner : Inner) (state : HandlerState) (isGroup : Bool) (kind : Option Expr) :
    Reader (Option HandlerState) := do
  let name ← if kind.isSome then givenName else pure none
  let body ← colonBlock inner
  return some ⟨.mk kind name body :: state.reversed, some isGroup⟩

theorem laidTwins_handlerRest (alike : left.Alike room right) {state : HandlerState}
    {kind : Option Expr} (spelled : Spells state) (spelledKind : Spells kind) (isGroup : Bool) :
    LaidTwins room (handlerRest left state isGroup kind) (handlerRest right state isGroup kind) := by
  have finish : ∀ {name : Option Name}, LaidTwins room
      (do
        let body ← colonBlock left
        return some ⟨.mk kind name body :: state.reversed, some isGroup⟩)
      (do
        let body ← colonBlock right
        return some (HandlerState.mk (.mk kind name body :: state.reversed) (some isGroup))) := by
    intro name
    refine (laidTwins_colonBlock alike).bind fun body spelledBody => .pure (spells_some.mpr ?_)
    refine List.forall_mem_cons.mpr ⟨AllSpelled.append.mpr ⟨AllSpelled.append.mpr ⟨?_, ?_⟩,
      allSpelled_stmts.mpr spelledBody⟩, spelled⟩
    · exact allSpelled_option.mpr spelledKind
    · exact AllSpelled.bindOption name
  unfold handlerRest
  exact .ite (.inline_bind inlineTwins_givenName fun name _ => finish) finish

theorem continuedTwins_readHandler (alike : left.Alike room right) {state : HandlerState}
    (spelled : Spells state) :
    ContinuedTwins room (readHandler left state) (readHandler right state) := by
  have behind : ∀ {less : Nat}, less ≤ room → ∀ isGroup, LaidTwins less
      (do if (← nextIs (.symbol .colon)) && !isGroup then handlerRest left state isGroup none
          else handlerRest left state isGroup (← some <$> left.expression))
      (do if (← nextIs (.symbol .colon)) && !isGroup then handlerRest right state isGroup none
          else handlerRest right state isGroup (← some <$> right.expression)) := by
    intro less le isGroup
    have alikeLess := alike.mono le
    refine .nextIs_bind fun isColon => .ite (laidTwins_handlerRest alikeLess spelled spells_none _) ?_
    refine .inline_bind (alikeLess.near.expression.map fun kind spelledKind =>
      spells_some.mpr spelledKind) fun kind spelledKind => ?_
    exact laidTwins_handlerRest alikeLess spelled spelledKind _
  unfold readHandler
  refine .acceptKeyword_ite rfl (fun less lt => ?_) (.pure spells_none)
  refine .acceptSymbol_bind (fun lower lowerLt => ?_) ?_
  · exact .require_bind (behind (Nat.le_of_lt (Nat.lt_trans lowerLt lt)) true)
  · exact .require_bind (behind (Nat.le_of_lt lt) false)

/-- The rest of a block with handlers, behind the block of no exception. -/
def tryRest (inner : Inner) (body : List Stmt) (state : HandlerState) (otherwise : List Stmt) :
    Reader Stmt := do
  let hasFinally ← acceptKeyword .finallyWord
  let always ← if hasFinally then colonBlock inner else pure []
  require (hasFinally || !state.reversed.isEmpty)
  return .tryBlock (state.isGroup.getD false) body state.reversed.reverse otherwise always

theorem continuedTwins_tryRest (alike : left.Alike room right) {state : HandlerState}
    {body otherwise : List Stmt} (spelledBody : Spells body) (spelled : Spells state)
    (spelledOtherwise : Spells otherwise) :
    ContinuedTwins room (tryRest left body state otherwise) (tryRest right body state otherwise) := by
  have finish : ∀ always : List Stmt, Spells always → Spells (Stmt.tryBlock
      (state.isGroup.getD false) body state.reversed.reverse otherwise always) :=
    fun always spelledAlways => AllSpelled.append.mpr ⟨AllSpelled.append.mpr
      ⟨AllSpelled.append.mpr ⟨allSpelled_stmts.mpr spelledBody,
        allSpelled_handlers.mpr (spells_reverse.mpr spelled)⟩,
        allSpelled_stmts.mpr spelledOtherwise⟩, allSpelled_stmts.mpr spelledAlways⟩
  unfold tryRest
  refine .acceptKeyword_bind rfl (fun less lt => ?_) ?_
  · refine .bind (laidTwins_colonBlock (alike.mono (Nat.le_of_lt lt))) fun always spelledAlways => ?_
    exact .require_bind (.pure (finish always spelledAlways))
  · exact .bind (.pure spells_nil) fun always spelledAlways =>
      .require_bind (.pure (finish always spelledAlways))

theorem laidTwins_tryStatement (alike : left.Alike room right) :
    LaidTwins room (tryStatement left) (tryStatement right) := by
  unfold tryStatement
  have start : Spells (HandlerState.mk [] none) := spells_nil
  refine (laidTwins_colonBlock alike).bind fun body spelledBody => ?_
  refine .bind (.repeatFrom start fun state spelled => continuedTwins_readHandler alike spelled)
    fun state spelled => ?_
  refine .ite (continuedTwins_tryRest alike spelledBody spelled spells_nil) ?_
  exact (continuedTwins_elseBlock alike).bind fun otherwise spelledOtherwise =>
    continuedTwins_tryRest alike spelledBody spelled spelledOtherwise

/-! ## Choices by shape -/

/-- The end of the head of a choice by shape. -/
def matchHeadEnd (subject : Expr) : Reader Expr := do
  expectSymbol .colon
  expect .lineEnd
  expect .indent
  require (← nextIs (.name (text "case")))
  return subject

/-- The head of a choice by shape reaches into its block. -/
theorem twins_matchHeadEnd {subject : Expr} (spelled : Spells subject) {header : List Lexeme}
    (inline : Inline header) :
    Reader.Twins room (fun found taken => Spells found ∧ ∃ inside, Inline inside ∧
      header ++ taken = inside ++ [.lineEnd, .indent]) (matchHeadEnd subject)
      (matchHeadEnd subject) := by
  unfold matchHeadEnd
  refine twins_expect_bind fun _ _ => twins_expect_bind fun _ _ => twins_expect_bind fun _ _ =>
    twins_nextIs_bind fun _ => twins_require_bind fun _ => twins_pure ⟨spelled,
      header ++ [.symbol .colon], inline.append (inline_cons rfl inline_nil), ?_⟩
  rw [List.append_assoc]
  rfl

theorem twins_matchHead (near : left.Near room right) :
    Reader.Twins room (fun found taken => Spells found ∧ ∃ inside, Inline inside ∧
      taken = inside ++ [.lineEnd, .indent]) (matchHead left) (matchHead right) := by
  unfold matchHead
  refine twins_expect_bind fun less fits => ?_
  have twins := inlineTwins_starNamedExpression (near.mono (Nat.le_of_add_right_le fits))
  refine Twins.bind twins fun first taken held => ?_
  refine Twins.bind (twins.moreItems held.1) fun found more heldFound => ?_
  have inline : Inline (.name (text "match") :: (taken ++ more)) :=
    inline_cons rfl (held.2.append heldFound.2)
  split
  · exact twins_refuse
  · refine (twins_matchHeadEnd (spells_tupleOrSingle heldFound.1) inline).weaken ?_
    intro found behind ⟨spelled, inside, inlineInside, split⟩
    exact ⟨spelled, inside, inlineInside, by rw [← split]; simp⟩

theorem laidTwins_caseRest (alike : left.Alike room right) {found : List MatchCase}
    {pattern : Pattern} {guard : Option Expr} (spelled : Spells found)
    (spelledPattern : Spells pattern) (spelledGuard : Spells guard) :
    LaidTwins room (do return some (.mk pattern guard (← colonBlock left) :: found))
      (do return some (.mk pattern guard (← colonBlock right) :: found)) := by
  refine (laidTwins_colonBlock alike).bind fun body spelledBody => .pure (spells_some.mpr ?_)
  exact spells_cons.mpr ⟨AllSpelled.append.mpr ⟨AllSpelled.append.mpr
    ⟨spelledPattern, allSpelled_option.mpr spelledGuard⟩, allSpelled_stmts.mpr spelledBody⟩, spelled⟩

theorem twins_readCase (alike : left.Alike room right) {found : List MatchCase}
    (spelled : Spells found) :
    Reader.Twins room (fun more taken => Spells more ∧ LaidBlock taken) (readCase left found)
      (readCase right found) := by
  unfold readCase
  refine twins_accept_bind (fun less fits => ?_) (twins_pure ⟨spells_none, laidBlock_nil⟩)
  have alikeLess := alike.mono (Nat.le_of_add_right_le fits)
  have case : LaidTwins less
      (do
        let pattern ← casePattern left
        let guard ← if ← acceptKeyword .ifWord then some <$> namedExpression left else pure none
        return some (.mk pattern guard (← colonBlock left) :: found))
      (do
        let pattern ← casePattern right
        let guard ← if ← acceptKeyword .ifWord then some <$> namedExpression right else pure none
        return some (MatchCase.mk pattern guard (← colonBlock right) :: found)) := by
    refine .inline_bind (inlineTwins_casePattern alikeLess.near) fun pattern spelledPattern => ?_
    refine .acceptKeyword_ite (fun lower lt => ?_)
      (laidTwins_caseRest alikeLess spelled spelledPattern spells_none)
    have alikeLower := alikeLess.mono (Nat.le_of_lt lt)
    refine .inline_bind ((inlineTwins_namedExpression alikeLower.near).map fun test spelledTest =>
      spells_some.mpr spelledTest) fun guard spelledGuard => ?_
    exact laidTwins_caseRest alikeLower spelled spelledPattern spelledGuard
  exact Twins.weaken case fun more taken held => ⟨held.1, (held.2.cons rfl).laidBlock⟩

theorem twins_matchRest (alike : left.Alike room right) {subject : Expr}
    (spelledSubject : Spells subject) :
    Reader.Twins room (fun found taken => Spells found ∧ ∃ cases, LaidBlock cases ∧
      taken = cases ++ [.dedent]) (matchRest left subject) (matchRest right subject) := by
  unfold matchRest
  refine Twins.repeatFrom_bind (fun found taken => Spells found ∧ LaidBlock taken)
    (fun found taken => Spells found ∧ LaidBlock taken) ⟨spells_nil, laidBlock_nil⟩
    (fun found taken held => ?_) fun found taken held => ?_
  · refine (twins_readCase alike held.1).weaken fun more behind heldMore => ?_
    cases more with
    | none => exact ⟨held.1, held.2.append heldMore.2⟩
    | some following => exact ⟨spells_some.mp heldMore.1, held.2.append heldMore.2⟩
  · refine twins_expect_bind fun _ _ => twins_pure ⟨?_, taken, held.2, rfl⟩
    exact AllSpelled.append.mpr ⟨spelledSubject, allSpelled_cases.mpr (spells_reverse.mpr held.1)⟩

/-- A line that opens a choice by shape is read as one, and no other line is. -/
theorem laidTwins_matchOrSimple (alike : left.Alike room right) :
    LaidTwins room (matchOrSimple left) (matchOrSimple right) := by
  intro rest fits words
  obtain ⟨same, answers⟩ := twins_matchHead alike.near rest fits words
  unfold matchOrSimple
  rw [← same]
  cases read : matchHead left rest with
  | none => exact laidTwins_simpleStatements alike.near rest fits words
  | some answer =>
      obtain ⟨subject, behind⟩ := answer
      obtain ⟨taken, rfl, spelled, inside, inline, rfl⟩ := answers subject behind read
      rw [weight_append] at fits
      obtain ⟨sameRest, answersRest⟩ := twins_matchRest alike spelled behind (by omega)
        (hasWords_append.mp words).2
      dsimp only
      rw [← sameRest]
      refine ⟨rfl, fun value last found => ?_⟩
      obtain ⟨⟨stmt, after⟩, readRest, isFound⟩ := Option.map_eq_some_iff.mp found
      cases isFound
      obtain ⟨takenRest, rfl, spelledStmt, cases, ⟨parts, rfl, laid⟩, rfl⟩ :=
        answersRest stmt after readRest
      refine ⟨_, (List.append_assoc _ _ _).symm, spells_cons.mpr ⟨spelledStmt, spells_nil⟩, ?_⟩
      rw [List.append_assoc]
      exact .block inline laid

/-! ## Definitions -/

theorem laidTwins_functionStatement (alike : left.Alike room right) (isAsync : Bool)
    {decorators : List Expr} (spelled : Spells decorators) :
    LaidTwins room (functionStatement left isAsync decorators)
      (functionStatement right isAsync decorators) := by
  unfold functionStatement
  refine .expectName_bind fun name less lt => .expectSymbol_bind fun lower lowerLt => ?_
  have alikeLower := alike.mono (Nat.le_of_lt (Nat.lt_trans lowerLt lt))
  refine .inline_bind (inlineTwins_readParameters alikeLower.near true _) fun parameters held => ?_
  have finish : ∀ {room : Nat}, left.Alike room right → ∀ hint : Option Expr, Spells hint →
      LaidTwins room
        (do return Stmt.functionDef isAsync name parameters hint decorators (← colonBlock left))
        (do return Stmt.functionDef isAsync name parameters hint decorators (← colonBlock right)) := by
    intro room alike hint spelledHint
    refine (laidTwins_colonBlock alike).bind fun body spelledBody => .pure ?_
    exact AllSpelled.cons_bind.mpr (AllSpelled.append.mpr ⟨AllSpelled.append.mpr
      ⟨AllSpelled.append.mpr ⟨allSpelled_parameters.mpr held, allSpelled_option.mpr spelledHint⟩,
        allSpelled_exprs.mpr spelled⟩, allSpelled_stmts.mpr spelledBody⟩)
  refine .expectSymbol_bind fun small smallLt => .acceptSymbol_bind (fun least leastLt => ?_) ?_
  · have alikeLeast := alikeLower.mono (Nat.le_of_lt (Nat.lt_trans leastLt smallLt))
    refine .inline_bind (alikeLeast.near.expression.map fun hint spelledHint =>
      spells_some.mpr spelledHint) fun hint spelledHint => finish alikeLeast hint spelledHint
  · exact finish (alikeLower.mono (Nat.le_of_lt smallLt)) none spells_none

theorem laidTwins_classStatement (alike : left.Alike room right) {decorators : List Expr}
    (spelled : Spells decorators) :
    LaidTwins room (classStatement left decorators) (classStatement right decorators) := by
  unfold classStatement
  refine .expectName_bind fun name less lt => ?_
  have finish : ∀ {room : Nat}, left.Alike room right → ∀ arguments : List Expr × List NamedArgument,
      Spells arguments → LaidTwins room
        (do return Stmt.classDef name arguments.1 arguments.2 decorators (← colonBlock left))
        (do return Stmt.classDef name arguments.1 arguments.2 decorators (← colonBlock right)) := by
    intro room alike arguments held
    refine (laidTwins_colonBlock alike).bind fun body spelledBody => .pure ?_
    exact AllSpelled.cons_bind.mpr (AllSpelled.append.mpr ⟨AllSpelled.append.mpr
      ⟨AllSpelled.append.mpr ⟨allSpelled_exprs.mpr held.1, allSpelled_named.mpr held.2⟩,
        allSpelled_exprs.mpr spelled⟩, allSpelled_stmts.mpr spelledBody⟩)
  have start : Spells ArgumentState.start := ⟨spells_nil, spells_nil⟩
  refine .acceptSymbol_bind (fun lower lowerLt => ?_) ?_
  · have alikeLower := alike.mono (Nat.le_of_lt (Nat.lt_trans lowerLt lt))
    exact .inline_bind (inlineTwins_readArguments alikeLower.near start) fun arguments held =>
      finish alikeLower arguments held
  · exact finish (alike.mono (Nat.le_of_lt lt)) ([], []) ⟨spells_nil, spells_nil⟩

/-- The layout of a statement that begins with a word that can go on with another. -/
def Continuing (lexemes : List Lexeme) : Prop :=
  Laid lexemes ∧ ∃ first ∈ lexemes.head?, first.continues = true

/-- The layout of decorators. -/
def Decorating (lexemes : List Lexeme) : Prop :=
  ∀ behind, Continuing behind → Continuing (lexemes ++ behind)

theorem Decorating.append {front behind : List Lexeme} (decorates : Decorating front)
    (others : Decorating behind) : Decorating (front ++ behind) := fun last continues => by
  rw [List.append_assoc]
  exact decorates _ (others last continues)

/-- A decorator takes up a line of its own. -/
theorem decorating_line {inside : List Lexeme} (inline : Inline inside) :
    Decorating (.symbol (.operator .matrixMultiply) :: (inside ++ [.lineEnd])) := by
  rintro behind ⟨laid, first, isFirst, continues⟩
  obtain ⟨rest, rfl⟩ := List.head?_eq_some_iff.mp isFirst
  exact ⟨.more ((Laid.line inline).cons rfl) laid continues, _, rfl, rfl⟩

theorem twins_readDecorators (near : left.Near room right) :
    Reader.Twins room (fun found taken => Spells found ∧ Decorating taken) (readDecorators left)
      (readDecorators right) := by
  unfold readDecorators
  have nothing : Decorating [] := fun _ continues => continues
  refine Twins.repeatFrom_bind (fun found taken => Spells found ∧ Decorating taken)
    (fun found taken => Spells found ∧ Decorating taken) ⟨spells_nil, nothing⟩
    (fun found taken held => ?_) fun found taken held => ?_
  · refine twins_accept_bind (fun less fits => ?_)
      (twins_pure ⟨held.1, by rw [List.append_nil]; exact held.2⟩)
    refine Twins.bind (inlineTwins_namedExpression (near.mono (Nat.le_of_add_right_le fits)))
      fun decorator more heldMore => ?_
    exact twins_expect_bind fun _ _ => twins_pure ⟨spells_cons.mpr ⟨heldMore.1, held.1⟩,
      held.2.append (decorating_line heldMore.2)⟩
  · exact twins_pure ⟨spells_reverse.mpr held.1, by rw [List.append_nil]; exact held.2⟩

theorem laidTwins_definition (alike : left.Alike room right) :
    LaidTwins room (definition left) (definition right) := by
  unfold definition
  refine Twins.bind (twins_readDecorators alike.near) fun decorators taken held => ?_
  have decorated : ∀ {word : Keyword} {behind : List Lexeme},
      (Lexeme.keyword word).continues = true → Laid behind →
      Laid (taken ++ .keyword word :: behind) := fun continues laid =>
    (held.2 _ ⟨laid.cons rfl, _, rfl, continues⟩).1
  refine twins_accept_bind (fun less fits => ?_) (twins_accept_bind (fun less fits => ?_) ?_)
  · exact (laidTwins_classStatement (alike.mono (Nat.le_of_add_right_le fits)) held.1).weaken
      fun _ _ heldClass => ⟨heldClass.1, decorated rfl heldClass.2⟩
  · refine twins_expect_bind fun lower lowerFits => ?_
    have alikeLower := alike.mono (Nat.le_trans (Nat.le_of_add_right_le lowerFits)
      (Nat.le_of_add_right_le fits))
    exact (laidTwins_functionStatement alikeLower true held.1).weaken
      fun _ _ heldDef => ⟨heldDef.1, decorated rfl (heldDef.2.cons rfl)⟩
  · refine twins_expect_bind fun less fits => ?_
    exact (laidTwins_functionStatement (alike.mono (Nat.le_of_add_right_le fits)) false
      held.1).weaken fun _ _ heldDef => ⟨heldDef.1, decorated rfl heldDef.2⟩

theorem laidTwins_asyncStatement (alike : left.Alike room right) :
    LaidTwins room (asyncStatement left) (asyncStatement right) := by
  unfold asyncStatement
  refine .expectKeyword_bind fun less lt => ?_
  have alikeLess := alike.mono (Nat.le_of_lt lt)
  refine .acceptKeyword_ite (fun lower lowerLt => ?_) (.acceptKeyword_ite (fun lower lowerLt => ?_) ?_)
  · exact laidTwins_forStatement (alikeLess.mono (Nat.le_of_lt lowerLt)) true
  · exact laidTwins_withStatement (alikeLess.mono (Nat.le_of_lt lowerLt)) true
  · exact .expectKeyword_bind fun lower lowerLt =>
      laidTwins_functionStatement (alikeLess.mono (Nat.le_of_lt lowerLt)) true spells_nil

/-! ## Statements -/

/-- A compound statement alone. -/
theorem LaidTwins.one {reader readerRight : Reader Stmt} (twins : LaidTwins room reader readerRight) :
    LaidTwins room (do return [← reader]) (do return [← readerRight]) :=
  twins.bind fun _ spelled => .pure (spells_cons.mpr ⟨spelled, spells_nil⟩)

theorem laidTwins_statement (alike : left.Alike room right) :
    LaidTwins room (statement left) (statement right) := by
  have below : ∀ {less : Nat}, less < room → left.Alike less right := fun lt =>
    alike.mono (Nat.le_of_lt lt)
  unfold statement
  refine .peek_bind fun next => ?_
  split
  · exact .expectKeyword_bind fun less lt => (laidTwins_ifStatement (below lt)).one
  · exact .expectKeyword_bind fun less lt => (laidTwins_whileStatement (below lt)).one
  · exact .expectKeyword_bind fun less lt => (laidTwins_forStatement (below lt) false).one
  · exact .expectKeyword_bind fun less lt => (laidTwins_withStatement (below lt) false).one
  · exact .expectKeyword_bind fun less lt => (laidTwins_tryStatement (below lt)).one
  · exact (laidTwins_asyncStatement alike).one
  · exact (laidTwins_definition alike).one
  · exact (laidTwins_definition alike).one
  · exact (laidTwins_definition alike).one
  · exact laidTwins_matchOrSimple alike
  · exact laidTwins_simpleStatements alike.near

theorem blockTwins_statements (alike : left.Alike room right) :
    BlockTwins room (statements left) (statements right) := by
  unfold statements
  refine Twins.bind (laidTwins_statement alike) fun first taken held => ?_
  have start : Spells [first] ∧ LaidBlock (taken ++ []) :=
    ⟨spells_cons.mpr ⟨held.1, spells_nil⟩, by rw [List.append_nil]; exact held.2.laidBlock⟩
  refine Twins.repeatFrom_bind (fun found behind => Spells found ∧ LaidBlock (taken ++ behind))
    (fun found behind => Spells found ∧ LaidBlock (taken ++ behind)) start ?_ ?_
  · intro found more heldFound
    have ended : Spells found ∧ LaidBlock (taken ++ (more ++ [])) := by
      rwa [List.append_nil]
    refine twins_peek_bind fun next _ => ?_
    split
    · exact twins_pure ended
    · exact twins_pure ended
    · refine Twins.bind (laidTwins_statement alike) fun another behind heldAnother => twins_pure ?_
      refine ⟨spells_cons.mpr ⟨heldAnother.1, heldFound.1⟩, ?_⟩
      rw [List.append_nil, ← List.append_assoc]
      exact heldFound.2.append heldAnother.2.laidBlock
  · intro found more heldFound
    refine twins_pure ⟨spells_flatten (spells_reverse.mpr heldFound.1), ?_⟩
    rw [List.append_nil]
    exact heldFound.2

/-! ## All depths -/

/-- Readers for parts inside a line answer alike at all depths that exceed the room. -/
theorem Inner.near_ofDepth (room depth deeper : Nat) (lt : room < depth) (ltDeeper : room < deeper) :
    (ofDepth depth).Near room (ofDepth deeper) := by
  induction room using Nat.strongRecOn generalizing depth deeper with
  | ind room ih =>
      obtain ⟨depth, rfl⟩ := Nat.exists_eq_succ_of_ne_zero (Nat.ne_zero_of_lt lt)
      obtain ⟨deeper, rfl⟩ := Nat.exists_eq_succ_of_ne_zero (Nat.ne_zero_of_lt ltDeeper)
      have below : (ofDepth depth).NearBelow room (ofDepth deeper) := fun less lessLt =>
        ih less lessLt depth deeper (by omega) (by omega)
      exact
        { expression := inlineTwins_expression below
          disjunction := inlineTwins_disjunction below
          inversion := inlineTwins_inversion below
          bitOr := inlineTwins_bitOr below
          factor := inlineTwins_factor below
          primary := inlineTwins_primary below
          pattern := inlineTwins_readPattern below }

/-- All readers for nested parts answer alike at all depths that exceed the room. -/
theorem Inner.alike_ofDepth (room depth deeper : Nat) (lt : room < depth)
    (ltDeeper : room < deeper) : (ofDepth depth).Alike room (ofDepth deeper) := by
  induction room using Nat.strongRecOn generalizing depth deeper with
  | ind room ih =>
      refine ⟨near_ofDepth room depth deeper lt ltDeeper, fun less lessLt => ?_⟩
      obtain ⟨depth, rfl⟩ := Nat.exists_eq_succ_of_ne_zero (Nat.ne_zero_of_lt lt)
      obtain ⟨deeper, rfl⟩ := Nat.exists_eq_succ_of_ne_zero (Nat.ne_zero_of_lt ltDeeper)
      exact blockTwins_statements (ih less lessLt depth deeper (by omega) (by omega))

end Stencil.Script
