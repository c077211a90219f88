import Stencil.Proofs.Script.Reader
import Stencil.Script.Grammar.Statement

/-! # Statements from lexemes

A statement takes up the lexemes of its line and, behind a header, those of its block. The
statements of a block are read one behind the other up to the end of the block
(`Stencil.Script.ReadsStatements`), and every further test of a choice nests in the block behind
the last one (`Stencil.Script.nestedChoice_cons`).
-/

namespace Stencil.Script

open Reader

variable {inner : Inner} {value : Expr} {first next : Lexeme} {lexemes behind rest : List Lexeme}
  {name : Name} {stmt : Stmt} {body : List Stmt} {depth : Nat}

/-- An expression without a comma behind it is read as a row of one item. -/
theorem starExpressions_single (starts : first.startsPrimary = true)
    (noComma : next ≠ .symbol .comma)
    (read : inner.expression (first :: lexemes) = some (value, next :: rest)) :
    starExpressions inner (first :: lexemes) = some (value, next :: rest) := by
  have noStar : first ≠ .symbol (.operator .multiply) := by
    rintro rfl
    cases starts
  have item : starExpression inner (first :: lexemes) = some (value, next :: rest) := by
    unfold starExpression
    simp only [bind_apply, acceptSymbol, accept_cons_of_ne noStar, Option.bind_some,
      Bool.false_eq_true, ↓reduceIte, read]
  unfold starExpressions
  rw [bind_apply, items_single item noComma]
  rfl

/-- One simple statement takes up a line. -/
theorem simpleStatements_single
    (read : simpleStatement inner lexemes = some (stmt, .lineEnd :: rest)) :
    simpleStatements inner lexemes = some ([stmt], rest) := by
  unfold simpleStatements
  simp only [bind_apply, read, Option.bind_some]
  rw [repeatFrom_of_step ([stmt], true) rest (List.cons_ne_nil _ _)]
  · rfl
  · simp only [bind_apply, accept_cons_self, Option.bind_some, Bool.false_eq_true, ↓reduceIte,
      pure_apply]
  · simp only [↓reduceIte, pure_apply]

theorem simpleStatement_name :
    simpleStatement inner (.name name :: lexemes) =
      assignmentOrExpression inner (.name name :: lexemes) := rfl

/-- A line that begins with a name other than `match` holds simple statements. -/
theorem statement_name (differs : name ≠ text "match") :
    statement inner (.name name :: lexemes) = simpleStatements inner (.name name :: lexemes) := by
  have noMatch : matchHead inner (.name name :: lexemes) = none := by
    have other : Lexeme.name name ≠ .name (text "match") := fun same =>
      differs (Lexeme.name.inj same)
    unfold matchHead
    simp only [bind_apply, expect, other, ↓reduceIte, Option.bind_none]
  unfold statement
  simp only [bind_apply, peek_apply, Option.bind_some, List.head?_cons]
  unfold matchOrSimple
  rw [noMatch]

/-- An assignment or an expression that begins with a row of expressions. -/
def assignmentOrRow (inner : Inner) : Reader Stmt := do
  let first ← starExpressions inner
  match ← peek with
  | some (.symbol .colon) => do
      let target ← ofOption first.toTarget?
      require target.isSingle
      hintedRest inner target false
  | some (.symbol (.augmented operator)) => do
      let target ← ofOption first.toTarget?
      require target.isSingle
      expectSymbol (.augmented operator)
      return .augment target operator (← assignedValue inner)
  | _ => assignmentRest inner first

/-- The row in front of an assignment or an expression that begins with a name. -/
theorem assignmentOrExpression_name {second : Lexeme} (noHint : second ≠ .symbol .colon)
    (read : starExpressions inner (.name name :: second :: lexemes) = some (value, next :: rest))
    (ends : next = .lineEnd ∨ next = .symbol .equal) :
    assignmentOrExpression inner (.name name :: second :: lexemes) =
      assignmentRest inner value (next :: rest) := by
  have behind : assignmentOrRow inner (.name name :: second :: lexemes) =
      assignmentRest inner value (next :: rest) := by
    rw [assignmentOrRow, bind_apply, read]
    rcases ends with rfl | rfl <;> rfl
  unfold assignmentOrExpression
  simp only [bind_apply, peek_apply, peekSecond_apply, Option.bind_some, List.head?_cons,
    List.drop_succ_cons, List.drop_zero]
  cases second with
  | symbol symbol =>
      cases symbol with
      | colon => exact (noHint rfl).elim
      | _ => exact behind
  | _ => exact behind

/-- A line that begins with a name and holds one expression. -/
theorem statement_expression {second : Lexeme} (differs : name ≠ text "match")
    (noHint : second ≠ .symbol .colon)
    (read : inner.expression (.name name :: second :: lexemes) =
      some (value, .lineEnd :: rest)) :
    statement inner (.name name :: second :: lexemes) = some ([.expression value], rest) := by
  rw [statement_name differs]
  refine simpleStatements_single ?_
  rw [simpleStatement_name, assignmentOrExpression_name noHint
    (starExpressions_single rfl (by decide) read) (.inl rfl)]
  unfold assignmentRest
  rw [bind_apply, repeatFrom_of_stops]
  · rfl
  · rfl

theorem simpleStatement_assign (starts : first.startsPrimary = true)
    (target : inner.expression (.name name :: .symbol .equal :: first :: lexemes) =
      some (.name name, .symbol .equal :: first :: lexemes))
    (read : inner.expression (first :: lexemes) = some (value, .lineEnd :: rest)) :
    simpleStatement inner (.name name :: .symbol .equal :: first :: lexemes) =
      some (.assign [.name name] value, .lineEnd :: rest) := by
  have noYield : (some first == some (Lexeme.keyword .yieldWord)) = false := by
    rw [beq_eq_false_iff_ne]
    intro same
    cases Option.some.inj same
    cases starts
  rw [simpleStatement_name, assignmentOrExpression_name (by decide)
    (starExpressions_single rfl (by decide) target) (.inr rfl)]
  unfold assignmentRest
  have row : starExpressions inner (first :: lexemes) = some (value, .lineEnd :: rest) :=
    starExpressions_single starts (by decide) read
  rw [bind_apply, repeatFrom_of_step ([value, .name name], false) (.lineEnd :: rest)
    (List.cons_ne_nil _ _)]
  · rfl
  · simp only [bind_apply, acceptSymbol, accept_cons_self, Option.bind_some, Bool.false_eq_true,
      ↓reduceIte, nextIs_apply, List.head?_cons, noYield,
      row, pure_apply]
  · rfl

theorem statement_assign (differs : name ≠ text "match") (starts : first.startsPrimary = true)
    (target : inner.expression (.name name :: .symbol .equal :: first :: lexemes) =
      some (.name name, .symbol .equal :: first :: lexemes))
    (read : inner.expression (first :: lexemes) = some (value, .lineEnd :: rest)) :
    statement inner (.name name :: .symbol .equal :: first :: lexemes) =
      some ([.assign [.name name] value], rest) := by
  rw [statement_name differs]
  exact simpleStatements_single (simpleStatement_assign starts target read)

theorem statement_pass :
    statement inner (.keyword .passWord :: .lineEnd :: rest) = some ([.pass], rest) := by
  change simpleStatements inner (.keyword .passWord :: .lineEnd :: rest) = _
  exact simpleStatements_single rfl

theorem statement_return (starts : first.startsPrimary = true)
    (startsItem : startsItem first = true)
    (read : inner.expression (first :: lexemes) = some (value, .lineEnd :: rest)) :
    statement inner (.keyword .returnWord :: first :: lexemes) =
      some ([.returnValue (some value)], rest) := by
  refine simpleStatements_single ?_
  have behind : simpleStatement inner (.keyword .returnWord :: first :: lexemes) =
      (do
        if (← peek).any Script.startsItem then
          return .returnValue (some (← starExpressions inner))
        else return .returnValue none : Reader Stmt) (first :: lexemes) := rfl
  have row : starExpressions inner (first :: lexemes) = some (value, .lineEnd :: rest) :=
    starExpressions_single starts (by decide) read
  rw [behind]
  simp only [bind_apply, peek_apply, Option.bind_some, List.head?_cons, Option.any_some,
    startsItem, ↓reduceIte, row, pure_apply]

/-- The deeper lines behind a header are its block. -/
theorem colonBlock_deeper (read : inner.statements lexemes = some (body, .dedent :: rest)) :
    colonBlock inner (.symbol .colon :: .lineEnd :: .indent :: lexemes) = some (body, rest) := by
  unfold colonBlock block
  simp only [bind_apply, expectSymbol, expect_cons_self, Option.bind_some, accept_cons_self,
    ↓reduceIte, read, pure_apply]

/-- A block of deeper lines ends where they do. -/
theorem statements_of_colonBlock
    (read : colonBlock inner (.symbol .colon :: .lineEnd :: .indent :: lexemes) =
      some (body, rest)) : inner.statements lexemes = some (body, .dedent :: rest) := by
  unfold colonBlock block at read
  simp only [bind_apply, expectSymbol, expect_cons_self, Option.bind_some, accept_cons_self,
    ↓reduceIte] at read
  obtain ⟨⟨found, behind⟩, inside, read⟩ := Option.bind_eq_some_iff.mp read
  obtain ⟨⟨_, last⟩, ended, read⟩ := Option.bind_eq_some_iff.mp read
  cases read
  cases behind with
  | nil => cases ended
  | cons first behind =>
      by_cases isDedent : first = .dedent
      · subst isDedent
        cases ended
        exact inside
      · rw [expect, if_neg isDedent] at ended
        cases ended

/-- A simple statement in the line of a header is its block. -/
theorem colonBlock_line
    (read : simpleStatement inner (.name name :: lexemes) = some (stmt, .lineEnd :: rest)) :
    colonBlock inner (.symbol .colon :: .name name :: lexemes) = some ([stmt], rest) := by
  have single := simpleStatements_single read
  unfold colonBlock block
  rw [bind_apply]
  exact single

/-- No block behind `else` begins with another lexeme. -/
theorem elseBlock_none (noElse : lexemes.head? ≠ some (.keyword .elseWord)) :
    elseBlock inner lexemes = some ([], lexemes) := by
  unfold elseBlock
  simp only [bind_apply, acceptKeyword, accept_of_head noElse, Option.bind_some,
    Bool.false_eq_true, ↓reduceIte, pure_apply]

/-- What follows a statement is no branch of it. -/
def EndsChoice (rest : List Lexeme) : Prop :=
  rest.head? ≠ some (.keyword .elifWord) ∧ rest.head? ≠ some (.keyword .elseWord)

theorem endsChoice_cons {first : Lexeme} {rest : List Lexeme}
    (differs : first ≠ .keyword .elifWord ∧ first ≠ .keyword .elseWord) :
    EndsChoice (first :: rest) :=
  ⟨fun isHead => differs.1 (Option.some.inj isHead),
    fun isHead => differs.2 (Option.some.inj isHead)⟩

/-- The deeper lines behind `else` are its block. -/
theorem elseBlock_deeper (read : inner.statements lexemes = some (body, .dedent :: rest)) :
    elseBlock inner (.keyword .elseWord :: .symbol .colon :: .lineEnd :: .indent :: lexemes) =
      some (body, rest) := by
  unfold elseBlock
  simp only [bind_apply, acceptKeyword, accept_cons_self, Option.bind_some, ↓reduceIte,
    colonBlock_deeper read]

/-- The loop over the elements of a name, bound to another one. -/
theorem forStatement_name {target source : Name} {otherwise : List Stmt}
    (readTarget : inner.primary (.name target :: .keyword .inWord :: .name source ::
      .symbol .colon :: lexemes) = some (.name target, .keyword .inWord :: .name source ::
        .symbol .colon :: lexemes))
    (readSource : inner.expression (.name source :: .symbol .colon :: lexemes) =
      some (.name source, .symbol .colon :: lexemes))
    (readBody : colonBlock inner (.symbol .colon :: lexemes) = some (body, behind))
    (readOtherwise : elseBlock inner behind = some (otherwise, rest)) :
    statement inner (.keyword .forWord :: .name target :: .keyword .inWord :: .name source ::
      .symbol .colon :: lexemes) =
      some ([.forLoop false (.name target) (.name source) body otherwise], rest) := by
  have targets : starTargets inner.primary (.name target :: .keyword .inWord :: .name source ::
      .symbol .colon :: lexemes) = some (.name target, .keyword .inWord :: .name source ::
        .symbol .colon :: lexemes) := by
    unfold starTargets
    exact Option.bind_eq_some_iff.mpr ⟨_, items_single (by exact readTarget) (by decide), rfl⟩
  have row : starExpressions inner (.name source :: .symbol .colon :: lexemes) =
      some (.name source, .symbol .colon :: lexemes) := starExpressions_single rfl (by decide) readSource
  have whole : forStatement inner false (.name target :: .keyword .inWord :: .name source ::
      .symbol .colon :: lexemes) =
      some (.forLoop false (.name target) (.name source) body otherwise, rest) := by
    unfold forStatement
    simp only [bind_apply, targets, Option.bind_some, expectKeyword, expect_cons_self, row,
      readBody, readOtherwise, pure_apply]
  change (forStatement inner false _).bind _ = _
  rw [whole]
  rfl

/-- A test and the block behind it. -/
def choiceBranch (inner : Inner) : Reader (Expr × List Stmt) := do
  let test ← namedExpression inner
  return (test, ← colonBlock inner)

/-- One more test with its block, if one follows. -/
def elifStep (inner : Inner) (found : List (Expr × List Stmt)) :
    Reader (Option (List (Expr × List Stmt))) := do
  if ← acceptKeyword .elifWord then return some ((← choiceBranch inner) :: found)
  else return none

/-- The choice of tests that have been read, the last one first, with its last block. -/
def nestedChoice (found : List (Expr × List Stmt)) (otherwise : List Stmt) : Option Stmt :=
  match found with
  | [] => none
  | (test, body) :: earlier =>
      some (earlier.foldl (fun statement (test, body) => .ifBlock test body [statement])
        (.ifBlock test body otherwise))

/-- A further test nests in the last block of the choice before it. -/
theorem nestedChoice_cons {branch : Expr × List Stmt} {found : List (Expr × List Stmt)}
    {otherwise : List Stmt} (held : found ≠ []) :
    nestedChoice (branch :: found) otherwise =
      nestedChoice found [.ifBlock branch.1 branch.2 otherwise] := by
  cases found with
  | nil => exact (held rfl).elim
  | cons earlier found => rfl

/-- An expression that is tested, and the block behind it. -/
theorem choiceBranch_of_expression {test : Expr}
    (noWalrus : lexemes.head? ≠ some (.symbol .walrus))
    (readTest : inner.expression (first :: lexemes) = some (test, behind))
    (readBody : colonBlock inner behind = some (body, rest)) :
    choiceBranch inner (first :: lexemes) = some ((test, body), rest) := by
  unfold choiceBranch
  simp only [bind_apply, namedExpression_of_expression noWalrus, readTest, Option.bind_some,
    readBody, pure_apply]

theorem elifStep_branch {branch : Expr × List Stmt} {found : List (Expr × List Stmt)}
    (read : choiceBranch inner lexemes = some (branch, rest)) :
    elifStep inner found (.keyword .elifWord :: lexemes) = some (some (branch :: found), rest) := by
  unfold elifStep
  simp only [bind_apply, acceptKeyword, accept_cons_self, Option.bind_some, ↓reduceIte, read,
    pure_apply]

/-- A choice is its first test with its block, the further ones and the last block. -/
theorem ifStatement_eq : ifStatement inner = (do
    let found ← repeatFrom (elifStep inner) [← choiceBranch inner]
    let otherwise ← elseBlock inner
    match found with
    | [] => refuse
    | (test, body) :: earlier =>
        return earlier.foldl (fun statement (test, body) => .ifBlock test body [statement])
          (.ifBlock test body otherwise)) := rfl

/-- A choice with its tests, one behind the other, and its last block. -/
theorem statement_choice {branch : Expr × List Stmt} {found : List (Expr × List Stmt)}
    {otherwise : List Stmt} {count : Nat} {after : List Lexeme}
    (readFirst : choiceBranch inner lexemes = some (branch, behind))
    (steps : Steps (elifStep inner) count [branch] behind found after)
    (fits : count ≤ behind.length) (noElif : after.head? ≠ some (.keyword .elifWord))
    (readOtherwise : elseBlock inner after = some (otherwise, rest))
    (chosen : nestedChoice found otherwise = some stmt) :
    statement inner (.keyword .ifWord :: lexemes) = some ([stmt], rest) := by
  have stops : elifStep inner found after = some (none, after) := by
    unfold elifStep
    simp only [bind_apply, acceptKeyword, accept_of_head noElif, Option.bind_some,
      Bool.false_eq_true, ↓reduceIte, pure_apply]
  have whole : ifStatement inner lexemes = some (stmt, rest) := by
    rw [ifStatement_eq]
    simp only [bind_apply, readFirst, Option.bind_some, repeatFrom_of_steps steps stops fits,
      readOtherwise]
    cases found with
    | nil => cases chosen
    | cons last earlier =>
        cases chosen
        rfl
  change (ifStatement inner lexemes).bind _ = _
  rw [whole]
  rfl

/-- There is no choice without its first test and block. -/
theorem statement_choice_none (refused : choiceBranch inner lexemes = none) :
    statement inner (.keyword .ifWord :: lexemes) = none := by
  have whole : ifStatement inner lexemes = none := by
    rw [ifStatement_eq, bind_apply, refused]
    rfl
  change (ifStatement inner lexemes).bind _ = _
  rw [whole]
  rfl

/-- Statements are read one behind the other, each of them from at least one lexeme. -/
inductive ReadsStatements (inner : Inner) : List Lexeme → List Stmt → List Lexeme → Prop
  | none {rest : List Lexeme} : ReadsStatements inner rest [] rest
  | more {first : Lexeme} {lexemes behind rest : List Lexeme} {found others : List Stmt}
      (read : statement inner (first :: lexemes) = some (found, behind))
      (goesOn : first ≠ .dedent) (shorter : behind.length ≤ lexemes.length)
      (reads : ReadsStatements inner behind others rest) :
      ReadsStatements inner (first :: lexemes) (found ++ others) rest

namespace ReadsStatements

variable {found others : List Stmt}

theorem append (reads : ReadsStatements inner lexemes found behind)
    (readsOthers : ReadsStatements inner behind others rest) :
    ReadsStatements inner lexemes (found ++ others) rest := by
  induction reads with
  | none => exact readsOthers
  | more read goesOn shorter _ ih =>
      rw [List.append_assoc]
      exact .more read goesOn shorter (ih readsOthers)

/-- The statements of a line come before those of the lines behind it. -/
theorem more_line {front tail : List Lexeme} (split : front = first :: tail)
    (read : statement inner (front ++ .lineEnd :: behind) = some (found, behind))
    (goesOn : first ≠ .dedent) (reads : ReadsStatements inner behind others rest) :
    ReadsStatements inner (front ++ .lineEnd :: behind) (found ++ others) rest := by
  subst split
  refine .more read goesOn ?_ reads
  change behind.length ≤ (tail ++ .lineEnd :: behind).length
  rw [List.length_append, List.length_cons]
  omega

end ReadsStatements

/-- One more line or compound statement of a block. -/
def blockStep (inner : Inner) (found : List (List Stmt)) :
    Reader (Option (List (List Stmt))) := do
  match ← peek with
  | none | some .dedent => return none
  | some _ => return some ((← statement inner) :: found)

theorem blockStep_of_statement {earlier : List (List Stmt)} {found : List Stmt}
    (goesOn : first ≠ .dedent) (read : statement inner (first :: lexemes) = some (found, rest)) :
    blockStep inner earlier (first :: lexemes) = some (some (found :: earlier), rest) := by
  have going : blockStep inner earlier (first :: lexemes) =
      (statement inner (first :: lexemes)).bind fun found =>
        some (some (found.1 :: earlier), found.2) := by
    cases first with
    | dedent => exact (goesOn rfl).elim
    | _ => rfl
  rw [going, read]
  rfl

/-- The statements that are read behind others are the steps of a block. -/
theorem ReadsStatements.exists_steps {found : List Stmt}
    (reads : ReadsStatements inner lexemes found rest) (earlier : List (List Stmt)) :
    ∃ count last, Steps (blockStep inner) count earlier lexemes last rest ∧
      count + rest.length ≤ lexemes.length ∧
      last.reverse.flatten = earlier.reverse.flatten ++ found := by
  induction reads generalizing earlier with
  | none => exact ⟨0, earlier, .none, Nat.le_of_eq (Nat.zero_add _), (List.append_nil _).symm⟩
  | @more first lexemes behind rest found others read goesOn shorter _ ih =>
      obtain ⟨count, last, steps, fits, flat⟩ := ih (found :: earlier)
      refine ⟨count + 1, last, .more (blockStep_of_statement goesOn read) steps, ?_, ?_⟩
      · rw [List.length_cons]
        omega
      · rw [flat, List.reverse_cons, List.flatten_append, List.append_assoc]
        simp only [List.flatten_cons, List.flatten_nil, List.append_nil]

/-- At the end of a block no statement is read. -/
theorem blockStep_stop {earlier : List (List Stmt)}
    (ends : rest = [] ∨ rest.head? = some .dedent) :
    blockStep inner earlier rest = some (none, rest) := by
  rcases ends with rfl | isDedent
  · rfl
  · obtain ⟨others, rfl⟩ := List.head?_eq_some_iff.mp isDedent
    rfl

/-- The statements of a block are its first statement and those that follow. -/
theorem statements_apply : statements inner lexemes =
    (statement inner lexemes).bind fun found =>
      (repeatFrom (blockStep inner) [found.1] found.2).bind fun last =>
        some (last.1.reverse.flatten, last.2) := rfl

/-- The statements of a block are read up to its end. -/
theorem statements_of_reads (reads : ReadsStatements inner (first :: lexemes) body rest)
    (held : body ≠ []) (ends : rest = [] ∨ rest.head? = some .dedent) :
    statements inner (first :: lexemes) = some (body, rest) := by
  generalize whole : first :: lexemes = source at reads
  cases reads with
  | none => exact (held rfl).elim
  | @more first lexemes behind rest found others read goesOn shorter readsOthers =>
      obtain ⟨count, last, steps, fits, flat⟩ := readsOthers.exists_steps [found]
      have repeated : repeatFrom (blockStep inner) [found] behind = some (last, rest) :=
        repeatFrom_of_steps steps (blockStep_stop ends) (Nat.le_of_add_right_le fits)
      rw [statements_apply, read, Option.bind_some, repeated, Option.bind_some, flat,
        List.reverse_singleton, List.flatten_singleton]

/-- A program is made of the statements that are read up to the end of the lexemes. -/
theorem programOf?_eq_some {program : Program} (held : lexemes ≠ []) :
    programOf? depth lexemes = some program ↔
      statements (Inner.ofDepth depth) lexemes = some (program, []) := by
  have isEmpty : ¬lexemes.isEmpty = true := fun isEmpty => held (List.isEmpty_iff.mp isEmpty)
  unfold programOf?
  rw [if_neg isEmpty]
  constructor
  · intro read
    split at read
    · next found isFound =>
        cases read
        exact isFound
    · cases read
  · intro read
    rw [read]

/-- The definition of a function with one parameter is read as its block is. -/
theorem statement_function_eq {parameter : Name} (spelled : name.spelledName = name)
    (spelledParameter : parameter.spelledName = parameter) :
    statement inner (.keyword .defWord :: .name name :: .symbol .leftParen :: .name parameter ::
      .symbol .rightParen :: .symbol .colon :: lexemes) =
      (colonBlock inner (.symbol .colon :: lexemes)).map fun found =>
        ([.functionDef false name [.mk .ordinary parameter none none] none [] found.1],
          found.2) := by
  have parameters : readParameters inner true .rightParen (.name parameter ::
      .symbol .rightParen :: .symbol .colon :: lexemes) =
      some ([.mk .ordinary parameter none none], .symbol .rightParen :: .symbol .colon ::
        lexemes) := by
    unfold readParameters
    rw [bind_apply, repeatFrom_of_step
      ⟨[.mk .ordinary parameter none none], false, false, false, false, false, true⟩
      (.symbol .rightParen :: .symbol .colon :: lexemes) (List.cons_ne_nil _ _)]
    · rfl
    · change some (some (ParameterState.mk [.mk .ordinary parameter.spelledName none none] _ _ _ _ _
        _), _) = _
      rw [spelledParameter]
      rfl
    · rfl
  have whole : functionStatement inner false [] (.name name :: .symbol .leftParen ::
      .name parameter :: .symbol .rightParen :: .symbol .colon :: lexemes) =
      (colonBlock inner (.symbol .colon :: lexemes)).bind fun found =>
        some (.functionDef false name [.mk .ordinary parameter none none] none [] found.1,
          found.2) := by
    unfold functionStatement
    simp only [bind_apply, expectName_cons, spelled, Option.bind_some, expectSymbol,
      expect_cons_self, parameters, acceptSymbol, accept_cons_of_ne (show Lexeme.symbol .colon ≠ .symbol .arrow by
        decide), Bool.false_eq_true, ↓reduceIte, pure_apply]
  have decorators : ∀ lexemes, readDecorators inner (.keyword .defWord :: lexemes) =
      some ([], .keyword .defWord :: lexemes) := by
    intro lexemes
    unfold readDecorators
    rw [bind_apply, repeatFrom_of_stops]
    · rfl
    · rfl
  have defined : definition inner (.keyword .defWord :: .name name :: .symbol .leftParen ::
      .name parameter :: .symbol .rightParen :: .symbol .colon :: lexemes) =
      (colonBlock inner (.symbol .colon :: lexemes)).bind fun found =>
        some (.functionDef false name [.mk .ordinary parameter none none] none [] found.1,
          found.2) := by
    unfold definition
    simp only [bind_apply, decorators, Option.bind_some, acceptKeyword,
      accept_cons_of_ne (show Lexeme.keyword .defWord ≠ .keyword .classWord by decide),
      accept_cons_of_ne (show Lexeme.keyword .defWord ≠ .keyword .asyncWord by decide),
      Bool.false_eq_true, ↓reduceIte, expectKeyword, expect_cons_self, whole]
  change (definition inner (.keyword .defWord :: _)).bind _ = _
  rw [defined]
  cases colonBlock inner (.symbol .colon :: lexemes) <;> rfl

/-- The definition of a function with one parameter. -/
theorem statement_function {parameter : Name} (spelled : name.spelledName = name)
    (spelledParameter : parameter.spelledName = parameter)
    (readBody : colonBlock inner (.symbol .colon :: lexemes) = some (body, rest)) :
    statement inner (.keyword .defWord :: .name name :: .symbol .leftParen :: .name parameter ::
      .symbol .rightParen :: .symbol .colon :: lexemes) =
      some ([.functionDef false name [.mk .ordinary parameter none none] none [] body], rest) := by
  rw [statement_function_eq spelled spelledParameter, readBody]
  rfl

end Stencil.Script
