import Stencil.Proofs.Script.BlockReader
import Stencil.Proofs.Script.InsertedLine
import Stencil.Proofs.Script.InsertedStatement

/-! # Reading a program with a further line

A program that is read from some lexemes is read with a further statement when the line of that
statement is put between two lines (`Stencil.Script.exists_widened_of_inserts`). The statements in
front of the line and behind it are read alike, and every statement around it keeps its shape.
-/

namespace Stencil.Script

open Reader

/-! ## Single lexemes of a line -/

namespace InlineReader

variable {α : Type} {least : α → Nat} {reader : Reader α} {symbol : Symbol} {word : Keyword}

theorem of_bind_pure (inline : InlineReader least (reader >>= Pure.pure)) :
    InlineReader least reader := by rwa [bind_pure] at inline

theorem expectSymbol : InlineReader (fun _ => 0) (expectSymbol symbol) :=
  of_bind_pure (expectSymbol_bind (pure rfl))

theorem expectKeyword : InlineReader (fun _ => 0) (expectKeyword word) :=
  of_bind_pure (expectKeyword_bind (pure rfl))

theorem acceptSymbol (goesOn : (Lexeme.symbol symbol).isStop = false) :
    InlineReader (fun _ => 0) (acceptSymbol symbol) :=
  of_bind_pure (acceptSymbol_bind goesOn (pure rfl) (pure rfl))

theorem acceptKeyword : InlineReader (fun _ => 0) (acceptKeyword word) :=
  of_bind_pure (acceptKeyword_bind (pure rfl) (pure rfl))

theorem nextIs {lexeme : Lexeme} (goesOn : lexeme.isStop = false) :
    InlineReader (fun _ => 0) (nextIs lexeme) :=
  of_bind_pure (nextIs_bind goesOn fun _ => pure rfl)

end InlineReader

/-- An expression that is present. -/
theorem inlineReader_present {inner : Inner} (inline : inner.IsInline) :
    InlineReader (fun _ => 0) (some <$> inner.expression) := .map inline.expression.free

/-- The statement of a line is put behind some statements, any number of times. -/
abbrev Edit.Widens (edit : Edit) : List Stmt → List Stmt → Prop := Widened edit.former edit.value

/-- The readers for nested parts read a line as it is, and a block with the line that is put into
it. -/
structure Inner.Keeps (edit : Edit) (depth : Nat) (inner : Inner) (openers : List Lexeme) : Prop where
  inline : inner.IsInline
  blocks : ∀ first lexemes others body rest,
    Inserts edit depth none (first :: openers) lexemes others →
    inner.statements lexemes = some (body, rest) →
    ∃ more last, inner.statements others = some (more, last) ∧ edit.Widens body more ∧
      last.head? = rest.head? ∧ ∃ front, Inserts edit depth front (first :: openers) rest last

/-- A statement with further statements in its blocks. -/
def StmtWidened (edit : Edit) (stmt other : Stmt) : Prop := edit.Widens [stmt] [other]

variable {edit : Edit} {depth : Nat} {openers : List Lexeme} {inner : Inner} {first : Lexeme}

theorem eq_cons_of_expect {lexeme : Lexeme} {lexemes rest : List Lexeme} {found : Unit}
    (read : expect lexeme lexemes = some (found, rest)) : lexemes = lexeme :: rest := by
  cases lexemes with
  | nil => cases read
  | cons first lexemes =>
      by_cases same : first = lexeme
      · subst same
        rw [expect_cons_self] at read
        cases read
        rfl
      · rw [expect, if_neg same] at read
        cases read

/-! ## Blocks -/

/-- The deeper lines below a header. -/
def indentedBlock (inner : Inner) : Reader (List Stmt) := do
  expect .indent
  let body ← inner.statements
  expect .dedent
  return body

theorem block_lineEnd {rest : List Lexeme} :
    block inner (.lineEnd :: rest) = indentedBlock inner rest := rfl

theorem block_inline {rest : List Lexeme} (inline : first.isInline = true) :
    block inner (first :: rest) = simpleStatements inner (first :: rest) := by
  have differs : first ≠ .lineEnd := by
    rintro rfl
    cases inline
  unfold block
  rw [bind_apply, accept_cons_of_ne differs]
  rfl

/-- Deeper lines are read up to the end of their block. -/
theorem indentedBlock_eq_some {lexemes rest : List Lexeme} {body : List Stmt} :
    indentedBlock inner lexemes = some (body, rest) ↔
      ∃ inside, lexemes = .indent :: inside ∧
        inner.statements inside = some (body, .dedent :: rest) := by
  constructor
  · intro read
    obtain ⟨⟨_, inside⟩, indented, read⟩ := Option.bind_eq_some_iff.mp read
    obtain ⟨⟨found, behind⟩, readBody, read⟩ := Option.bind_eq_some_iff.mp read
    obtain ⟨⟨_, last⟩, dedented, read⟩ := Option.bind_eq_some_iff.mp read
    cases read
    obtain rfl := eq_cons_of_expect indented
    obtain rfl := eq_cons_of_expect dedented
    exact ⟨inside, rfl, readBody⟩
  · rintro ⟨inside, rfl, readBody⟩
    unfold indentedBlock
    rw [bind_apply, expect_cons_self, Option.bind_some, bind_apply, readBody]
    rfl

/-- A block is read with its line, and the block of a class as it is. -/
theorem lineKeeps_block (keeps : inner.Keeps edit depth openers) :
    LineKeeps edit depth first openers
      (fun body more => edit.Widens body more ∧ (first = .keyword .classWord → more = body))
      (block inner) (block inner) := by
  intro lexemes others found rest inLine read
  have simple : LineKeeps edit depth first openers
      (fun body more => edit.Widens body more ∧ (first = .keyword .classWord → more = body))
      (simpleStatements inner) (simpleStatements inner) :=
    .of_takesLine (takesLine_simpleStatements keeps.inline) fun _ => ⟨.refl, fun _ => rfl⟩
  rcases inLine with rfl | ⟨front, tail, more, inside, rfl, rfl, inserts⟩
  · exact ⟨found, rest, read, ⟨.refl, fun _ => rfl⟩, none, .same _ _ _⟩
  cases front with
  | cons start front =>
      have inline := inside start List.mem_cons_self
      rw [List.cons_append, block_inline inline] at read
      rw [List.cons_append, block_inline inline]
      exact simple _ _ _ _ (.inr ⟨start :: front, tail, more, inside, rfl, rfl, inserts⟩) read
  | nil =>
      rw [List.nil_append, block_lineEnd] at read
      rw [List.nil_append, block_lineEnd]
      obtain ⟨body, rfl, readBody⟩ := indentedBlock_eq_some.mp read
      obtain ⟨more, rfl, inserts, isClass⟩ := inserts.exists_of_indent
      obtain ⟨other, last, readMore, widened, ends, between, insertsBehind⟩ :=
        keeps.blocks _ _ _ _ _ inserts readBody
      obtain ⟨final, rfl, insertsFinal⟩ := insertsBehind.exists_of_dedent ends
      refine ⟨other, final, indentedBlock_eq_some.mpr ⟨more, rfl, readMore⟩, ⟨widened, ?_⟩, _,
        insertsFinal⟩
      intro opensClass
      rw [isClass opensClass, readBody] at readMore
      cases readMore
      rfl

theorem lineKeeps_colonBlock 
    (keeps : inner.Keeps edit depth openers) :
    LineKeeps edit depth first openers
      (fun body more => edit.Widens body more ∧ (first = .keyword .classWord → more = body))
      (colonBlock inner) (colonBlock inner) :=
  .inline_bind InlineReader.expectSymbol fun _ => lineKeeps_block keeps

theorem lineKeeps_body (keeps : inner.Keeps edit depth openers) :
    LineKeeps edit depth first openers (edit.Widens) (colonBlock inner) (colonBlock inner) :=
  (lineKeeps_colonBlock keeps).weaken fun _ _ => And.left

theorem startKeeps_elseBlock 
    (keeps : inner.Keeps edit depth openers) :
    StartKeeps edit depth openers (edit.Widens) (elseBlock inner) (elseBlock inner) := by
  unfold elseBlock
  exact .acceptKeyword_ite rfl (lineKeeps_body keeps) (.pure .refl)

/-! ## Choices and loops -/

/-- A test with a block that holds further statements. -/
def BranchWidened (edit : Edit) (branch other : Expr × List Stmt) : Prop :=
  branch.1 = other.1 ∧ edit.Widens branch.2 other.2

theorem lineKeeps_choiceBranch 
    (keeps : inner.Keeps edit depth openers) :
    LineKeeps edit depth first openers (BranchWidened edit) (choiceBranch inner)
      (choiceBranch inner) := by
  unfold choiceBranch
  refine .inline_bind (inlineReader_namedExpression keeps.inline) fun test => ?_
  exact (lineKeeps_body keeps).bind fun body more widened => .pure ⟨rfl, widened⟩

theorem startKeeps_elifStep 
    (keeps : inner.Keeps edit depth openers) {found other : List (Expr × List Stmt)}
    (widened : List.Forall₂ (BranchWidened edit) found other) :
    StartKeeps edit depth openers (Option.Rel (List.Forall₂ (BranchWidened edit)))
      (elifStep inner found) (elifStep inner other) := by
  unfold elifStep
  refine .acceptKeyword_ite rfl ?_ (.pure .none)
  exact (lineKeeps_choiceBranch keeps).bind fun branch more widenedBranch =>
    .pure (.some (.cons widenedBranch widened))

/-- Further tests nest in the last block. -/
theorem widened_foldl {found others : List (Expr × List Stmt)} {stmt other : Stmt}
    (widened : List.Forall₂ (BranchWidened edit) found others)
    (widenedLast : StmtWidened edit stmt other) :
    StmtWidened edit
      (found.foldl (fun statement (branch : Expr × List Stmt) =>
        .ifBlock branch.1 branch.2 [statement]) stmt)
      (others.foldl (fun statement (branch : Expr × List Stmt) =>
        .ifBlock branch.1 branch.2 [statement]) other) := by
  induction widened generalizing stmt other with
  | nil => exact widenedLast
  | @cons branch another found others widenedBranch _ ih =>
      obtain ⟨test, body⟩ := branch
      obtain ⟨_, more⟩ := another
      obtain ⟨rfl, widenedBody⟩ := widenedBranch
      exact ih (((Holder.whenTrue test [stmt]).widened widenedBody).trans
        ((Holder.whenFalse test more).widened widenedLast))

theorem lineKeeps_ifStatement 
    (keeps : inner.Keeps edit depth openers) :
    LineKeeps edit depth first openers (StmtWidened edit) (ifStatement inner)
      (ifStatement inner) := by
  unfold ifStatement
  refine (lineKeeps_choiceBranch keeps).bind fun branch another widenedBranch => ?_
  refine .bind (.repeatFrom (.cons widenedBranch .nil) fun found others widened =>
    startKeeps_elifStep keeps widened) fun found others widened => ?_
  refine (startKeeps_elseBlock keeps).bind fun otherwise more widenedOtherwise => ?_
  cases widened with
  | nil => exact .refuse
  | @cons branch another found others widenedBranch widened =>
      obtain ⟨test, body⟩ := branch
      obtain ⟨_, further⟩ := another
      obtain ⟨rfl, widenedBody⟩ := widenedBranch
      exact .pure (widened_foldl widened (((Holder.whenTrue test otherwise).widened widenedBody).trans
        ((Holder.whenFalse test further).widened widenedOtherwise)))

theorem lineKeeps_whileStatement 
    (keeps : inner.Keeps edit depth openers) :
    LineKeeps edit depth first openers (StmtWidened edit) (whileStatement inner)
      (whileStatement inner) := by
  unfold whileStatement
  refine .inline_bind (inlineReader_namedExpression keeps.inline) fun test => ?_
  refine (lineKeeps_body keeps).bind fun body more widened => ?_
  exact (startKeeps_elseBlock keeps).bind fun otherwise further widenedOtherwise =>
    .pure (((Holder.whileBody test otherwise).widened widened).trans
      ((Holder.whileOtherwise test more).widened widenedOtherwise))

theorem lineKeeps_forStatement 
    (keeps : inner.Keeps edit depth openers) (isAsync : Bool) :
    LineKeeps edit depth first openers (StmtWidened edit) (forStatement inner isAsync)
      (forStatement inner isAsync) := by
  unfold forStatement
  refine .inline_bind (inlineReader_starTargets keeps.inline.primary) fun target => ?_
  refine .inline_bind InlineReader.expectKeyword fun _ => ?_
  refine .inline_bind (inlineReader_starExpressions keeps.inline) fun source => ?_
  refine (lineKeeps_body keeps).bind fun body more widened => ?_
  exact (startKeeps_elseBlock keeps).bind fun otherwise further widenedOtherwise =>
    .pure (((Holder.forBody isAsync target source otherwise).widened widened).trans
      ((Holder.forOtherwise isAsync target source more).widened widenedOtherwise))

theorem lineKeeps_withStatement 
    (keeps : inner.Keeps edit depth openers) (isAsync : Bool) :
    LineKeeps edit depth first openers (StmtWidened edit) (withStatement inner isAsync)
      (withStatement inner isAsync) := by
  unfold withStatement
  refine .line_bind (lineReader_enteredItems keeps.inline) fun items => ?_
  exact (lineKeeps_block keeps).bind fun body more widened =>
    .pure ((Holder.withBody isAsync items).widened widened.1)

/-! ## Handlers -/

/-- Handlers as far as they have been read, with further statements in their blocks. -/
def StateWidened (edit : Edit) (state other : HandlerState) : Prop :=
  List.Forall₂ (HandlerWidened edit.former edit.value) state.reversed other.reversed ∧
    state.isGroup = other.isGroup

theorem StateWidened.isEmpty_eq {state other : HandlerState}
    (widened : StateWidened edit state other) :
    other.reversed.isEmpty = state.reversed.isEmpty := by
  rw [Bool.eq_iff_iff, List.isEmpty_iff_length_eq_zero, List.isEmpty_iff_length_eq_zero,
    widened.1.length_eq]

theorem lineKeeps_handlerRest 
    (keeps : inner.Keeps edit depth openers) {state other : HandlerState}
    (widened : StateWidened edit state other) (isGroup : Bool) (kind : Option Expr) :
    LineKeeps edit depth first openers (Option.Rel (StateWidened edit))
      (handlerRest inner state isGroup kind) (handlerRest inner other isGroup kind) := by
  have finish : ∀ name : Option Name, LineKeeps edit depth first openers
      (Option.Rel (StateWidened edit))
      (do
        let body ← colonBlock inner
        return some ⟨.mk kind name body :: state.reversed, some isGroup⟩)
      (do
        let body ← colonBlock inner
        return some ⟨.mk kind name body :: other.reversed, some isGroup⟩) := fun name =>
    (lineKeeps_body keeps).bind fun body more widenedBody =>
      .pure (.some ⟨.cons ⟨rfl, rfl, widenedBody⟩ widened.1, rfl⟩)
  unfold handlerRest
  exact .ite (.inline_bind inlineReader_givenName finish) (finish none)

theorem startKeeps_readHandler 
    (keeps : inner.Keeps edit depth openers) {state other : HandlerState}
    (widened : StateWidened edit state other) :
    StartKeeps edit depth openers (Option.Rel (StateWidened edit)) (readHandler inner state)
      (readHandler inner other) := by
  unfold readHandler
  refine .acceptKeyword_ite rfl (.inline_bind (InlineReader.acceptSymbol rfl) fun isGroup => ?_)
    (.pure .none)
  rw [widened.2]
  refine .require_bind (.inline_bind (InlineReader.nextIs rfl) fun isColon => ?_)
  refine .ite (lineKeeps_handlerRest keeps widened isGroup none) ?_
  refine .inline_bind (inlineReader_present keeps.inline) fun kind => ?_
  exact lineKeeps_handlerRest keeps widened isGroup kind

theorem startKeeps_tryRest (keeps : inner.Keeps edit depth openers)
    {body further otherwise more : List Stmt} {state other : HandlerState}
    (widenedBody : edit.Widens body further) (widened : StateWidened edit state other)
    (widenedOtherwise : edit.Widens otherwise more) :
    StartKeeps edit depth openers (StmtWidened edit) (tryRest inner body state otherwise)
      (tryRest inner further other more) := by
  have handlers := List.rel_reverse widened.1
  have sameEmpty := widened.isEmpty_eq
  have finish : ∀ {always last : List Stmt}, edit.Widens always last → StmtWidened edit
      (.tryBlock (state.isGroup.getD false) body state.reversed.reverse otherwise always)
      (.tryBlock (other.isGroup.getD false) further other.reversed.reverse more last) := by
    intro always last widenedAlways
    rw [← widened.2]
    refine ((Holder.tryBody _ _ _ _).widened widenedBody).trans ?_
    refine (widened_handlers handlers []).trans ?_
    refine ((Holder.tryOtherwise _ _ _ _).widened widenedOtherwise).trans ?_
    exact (Holder.tryAlways _ _ _ _).widened widenedAlways
  unfold tryRest
  rw [sameEmpty]
  refine .acceptKeyword_bind rfl ?_ ?_
  · exact (lineKeeps_body keeps).bind fun always last widenedAlways =>
      .require_bind (.pure (finish widenedAlways))
  · exact .bind (.pure .refl) fun always last widenedAlways =>
      .require_bind (.pure (finish widenedAlways))

theorem lineKeeps_tryStatement 
    (keeps : inner.Keeps edit depth openers) :
    LineKeeps edit depth first openers (StmtWidened edit) (tryStatement inner)
      (tryStatement inner) := by
  unfold tryStatement
  refine (lineKeeps_body keeps).bind fun body further widenedBody => ?_
  have start : StateWidened edit ⟨[], none⟩ ⟨[], none⟩ := ⟨.nil, rfl⟩
  refine .bind (.repeatFrom start fun state other widened => startKeeps_readHandler keeps widened)
    fun state other widened => ?_
  refine .ite (by rw [widened.isEmpty_eq]) ?_ ?_
  · exact startKeeps_tryRest keeps widenedBody widened .refl
  · exact (startKeeps_elseBlock keeps).bind fun otherwise more widenedOtherwise =>
      startKeeps_tryRest keeps widenedBody widened widenedOtherwise

/-! ## Definitions -/

theorem lineKeeps_functionStatement 
    (keeps : inner.Keeps edit depth openers) (isAsync : Bool) (decorators : List Expr) :
    LineKeeps edit depth first openers (StmtWidened edit)
      (functionStatement inner isAsync decorators) (functionStatement inner isAsync decorators) := by
  unfold functionStatement
  refine .inline_bind InlineReader.expectName fun name => ?_
  refine .inline_bind InlineReader.expectSymbol fun _ => ?_
  refine .inline_bind (inlineReader_readParameters keeps.inline true .rightParen)
    fun parameters => ?_
  refine .inline_bind InlineReader.expectSymbol fun _ => ?_
  have finish : ∀ hint : Option Expr, LineKeeps edit depth first openers (StmtWidened edit)
      (do return .functionDef isAsync name parameters hint decorators (← colonBlock inner))
      (do return .functionDef isAsync name parameters hint decorators (← colonBlock inner)) :=
    fun hint => (lineKeeps_body keeps).bind fun body more widened =>
      .pure ((Holder.functionBody isAsync name parameters hint decorators).widened widened)
  refine .inline_bind (InlineReader.acceptSymbol rfl) fun isHinted => .ite ?_ (finish none)
  exact .inline_bind (inlineReader_present keeps.inline) finish

theorem lineKeeps_classStatement 
    (keeps : inner.Keeps edit depth openers) (decorators : List Expr) :
    LineKeeps edit depth (.keyword .classWord) openers (StmtWidened edit)
      (classStatement inner decorators) (classStatement inner decorators) := by
  unfold classStatement
  refine .inline_bind InlineReader.expectName fun name => ?_
  have finish : ∀ (bases : List Expr) (named : List NamedArgument),
      LineKeeps edit depth (.keyword .classWord) openers (StmtWidened edit)
      (do return .classDef name bases named decorators (← colonBlock inner))
      (do return .classDef name bases named decorators (← colonBlock inner)) := by
    intro bases named
    refine (lineKeeps_colonBlock keeps).bind fun body more widened => .pure ?_
    rw [widened.2 rfl]
    exact .refl
  refine .inline_bind (InlineReader.acceptSymbol rfl) fun hasBases => .ite ?_ (finish [] [])
  exact .inline_bind (inlineReader_readArguments keeps.inline .start) fun found =>
    finish found.1 found.2

theorem lineKeeps_asyncRest 
    (keeps : inner.Keeps edit depth openers) :
    LineKeeps edit depth first openers (StmtWidened edit)
      (do
        if ← acceptKeyword .forWord then forStatement inner true
        else if ← acceptKeyword .withWord then withStatement inner true
        else
          expectKeyword .defWord
          functionStatement inner true [])
      (do
        if ← acceptKeyword .forWord then forStatement inner true
        else if ← acceptKeyword .withWord then withStatement inner true
        else
          expectKeyword .defWord
          functionStatement inner true []) := by
  refine .inline_bind InlineReader.acceptKeyword fun isLoop => .ite
    (lineKeeps_forStatement keeps true) ?_
  refine .inline_bind InlineReader.acceptKeyword fun isWith => .ite
    (lineKeeps_withStatement keeps true) ?_
  exact .inline_bind InlineReader.expectKeyword fun _ =>
    lineKeeps_functionStatement keeps true []

/-! ## Choices by shape -/

theorem startKeeps_readCase 
    (keeps : inner.Keeps edit depth (choiceOpener :: openers)) {found other : List MatchCase}
    (widened : List.Forall₂ (CaseWidened edit.former edit.value) found other) :
    StartKeeps edit depth (choiceOpener :: openers)
      (Option.Rel (List.Forall₂ (CaseWidened edit.former edit.value))) (readCase inner found)
      (readCase inner other) := by
  have finish : ∀ (pattern : Pattern) (guard : Option Expr),
      LineKeeps edit depth (.name (text "case")) (choiceOpener :: openers)
        (Option.Rel (List.Forall₂ (CaseWidened edit.former edit.value)))
        (do return some (.mk pattern guard (← colonBlock inner) :: found))
        (do return some (.mk pattern guard (← colonBlock inner) :: other)) := fun pattern guard =>
    (lineKeeps_body keeps).bind fun body more widenedBody =>
      .pure (.some (.cons ⟨rfl, rfl, widenedBody⟩ widened))
  unfold readCase
  refine .accept_bind rfl rfl ?_ (.pure .none)
  refine .inline_bind (inlineReader_casePattern keeps.inline) fun pattern => ?_
  refine .inline_bind InlineReader.acceptKeyword fun isGuarded => .ite ?_ (finish pattern none)
  have guard : InlineReader (fun _ => 0) (some <$> namedExpression inner) :=
    .map (inlineReader_namedExpression keeps.inline).free
  exact .inline_bind guard (finish pattern)

/-- The cases of a choice are read up to the end of its block. -/
theorem matchRest_eq_some {subject : Expr} {lexemes rest : List Lexeme} {stmt : Stmt} :
    matchRest inner subject lexemes = some (stmt, rest) ↔
      ∃ cases, repeatFrom (readCase inner) [] lexemes = some (cases, .dedent :: rest) ∧
        stmt = .matchBlock subject cases.reverse := by
  constructor
  · intro read
    obtain ⟨⟨cases, behind⟩, repeated, read⟩ := Option.bind_eq_some_iff.mp read
    obtain ⟨⟨_, last⟩, dedented, read⟩ := Option.bind_eq_some_iff.mp read
    cases read
    obtain rfl := eq_cons_of_expect dedented
    exact ⟨cases, repeated, rfl⟩
  · rintro ⟨cases, repeated, rfl⟩
    unfold matchRest
    rw [bind_apply, repeated, Option.bind_some, bind_apply, expect_cons_self]
    rfl

theorem exists_matchRest 
    (keeps : inner.Keeps edit depth (choiceOpener :: openers)) {front : Option Lexeme}
    {subject : Expr} {lexemes others rest : List Lexeme} {stmt : Stmt}
    (inserts : Inserts edit depth front (choiceOpener :: openers) lexemes others)
    (read : matchRest inner subject lexemes = some (stmt, rest)) :
    ∃ other last, matchRest inner subject others = some (other, last) ∧
      StmtWidened edit stmt other ∧ ∃ front, Inserts edit depth front openers rest last := by
  obtain ⟨cases, repeated, rfl⟩ := matchRest_eq_some.mp read
  have readsCases : StartKeeps edit depth (choiceOpener :: openers)
      (List.Forall₂ (CaseWidened edit.former edit.value)) (repeatFrom (readCase inner) [])
      (repeatFrom (readCase inner) []) :=
    .repeatFrom .nil fun found other widened => startKeeps_readCase keeps widened
  obtain ⟨more, last, readMore, widened, between, insertsBehind⟩ :=
    readsCases _ _ _ _ _ inserts repeated
  obtain ⟨final, rfl, insertsFinal⟩ := insertsBehind.exists_of_dedent
    (insertsBehind.exists_of_fixed (.inr rfl)).1
  exact ⟨_, final, matchRest_eq_some.mpr ⟨more, readMore, rfl⟩,
    widened_cases (List.rel_reverse widened) [], _, insertsFinal⟩

/-- The word and the subject of a choice by shape. -/
def matchSubject (inner : Inner) : Reader Expr := do
  expect choiceOpener
  let first ← starNamedExpression inner
  match ← moreItems (starNamedExpression inner) startsItem first with
  | ([.starred _], false) => refuse
  | found => return tupleOrSingle found

theorem matchHead_eq : matchHead inner = matchSubject inner >>= matchHeadEnd := by
  unfold matchHead matchSubject
  rw [bind_assoc]
  refine congrArg (expect choiceOpener >>= ·) (funext fun _ => ?_)
  rw [bind_assoc]
  refine congrArg (starNamedExpression inner >>= ·) (funext fun first => ?_)
  rw [bind_assoc]
  refine congrArg (_ >>= ·) (funext fun found => ?_)
  obtain ⟨items, hasComma⟩ := found
  match items with
  | [] => rfl
  | [single] => cases single <;> cases hasComma <;> rfl
  | one :: _ :: _ => cases one <;> rfl

theorem inlineReader_matchSubject (inline : inner.IsInline) :
    InlineReader (fun _ => 0) (matchSubject inner) := by
  unfold matchSubject
  refine .expect_bind rfl ((inlineReader_starNamedExpression inline).free.bind fun first => ?_)
  refine (inlineReader_moreItems inline).bind fun found => ?_
  split
  · exact .refuse
  · exact .pure rfl

theorem matchHeadEnd_eq_some {subject found : Expr} {lexemes rest : List Lexeme} :
    matchHeadEnd subject lexemes = some (found, rest) ↔
      found = subject ∧ lexemes = .symbol .colon :: .lineEnd :: .indent :: rest ∧
        rest.head? = some (.name (text "case")) := by
  constructor
  · intro read
    obtain ⟨⟨_, behindColon⟩, colon, readLine⟩ := Option.bind_eq_some_iff.mp read
    obtain ⟨⟨_, behindLine⟩, lineEnd, readIndent⟩ := Option.bind_eq_some_iff.mp readLine
    obtain ⟨⟨_, behindIndent⟩, indent, readCase⟩ := Option.bind_eq_some_iff.mp readIndent
    obtain rfl := eq_cons_of_expect colon
    obtain rfl := eq_cons_of_expect lineEnd
    obtain rfl := eq_cons_of_expect indent
    by_cases isCase : behindIndent.head? = some (.name (text "case"))
    · have found : (do
          require (behindIndent.head? == some (.name (text "case")))
          return subject : Reader Expr) behindIndent = some (found, rest) := readCase
      rw [isCase, beq_self_eq_true] at found
      cases found
      exact ⟨rfl, rfl, isCase⟩
    · have found : (do
          require (behindIndent.head? == some (.name (text "case")))
          return subject : Reader Expr) behindIndent = some (found, rest) := readCase
      rw [beq_eq_false_iff_ne.mpr isCase] at found
      cases found
  · rintro ⟨rfl, rfl, isCase⟩
    unfold matchHeadEnd
    rw [bind_apply, expectSymbol, expect_cons_self, Option.bind_some, bind_apply,
      expect_cons_self, Option.bind_some, bind_apply, expect_cons_self, Option.bind_some, bind_apply,
      nextIs_apply, Option.bind_some, isCase, beq_self_eq_true]
    rfl

/-- The end of a head reaches into its block. -/
theorem eq_of_line {kept behind rest : List Lexeme} (inline : Inline kept)
    (split : kept ++ .lineEnd :: behind = .symbol .colon :: .lineEnd :: .indent :: rest) :
    kept = [.symbol .colon] ∧ behind = .indent :: rest := by
  cases kept with
  | nil => cases split
  | cons first kept =>
      rw [List.cons_append, List.cons.injEq] at split
      obtain ⟨rfl, split⟩ := split
      cases kept with
      | nil => exact ⟨rfl, (List.cons.inj split).2⟩
      | cons second kept =>
          rw [List.cons_append, List.cons.injEq] at split
          cases inline second (List.mem_cons_of_mem _ List.mem_cons_self) |>.symm.trans
            (congrArg Lexeme.isInline split.1)

/-- **A line that opens a choice by shape is read as one with the further line**, and other lines
are read as they are. -/
theorem exists_matchOrSimple 
    (keeps : inner.Keeps edit depth openers)
    (keepsCases : inner.Keeps edit depth (choiceOpener :: openers)) {start : Lexeme}
    {inside behind more rest : List Lexeme} {found : List Stmt} (inline : Inline (start :: inside))
    (inserts : Inserts edit depth (some start) openers behind more)
    (read : matchOrSimple inner (start :: inside ++ .lineEnd :: behind) = some (found, rest)) :
    ∃ other last, matchOrSimple inner (start :: inside ++ .lineEnd :: more) = some (other, last) ∧
      edit.Widens found other ∧ ∃ front, Inserts edit depth front openers rest last := by
  have inLine : InLine edit depth start openers (start :: inside ++ .lineEnd :: behind)
      (start :: inside ++ .lineEnd :: more) :=
    .inr ⟨start :: inside, behind, more, inline, rfl, rfl, inserts⟩
  have asSimple : matchHead inner (start :: inside ++ .lineEnd :: behind) = none →
      matchHead inner (start :: inside ++ .lineEnd :: more) = none →
      ∃ other last, matchOrSimple inner (start :: inside ++ .lineEnd :: more) = some (other, last) ∧
        edit.Widens found other ∧ ∃ front, Inserts edit depth front openers rest last := by
    intro noChoice noChoiceMore
    unfold matchOrSimple at read ⊢
    rw [noChoice] at read
    rw [noChoiceMore]
    exact LineKeeps.of_takesLine (takesLine_simpleStatements keeps.inline) (fun _ => .refl)
      _ _ _ _ inLine read
  rw [matchHead_eq, bind_apply, bind_apply] at asSimple
  rcases inlineReader_matchSubject keeps.inline (start :: inside) with
    refuses | ⟨subject, taken, kept, split, -, reads⟩
  · rw [refuses .lineEnd behind rfl, refuses .lineEnd more rfl] at asSimple
    exact asSimple rfl rfl
  rw [reads .lineEnd behind rfl, reads .lineEnd more rfl] at asSimple
  simp only [Option.bind_some] at asSimple
  have inlineKept : Inline kept := fun lexeme member =>
    inline lexeme (split ▸ List.mem_append_right _ member)
  have isOpener : start = choiceOpener := by
    obtain ⟨_, taken, -⟩ := Option.bind_eq_some_iff.mp (reads .lineEnd behind rfl)
    exact (List.cons.inj (eq_cons_of_expect taken)).1
  subst isOpener
  cases ends : matchHeadEnd subject (kept ++ .lineEnd :: behind) with
  | none =>
      refine asSimple ends ?_
      cases endsMore : matchHeadEnd subject (kept ++ .lineEnd :: more) with
      | none => rfl
      | some answer =>
          obtain ⟨-, splitMore, isCase⟩ := matchHeadEnd_eq_some.mp endsMore
          obtain ⟨rfl, rfl⟩ := eq_of_line inlineKept splitMore
          obtain ⟨less, rfl, insertsLess⟩ := inserts.exists_of_indent_right
          have sameHead := (insertsLess.exists_of_fixed (.inl rfl)).1
          rw [List.singleton_append, matchHeadEnd_eq_some.mpr ⟨rfl, rfl, sameHead ▸ isCase⟩] at ends
          cases ends
  | some answer =>
      obtain ⟨answer, inside⟩ := answer
      obtain ⟨rfl, splitBehind, isCase⟩ := matchHeadEnd_eq_some.mp ends
      obtain ⟨rfl, rfl⟩ := eq_of_line inlineKept splitBehind
      obtain ⟨further, rfl, insertsInside, -⟩ := inserts.exists_of_indent
      have sameHead := (insertsInside.exists_of_fixed (.inl rfl)).1
      have endsMore := (@matchHeadEnd_eq_some answer answer _ further).mpr
        ⟨rfl, rfl, sameHead.trans isCase⟩
      unfold matchOrSimple at read ⊢
      rw [matchHead_eq, bind_apply, reads .lineEnd _ rfl, Option.bind_some, ends] at read
      obtain ⟨⟨stmt, last⟩, readRest, same⟩ := Option.map_eq_some_iff.mp read
      cases same
      obtain ⟨other, final, readMore, widened, keepsBehind⟩ :=
        exists_matchRest keepsCases insertsInside readRest
      refine ⟨[other], final, ?_, widened, keepsBehind⟩
      rw [matchHead_eq, bind_apply, reads .lineEnd _ rfl, Option.bind_some, List.singleton_append,
        endsMore]
      exact Option.map_eq_some_iff.mpr ⟨_, readMore, rfl⟩

/-! ## Statements -/

theorem LineKeeps.one {reader : Reader Stmt}
    (keeps : LineKeeps edit depth first openers (StmtWidened edit) reader reader) :
    LineKeeps edit depth first openers (edit.Widens) (do return [← reader])
      (do return [← reader]) := keeps.bind fun _ _ widened => .pure widened

/-- **A statement that begins a line is read with the further line** behind that line, in one of its
blocks or behind them. -/
theorem exists_statement (keeps : inner.Keeps edit depth openers)
    (keepsCases : inner.Keeps edit depth (choiceOpener :: openers)) {start : Lexeme}
    {inside behind more rest : List Lexeme} {found : List Stmt} (inline : Inline (start :: inside))
    (plain : start ≠ .symbol (.operator .matrixMultiply))
    (inserts : Inserts edit depth (some start) openers behind more)
    (read : statement inner (start :: inside ++ .lineEnd :: behind) = some (found, rest)) :
    ∃ other last, statement inner (start :: inside ++ .lineEnd :: more) = some (other, last) ∧
      edit.Widens found other ∧ ∃ front, Inserts edit depth front openers rest last := by
  have inlineInside : Inline inside := fun lexeme member =>
    inline lexeme (List.mem_cons_of_mem _ member)
  -- A statement is read by its own reader behind the word that it begins with.
  have through {reader : Reader (List Stmt)}
      (same : ∀ lexemes, statement inner (start :: lexemes) = reader lexemes)
      (reads : LineKeeps edit depth start openers (edit.Widens) reader reader) :
      ∃ other last, statement inner (start :: inside ++ .lineEnd :: more) = some (other, last) ∧
        edit.Widens found other ∧ ∃ front, Inserts edit depth front openers rest last := by
    rw [List.cons_append, same] at read ⊢
    exact reads _ _ _ _ (.inr ⟨inside, behind, more, inlineInside, rfl, rfl, inserts⟩) read
  have asSimple (same : ∀ lexemes, statement inner (start :: lexemes) =
      simpleStatements inner (start :: lexemes)) :
      ∃ other last, statement inner (start :: inside ++ .lineEnd :: more) = some (other, last) ∧
        edit.Widens found other ∧ ∃ front, Inserts edit depth front openers rest last := by
    rw [List.cons_append, same] at read ⊢
    exact LineKeeps.of_takesLine (takesLine_simpleStatements keeps.inline) (fun _ => .refl)
      _ _ _ _ (.inr ⟨start :: inside, behind, more, inline, rfl, rfl, inserts⟩) read
  cases start with
  | lineEnd | indent | dedent => cases inline _ List.mem_cons_self
  | number _ => exact asSimple fun _ => rfl
  | string _ => exact asSimple fun _ => rfl
  | name name => exact exists_matchOrSimple keeps keepsCases inline inserts read
  | symbol symbol =>
      cases symbol with
      | operator operator =>
          cases operator with
          | matrixMultiply => exact (plain rfl).elim
          | _ => exact asSimple fun _ => rfl
      | _ => exact asSimple fun _ => rfl
  | keyword word =>
      cases word with
      | ifWord => exact through (fun _ => rfl) (lineKeeps_ifStatement keeps).one
      | whileWord => exact through (fun _ => rfl) (lineKeeps_whileStatement keeps).one
      | forWord => exact through (fun _ => rfl) (lineKeeps_forStatement keeps false).one
      | withWord => exact through (fun _ => rfl) (lineKeeps_withStatement keeps false).one
      | tryWord => exact through (fun _ => rfl) (lineKeeps_tryStatement keeps).one
      | asyncWord => exact through (fun _ => rfl) (lineKeeps_asyncRest keeps).one
      | defWord =>
          exact through (fun _ => rfl) (lineKeeps_functionStatement keeps false []).one
      | classWord => exact through (fun _ => rfl) (lineKeeps_classStatement keeps []).one
      | _ => exact asSimple fun _ => rfl

/-! ## At least one statement -/

theorem ne_nil_of_lineSteps {count : Nat} {earlier last : List Stmt × Bool}
    {lexemes rest : List Lexeme} (steps : Steps (lineStep inner) count earlier lexemes last rest)
    (held : earlier.1 ≠ []) : last.1 ≠ [] := by
  induction steps with
  | none => exact held
  | @more count earlier next last lexemes behind rest step _ ih =>
      refine ih ?_
      obtain ⟨statements, isEnded⟩ := earlier
      cases isEnded with
      | true => cases step
      | false =>
          obtain ⟨⟨ended, afterLine⟩, -, step⟩ := Option.bind_eq_some_iff.mp step
          cases ended with
          | true =>
              cases step
              exact held
          | false =>
              obtain ⟨⟨_, behindSemicolon⟩, -, step⟩ := Option.bind_eq_some_iff.mp step
              obtain ⟨⟨ended, afterLine⟩, -, step⟩ := Option.bind_eq_some_iff.mp step
              cases ended with
              | true =>
                  cases step
                  exact held
              | false =>
                  obtain ⟨⟨another, behindAll⟩, -, step⟩ := Option.bind_eq_some_iff.mp step
                  cases step
                  exact List.cons_ne_nil _ _

theorem ne_nil_of_simpleStatements {lexemes rest : List Lexeme} {found : List Stmt}
    (read : simpleStatements inner lexemes = some (found, rest)) : found ≠ [] := by
  obtain ⟨⟨one, behind⟩, -, read⟩ := Option.bind_eq_some_iff.mp read
  obtain ⟨⟨last, stop⟩, repeated, read⟩ := Option.bind_eq_some_iff.mp read
  cases read
  have repeated : repeatFrom (lineStep inner) ([one], false) behind = some (last, rest) := repeated
  obtain ⟨_, _, steps, -⟩ := exists_steps_of_repeatWithin repeated
  rw [ne_eq, List.reverse_eq_nil_iff]
  exact ne_nil_of_lineSteps steps (List.cons_ne_nil _ _)

theorem ne_nil_of_one {reader : Reader Stmt} {lexemes rest : List Lexeme} {found : List Stmt}
    (read : (do return [← reader] : Reader (List Stmt)) lexemes = some (found, rest)) :
    found ≠ [] := by
  obtain ⟨⟨one, behind⟩, -, read⟩ := Option.bind_eq_some_iff.mp read
  cases read
  exact List.cons_ne_nil _ _

/-- A line holds at least one statement. -/
theorem ne_nil_of_statement {lexemes rest : List Lexeme} {found : List Stmt}
    (read : statement inner lexemes = some (found, rest)) : found ≠ [] := by
  have parts : statement inner lexemes = simpleStatements inner lexemes ∨
      statement inner lexemes = matchOrSimple inner lexemes ∨
      ∃ reader : Reader Stmt, ∃ behind,
        statement inner lexemes = (do return [← reader] : Reader (List Stmt)) behind := by
    cases lexemes with
    | nil => exact .inl rfl
    | cons start lexemes =>
        cases start with
        | name name => exact .inr (.inl rfl)
        | symbol symbol =>
            cases symbol with
            | operator operator =>
                cases operator with
                | matrixMultiply => exact .inr (.inr ⟨_, _, rfl⟩)
                | _ => exact .inl rfl
            | _ => exact .inl rfl
        | keyword word =>
            cases word with
            | ifWord | whileWord | forWord | withWord | tryWord | asyncWord | defWord | classWord =>
                exact .inr (.inr ⟨_, _, rfl⟩)
            | _ => exact .inl rfl
        | _ => exact .inl rfl
  rcases parts with same | same | ⟨reader, behind, same⟩
  · exact ne_nil_of_simpleStatements (same ▸ read)
  · rw [same, matchOrSimple] at read
    split at read
    · obtain ⟨answer, -, same⟩ := Option.map_eq_some_iff.mp read
      cases same
      exact List.cons_ne_nil _ _
    · exact ne_nil_of_simpleStatements read
  · exact ne_nil_of_one (same ▸ read)

/-! ## Blocks and programs -/

/-- Statements as far as they have been read, with further statements among them. -/
def FoundWidened (edit : Edit) (found others : List (List Stmt)) : Prop :=
  found.reverse.flatten ≠ [] ∧ edit.Widens found.reverse.flatten others.reverse.flatten

theorem flatten_reverse_cons {body : List Stmt} {found : List (List Stmt)} :
    (body :: found).reverse.flatten = found.reverse.flatten ++ body := by
  rw [List.reverse_cons, List.flatten_append, List.flatten_singleton]

theorem FoundWidened.cons {found others : List (List Stmt)} {body more : List Stmt}
    (widened : FoundWidened edit found others) (widenedBody : edit.Widens body more) :
    FoundWidened edit (body :: found) (more :: others) := by
  unfold FoundWidened
  rw [flatten_reverse_cons, flatten_reverse_cons]
  exact ⟨fun isNil => widened.1 (List.append_eq_nil_iff.mp isNil).1, widened.2.append widenedBody⟩

/-- The further statement stands behind those that have been read. -/
theorem FoundWidened.concat {found others : List (List Stmt)}
    (widened : FoundWidened edit found others) :
    FoundWidened edit (edit.former :: found) ([.expression edit.value] :: others) := by
  unfold FoundWidened
  rw [flatten_reverse_cons, flatten_reverse_cons]
  refine ⟨fun isNil => widened.1 (List.append_eq_nil_iff.mp isNil).1, ?_⟩
  exact (widened.2.append .refl).tail (inserted_concat (widened.2.ne_nil widened.1))

/-- Nothing has been read where nothing stood. -/
theorem FoundWidened.of_nil {found others : List (List Stmt)}
    (widened : FoundWidened edit ([] :: found) others) : FoundWidened edit found others := by
  unfold FoundWidened at widened ⊢
  rwa [flatten_reverse_cons, List.append_nil] at widened

/-- Without a further line, the same statements are read behind others. -/
theorem exists_steps_same {count : Nat} {found last others : List (List Stmt)}
    {lexemes rest : List Lexeme} (steps : Steps (blockStep inner) count found lexemes last rest)
    (widened : FoundWidened edit found others) :
    ∃ final, Steps (blockStep inner) count others lexemes final rest ∧
      FoundWidened edit last final := by
  induction steps generalizing others with
  | none => exact ⟨others, .none, widened⟩
  | more goesOn _ ih =>
      obtain ⟨start, tail, body, rfl, noDedent, readBody, rfl⟩ := exists_of_blockStep_some goesOn
      obtain ⟨final, steps, widenedAll⟩ := ih (widened.cons .refl)
      exact ⟨final, .more (blockStep_of_statement noDedent readBody) steps, widenedAll⟩

/-- No statement begins with the end of a line, or with the begin or the end of a block. -/
theorem statement_of_edge (inline : inner.IsInline) {edge : Lexeme} {rest : List Lexeme}
    (isEdge : edge.isInline = false) : statement inner (edge :: rest) = none := by
  have noItem : starExpressions inner (edge :: rest) = none := by
    rcases inlineReader_starExpressions inline [] with refuses | ⟨_, _, _, split, enough, -⟩
    · exact refuses edge rest isEdge
    · obtain ⟨rfl, -⟩ := List.append_eq_nil_iff.mp split.symm
      exact (Nat.not_succ_le_zero 0 enough).elim
  have noStatement : simpleStatement inner (edge :: rest) = none := by
    cases edge with
    | lineEnd | indent | dedent =>
        change (starExpressions inner _).bind _ = none
        rw [noItem]
        rfl
    | _ => cases isEdge
  have same : statement inner (edge :: rest) = simpleStatements inner (edge :: rest) := by
    cases edge with
    | lineEnd | indent | dedent => rfl
    | _ => cases isEdge
  rw [same, simpleStatements, bind_apply, noStatement]
  rfl

/-- The readers go deep enough for a line with one call. -/
def ReadsRows (inner : Inner) : Prop := ∀ row value, IsRow row value → ∀ rest,
  statement inner (row ++ .lineEnd :: rest) = some ([.expression value], rest)

/-- From the statements that have been read, the steps of a block are taken with the further line,
which takes one step more unless another line stands in its place. -/
def StepsWidened (edit : Edit) (depth : Nat) (inner : Inner) (openers : List Lexeme) (count : Nat)
    (further last : List (List Stmt)) (others rest : List Lexeme) : Prop :=
  ∃ countMore final behind, Steps (blockStep inner) countMore further others final behind ∧
    countMore + edit.former.length ≤ count + 1 ∧ FoundWidened edit last final ∧
    behind.head? = rest.head? ∧ ∃ front, Inserts edit depth front openers rest behind

section

variable {count : Nat} {found last further : List (List Stmt)} {lexemes others rest : List Lexeme}

theorem StepsWidened.same (steps : Steps (blockStep inner) count found lexemes last rest)
    (widened : FoundWidened edit found further) :
    StepsWidened edit depth inner openers count further last lexemes rest := by
  obtain ⟨final, steps, widenedAll⟩ := exists_steps_same steps widened
  exact ⟨count, final, rest, steps, Nat.add_le_add_left edit.stood.length_former_le count,
    widenedAll, rfl, none, .same _ _ _⟩

/-- A line with one call is one step. -/
theorem blockStep_row {row : List Lexeme} {value : Expr} (reads : ReadsRows inner)
    (isRow : IsRow row value) : blockStep inner found (row ++ .lineEnd :: lexemes) =
      some (some ([.expression value] :: found), lexemes) := by
  have read := reads row value isRow lexemes
  obtain ⟨name, tail, rfl⟩ := isRow.head
  exact blockStep_of_statement (fun same => nomatch same) read

theorem StepsWidened.here (reads : ReadsRows inner)
    (steps : Steps (blockStep inner) count found (edit.old ++ lexemes) last rest)
    (ends : rest = [] ∨ rest.head? = some .dedent) (widened : FoundWidened edit found further) :
    StepsWidened edit depth inner openers count further last (edit.row ++ .lineEnd :: lexemes)
      rest := by
  have row : blockStep inner further (edit.row ++ .lineEnd :: lexemes) =
      some (some ([.expression edit.value] :: further), lexemes) := blockStep_row reads edit.isRow
  have widenedRow : FoundWidened edit (edit.former :: found) ([.expression edit.value] :: further) :=
    widened.concat
  generalize isOld : edit.old = old at steps
  generalize isFormer : edit.former = former at widenedRow
  have stood : Stood edit.row old former := isOld ▸ isFormer ▸ edit.stood
  cases stood with
  | nothing =>
      obtain ⟨final, steps, widenedAll⟩ := exists_steps_same steps widenedRow.of_nil
      refine ⟨count + 1, final, rest, .more row steps, ?_, widenedAll, rfl, none, .same _ _ _⟩
      rw [isFormer]
      exact Nat.le_refl _
  | @another other value isRow _ =>
      rw [List.append_assoc, List.singleton_append] at steps
      have stepOther : blockStep inner found (other ++ .lineEnd :: lexemes) =
          some (some ([.expression value] :: found), lexemes) := blockStep_row reads isRow
      cases steps with
      | none =>
          obtain ⟨name, tail, rfl⟩ := isRow.head
          rcases ends with isNil | isDedent
          · cases isNil
          · cases isDedent
      | more goesOn steps =>
          rw [stepOther] at goesOn
          cases goesOn
          obtain ⟨final, steps, widenedAll⟩ := exists_steps_same steps widenedRow
          refine ⟨_, final, rest, .more row steps, ?_, widenedAll, rfl, none, .same _ _ _⟩
          rw [isFormer]
          exact Nat.le_refl _

/-- **The statements that follow in a block are read with the further line** up to the end of the
block. -/
theorem stepsWidened (keeps : inner.Keeps edit depth openers)
    (keepsCases : inner.Keeps edit depth (choiceOpener :: openers))
    (readsRows : openers.length + 2 ≤ depth → ReadsRows inner) {front : Option Lexeme}
    (steps : Steps (blockStep inner) count found lexemes last rest)
    (ends : rest = [] ∨ rest.head? = some .dedent) (widened : FoundWidened edit found further)
    (inserts : Inserts edit depth front openers lexemes others) :
    StepsWidened edit depth inner openers count further last others rest := by
  induction steps generalizing further others front with
  | @none found lexemes =>
      cases inserts with
      | same => exact .same .none widened
      | here _ room => exact .here (readsRows room) .none ends widened
      | @line _ start _ _ _ _ inline =>
          rcases ends with isNil | isDedent
          · cases isNil
          · cases inline start List.mem_cons_self |>.symm.trans
              (congrArg Lexeme.isInline (Option.some.inj isDedent))
      | opens =>
          rcases ends with isNil | isDedent
          · cases isNil
          · cases isDedent
      | @closes _ _ _ _ more later =>
          refine ⟨0, further, .dedent :: more, .none, ?_, widened, rfl, none, .closes later⟩
          exact Nat.add_le_add_left edit.stood.length_former_le 0
  | @more count found next last lexemes behind rest goesOn steps ih =>
      cases inserts with
      | same => exact .same (.more goesOn steps) widened
      | here _ room => exact .here (readsRows room) (.more goesOn steps) ends widened
      | @line _ start inside _ tail more inline plain later =>
          obtain ⟨_, _, body, split, noDedent, readBody, rfl⟩ := exists_of_blockStep_some goesOn
          obtain ⟨rfl, -⟩ := List.cons.inj split
          obtain ⟨other, after, read, widenedBody, between, inserts⟩ :=
            exists_statement keeps keepsCases inline plain later readBody
          obtain ⟨countMore, final, stop, stepsMore, fits, widenedAll, keepsEnd⟩ :=
            ih ends (widened.cons widenedBody) inserts
          refine ⟨countMore + 1, final, stop,
            .more (blockStep_of_statement noDedent read) stepsMore, ?_, widenedAll, keepsEnd⟩
          omega
      | opens =>
          obtain ⟨_, _, _, -, -, readBody, -⟩ := exists_of_blockStep_some goesOn
          rw [statement_of_edge keeps.inline rfl] at readBody
          cases readBody
      | closes => cases goesOn

end

/-- **The statements of a block are read with the further line** up to the end of the block. -/
theorem exists_statements (keeps : inner.Keeps edit depth openers)
    (keepsCases : inner.Keeps edit depth (choiceOpener :: openers))
    (readsRows : openers.length + 2 ≤ depth → ReadsRows inner) {lexemes others rest : List Lexeme}
    {body : List Stmt} (inserts : Inserts edit depth none openers lexemes others)
    (read : statements inner lexemes = some (body, rest)) :
    ∃ more behind, statements inner others = some (more, behind) ∧ edit.Widens body more ∧
      behind.head? = rest.head? ∧ ∃ front, Inserts edit depth front openers rest behind := by
  cases inserts with
  | same => exact ⟨body, rest, read, .refl, rfl, none, .same _ _ _⟩
  | closes =>
      rw [statements_apply, statement_of_edge keeps.inline rfl] at read
      cases read
  | @line _ start inside _ tail more inline plain later =>
      rw [statements_apply] at read
      obtain ⟨⟨found, behind⟩, readFirst, read⟩ := Option.bind_eq_some_iff.mp read
      obtain ⟨⟨last, rest⟩, repeated, read⟩ := Option.bind_eq_some_iff.mp read
      obtain ⟨rfl, rfl⟩ := Prod.mk.inj (Option.some.inj read)
      obtain ⟨count, stop, steps, stops, fits⟩ := exists_steps_of_repeatWithin repeated
      obtain ⟨rfl, ends⟩ := eq_of_blockStep_none stops
      have fits : count ≤ behind.length := fits
      obtain ⟨other, after, readMore, widened, between, inserts⟩ :=
        exists_statement keeps keepsCases inline plain later readFirst
      have widenedFirst : FoundWidened edit [found] [other] := by
        unfold FoundWidened
        rw [List.reverse_singleton, List.flatten_singleton, List.reverse_singleton,
          List.flatten_singleton]
        exact ⟨ne_nil_of_statement readFirst, widened⟩
      -- The longer lexemes have room for the step of the further line.
      obtain ⟨countMore, final, last, stepsMore, fitsMore, widenedAll, sameHead, keepsBehind⟩ :
          ∃ countMore final last, Steps (blockStep inner) countMore [other] after final last ∧
            countMore ≤ after.length ∧ FoundWidened edit _ final ∧ last.head? = rest.head? ∧
              ∃ front, Inserts edit depth front openers rest last := by
        rcases inserts.eq_or_length_lt with rfl | longer
        · obtain ⟨final, stepsMore, widenedAll⟩ := exists_steps_same steps widenedFirst
          exact ⟨count, final, rest, stepsMore, fits, widenedAll, rfl, none, .same _ _ _⟩
        · obtain ⟨countMore, final, last, stepsMore, atMost, others⟩ :=
            stepsWidened keeps keepsCases readsRows steps ends widenedFirst inserts
          exact ⟨countMore, final, last, stepsMore, by omega, others⟩
      have stopsMore : blockStep inner final last = some (none, last) := by
        refine blockStep_stop ?_
        rcases ends with rfl | isDedent
        · exact .inl (List.head?_eq_none_iff.mp sameHead)
        · exact .inr (sameHead.trans isDedent)
      refine ⟨_, last, ?_, widenedAll.2, sameHead, keepsBehind⟩
      rw [statements_apply, readMore, Option.bind_some,
        repeatFrom_of_steps stepsMore stopsMore fitsMore]
      rfl

/-! ## All depths -/

theorem readsRows_ofDepth (depth : Nat) : ReadsRows (Inner.ofDepth (depth + 2)) :=
  fun _ _ isRow rest => isRow.reads depth rest

theorem Inner.keeps_ofDepth (enough : Nat) : ∀ openers : List Lexeme,
    depth ≤ enough + openers.length → (Inner.ofDepth enough).Keeps edit depth openers := by
  induction enough with
  | zero => exact fun openers _ => ⟨isInline_ofDepth 0, fun _ _ _ _ _ _ read => nomatch read⟩
  | succ enough ih =>
      intro openers fits
      refine ⟨isInline_ofDepth _, fun first lexemes others body rest inserts read => ?_⟩
      refine exists_statements (ih _ ?_) (ih _ ?_) ?_ inserts read
      · rw [List.length_cons]
        omega
      · rw [List.length_cons, List.length_cons]
        omega
      · intro room
        rw [List.length_cons] at room
        obtain ⟨further, rfl⟩ : ∃ further, enough = further + 2 := ⟨enough - 2, by omega⟩
        exact readsRows_ofDepth further

/-- **A program is read with a further statement** when the line of that statement is put between
two of its lines, or takes the place of another one like it. -/
theorem exists_widened_of_inserts {found others : List Lexeme} {program : Program}
    (inserts : Inserts edit depth none [] found others)
    (read : programOf? depth found = some program) :
    ∃ longer, programOf? depth others = some longer ∧ edit.Widens program longer := by
  cases found with
  | nil =>
      generalize whole : ([] : List Lexeme) = lexemes at inserts
      cases inserts with
      | same => exact ⟨program, whole ▸ read, .refl⟩
      | line => cases whole
      | closes => cases whole
  | cons first found =>
      have keeps (openers : List Lexeme) : (Inner.ofDepth depth).Keeps edit depth openers :=
        Inner.keeps_ofDepth depth openers (Nat.le_add_right _ _)
      have readsRows : ([] : List Lexeme).length + 2 ≤ depth → ReadsRows (Inner.ofDepth depth) := by
        intro room
        obtain ⟨further, rfl⟩ : ∃ further, depth = further + 2 := ⟨depth - 2, by omega⟩
        exact readsRows_ofDepth further
      have heldMore : others ≠ [] := List.length_pos_iff.mp
        (Nat.lt_of_lt_of_le (Nat.succ_pos _) inserts.length_le)
      obtain ⟨longer, behind, readMore, widened, sameHead, -⟩ :=
        exists_statements (keeps []) (keeps _) readsRows inserts
          ((programOf?_eq_some (List.cons_ne_nil _ _)).mp read)
      obtain rfl := List.head?_eq_none_iff.mp sameHead
      exact ⟨longer, (programOf?_eq_some heldMore).mpr readMore, widened⟩

end Stencil.Script
