import Stencil.Proofs.Script.WidenedReading

/-! # What stands behind a program

The statements that are read from whole lines are also read where the end of a block or a line that
returns stands behind the lines (`Stencil.Script.ReadsStatements.carry`). A reader sees no further than
the end of the line that it is in, and neither goes on with a statement, just as the end of the program
does not.
-/

namespace Stencil.Script

open Reader

/-- Lexemes of whole lines, with the begins and the ends of blocks between them. Something stands
behind the begin of a block. -/
inductive WholeLines : List Lexeme → Prop
  | nil : WholeLines []
  | line {inside behind : List Lexeme} (inline : Inline inside) (later : WholeLines behind) :
      WholeLines (inside ++ .lineEnd :: behind)
  | opens {behind : List Lexeme} (held : behind ≠ []) (later : WholeLines behind) :
      WholeLines (.indent :: behind)
  | closes {behind : List Lexeme} (later : WholeLines behind) : WholeLines (.dedent :: behind)

/-- Lexemes of whole lines, at least one. -/
def SomeLines (lexemes : List Lexeme) : Prop := lexemes ≠ [] ∧ WholeLines lexemes

/-- Lexemes of the rest of a line and of whole lines behind it. -/
def InsideLine (lexemes : List Lexeme) : Prop :=
  ∃ inside behind, Inline inside ∧ WholeLines behind ∧ lexemes = inside ++ .lineEnd :: behind

/-- The lexemes with which a statement goes on behind its first lines, or with which its first lines
begin. -/
def partLexemes : List Lexeme :=
  [.indent, .keyword .elifWord, .keyword .elseWord, .keyword .exceptWord, .keyword .finallyWord,
    .name (text "case"), .symbol (.operator .matrixMultiply), .keyword .classWord, .keyword .asyncWord]

/-- A lexeme that goes on with no statement: the end of a block, or the word of a line that
returns. -/
def EndsStatement (edge : Lexeme) : Prop := edge = .dedent ∨ edge = .keyword .returnWord

variable {first start lexeme edge : Lexeme} {lexemes inside behind rest : List Lexeme} {inner : Inner}

theorem EndsStatement.ne (ends : EndsStatement edge) (isPart : lexeme ∈ partLexemes) :
    edge ≠ lexeme := by
  rintro rfl
  rcases ends with rfl | rfl <;> revert isPart <;> decide

/-- What is read from lexemes of one kind is also read where an edge stands behind them, and what is
left of them is of another kind. -/
def Carries {α : Type} (edge : Lexeme) (before after : List Lexeme → Prop) (reader : Reader α) :
    Prop :=
  ∀ lexemes value rest, before lexemes → reader lexemes = some (value, rest) →
    after rest ∧ ∀ behind, reader (lexemes ++ edge :: behind) = some (value, rest ++ edge :: behind)

/-- The statements of a block that is closed are also read where an edge stands behind all lines. -/
def CarriesClosed (edge : Lexeme) (reader : Reader (List Stmt)) : Prop :=
  ∀ lexemes body rest, SomeLines lexemes → reader lexemes = some (body, .dedent :: rest) →
    WholeLines (.dedent :: rest) ∧ ∀ behind, reader (lexemes ++ edge :: behind) =
      some (body, .dedent :: rest ++ edge :: behind)

/-- The readers for nested parts see no further than the end of their line or of their block. -/
structure Inner.Carries (edge : Lexeme) (inner : Inner) : Prop where
  inline : inner.IsInline
  ends : EndsStatement edge
  blocks : CarriesClosed edge inner.statements

theorem WholeLines.line_append (lines : WholeLines (first :: rest)) (inline : first.isInline = true) :
    InsideLine rest := by
  generalize whole : first :: rest = lexemes at lines
  cases lines with
  | nil => cases whole
  | opens | closes =>
      cases whole
      cases inline
  | @line inside behind inlineLine later =>
      cases inside with
      | nil =>
          cases whole
          cases inline
      | cons start inside =>
          cases whole
          exact ⟨inside, behind, fun _ member => inlineLine _ (List.mem_cons_of_mem _ member), later,
            rfl⟩

theorem InsideLine.cons (line : InsideLine rest) (inline : first.isInline = true) :
    InsideLine (first :: rest) := by
  obtain ⟨inside, behind, inlineLine, later, rfl⟩ := line
  exact ⟨first :: inside, behind, inline_cons inline inlineLine, later, rfl⟩

theorem WholeLines.behind_indent (lines : WholeLines (.indent :: rest)) : SomeLines rest := by
  generalize whole : Lexeme.indent :: rest = lexemes at lines
  cases lines with
  | nil | closes => cases whole
  | @line inside behind inline =>
      cases inside with
      | nil => cases whole
      | cons start inside =>
          cases whole
          cases inline _ List.mem_cons_self
  | opens held later =>
      cases whole
      exact ⟨held, later⟩

theorem WholeLines.behind_dedent (lines : WholeLines (.dedent :: rest)) : WholeLines rest := by
  generalize whole : Lexeme.dedent :: rest = lexemes at lines
  cases lines with
  | nil | opens => cases whole
  | @line inside behind inline =>
      cases inside with
      | nil => cases whole
      | cons start inside =>
          cases whole
          cases inline _ List.mem_cons_self
  | closes later =>
      cases whole
      exact later

/-- The lines of a statement are whole. -/
theorem Laid.wholeLines (laid : Laid lexemes) :
    ∀ {behind}, WholeLines behind → WholeLines (lexemes ++ behind) := by
  induction laid with
  | line inline =>
      intro behind later
      rw [List.append_assoc]
      exact .line inline later
  | @block header parts inline laid ih =>
      intro behind later
      have body : WholeLines (parts.flatten ++ .dedent :: behind) := by
        clear laid
        induction parts with
        | nil => exact .closes later
        | cons part parts ihParts =>
            rw [List.flatten_cons, List.append_assoc]
            exact ih part List.mem_cons_self
              (ihParts fun other member => ih other (List.mem_cons_of_mem _ member))
      simp only [List.append_assoc, List.cons_append, List.nil_append]
      exact .line inline (.opens (List.append_ne_nil_of_right_ne_nil _ (List.cons_ne_nil _ _)) body)
  | more _ _ _ ih ihOthers =>
      intro behind later
      rw [List.append_assoc]
      exact ih (ihOthers later)

theorem LaidBlock.wholeLines (block : LaidBlock lexemes) : WholeLines lexemes := by
  obtain ⟨parts, rfl, laid⟩ := block
  induction parts with
  | nil => exact .nil
  | cons part parts ih =>
      rw [List.flatten_cons]
      exact (laid part List.mem_cons_self).wholeLines
        (ih fun other member => laid other (List.mem_cons_of_mem _ member))

namespace Carries

variable {α β : Type} {before between after : List Lexeme → Prop} {reader other : Reader α}
  {next : α → Reader β} {least : α → Nat}

theorem refuse : Carries edge before after (refuse : Reader α) := fun _ _ _ _ read => nomatch read

theorem pure {value : α} : Carries edge before before (pure value) := by
  intro lexemes found rest kind read
  cases read
  exact ⟨kind, fun _ => rfl⟩

theorem bind (carries : Carries edge before between reader)
    (follow : ∀ value, Carries edge between after (next value)) :
    Carries edge before after (reader >>= next) := by
  intro lexemes value rest kind read
  obtain ⟨⟨found, behind⟩, readFirst, readNext⟩ := Option.bind_eq_some_iff.mp read
  obtain ⟨kindBehind, longer⟩ := carries _ _ _ kind readFirst
  obtain ⟨kindRest, longerNext⟩ := follow found _ _ _ kindBehind readNext
  exact ⟨kindRest, fun more => Option.bind_eq_some_iff.mpr ⟨_, longer more, longerNext more⟩⟩

theorem ite {condition : Prop} [Decidable condition] (whenTrue : Carries edge before after reader)
    (whenFalse : Carries edge before after other) :
    Carries edge before after (if condition then reader else other) := by
  split
  · exact whenTrue
  · exact whenFalse

theorem require_bind {condition : Bool} {next : Unit → Reader β}
    (follow : Carries edge before after (next ())) :
    Carries edge before after (require condition >>= next) := by
  cases condition with
  | true => exact follow
  | false => exact refuse

/-- A part of a line is read alike. -/
theorem of_line (line : LineReader reader) : Carries edge InsideLine InsideLine reader := by
  rintro lexemes value rest ⟨inside, behind, inline, later, rfl⟩ read
  rcases line inside with refuses | ⟨found, taken, kept, rfl, reads⟩
  · rw [refuses .lineEnd behind rfl] at read
    cases read
  · rw [reads .lineEnd behind rfl] at read
    cases read
    refine ⟨⟨kept, behind, fun _ member => inline _ (List.mem_append_right _ member), later, rfl⟩,
      fun more => ?_⟩
    rw [List.append_assoc _ (.lineEnd :: behind), List.append_assoc kept]
    exact reads .lineEnd (behind ++ edge :: more) rfl

theorem inline_bind (inline : InlineReader least reader)
    (follow : ∀ value, Carries edge InsideLine after (next value)) :
    Carries edge InsideLine after (reader >>= next) := bind (of_line inline.line) follow

/-- The rest of a line is taken with its end. -/
theorem of_takesLine (takes : TakesLine reader) : Carries edge InsideLine WholeLines reader := by
  rintro lexemes value rest ⟨inside, behind, inline, later, rfl⟩ read
  rcases takes inside inline with refuses | ⟨found, reads⟩
  · rw [refuses behind] at read
    cases read
  · rw [reads behind] at read
    cases read
    refine ⟨later, fun more => ?_⟩
    rw [List.append_assoc]
    exact reads _

theorem expect_of (follows : ∀ {rest}, before (lexeme :: rest) → after rest) :
    Carries edge before after (expect lexeme) := by
  intro lexemes value rest kind read
  obtain rfl := eq_cons_of_expect read
  exact ⟨follows kind, fun _ => expect_cons_self⟩

/-- A lexeme may come next with which a line begins. -/
theorem accept_bind {next : Bool → Reader β} (inline : lexeme.isInline = true)
    (differs : edge ≠ lexeme)
    (taken : Carries edge InsideLine after (next true))
    (kept : Carries edge WholeLines after (next false)) :
    Carries edge WholeLines after (accept lexeme >>= next) := by
  intro lexemes value rest lines read
  rw [bind_apply] at read
  by_cases isNext : lexemes.head? = some lexeme
  · obtain ⟨behind, rfl⟩ := List.head?_eq_some_iff.mp isNext
    rw [accept_cons_self] at read
    obtain ⟨kind, longer⟩ := taken _ _ _ (lines.line_append inline) read
    refine ⟨kind, fun more => ?_⟩
    rw [bind_apply, List.cons_append, accept_cons_self]
    exact longer more
  · rw [accept_of_head isNext] at read
    obtain ⟨kind, longer⟩ := kept _ _ _ lines read
    refine ⟨kind, fun more => ?_⟩
    have noNext : (lexemes ++ edge :: more).head? ≠ some lexeme := by
      cases lexemes with
      | nil => exact fun isEdge => differs (Option.some.inj isEdge)
      | cons first lexemes => exact isNext
    rw [bind_apply, accept_of_head noNext]
    exact longer more

theorem accept_ite {taken kept : Reader β} (inline : lexeme.isInline = true)
    (differs : edge ≠ lexeme)
    (carriesTaken : Carries edge InsideLine after taken)
    (carriesKept : Carries edge WholeLines after kept) :
    Carries edge WholeLines after
      (accept lexeme >>= fun found => if found = true then taken else kept) :=
  accept_bind inline differs carriesTaken carriesKept

/-- A repetition takes the same steps. The last one stops, perhaps only where the edge does not go on
with what is left. -/
theorem exists_of_repeatFrom {step : α → Reader (Option α)} (stops : List Lexeme → Prop)
    (steps : ∀ value lexemes next rest, before lexemes → step value lexemes = some (next, rest) →
      before rest ∧ ((next = none → stops rest) → ∀ behind,
        step value (lexemes ++ edge :: behind) = some (next, rest ++ edge :: behind)))
    {value last : α} {lexemes rest : List Lexeme} (kind : before lexemes)
    (read : Reader.repeatFrom step value lexemes = some (last, rest)) :
    before rest ∧ (stops rest → ∀ behind,
      Reader.repeatFrom step value (lexemes ++ edge :: behind) = some (last, rest ++ edge :: behind)) := by
  have within : ∀ {bound wider : List Lexeme} {value last : α} {lexemes rest : List Lexeme},
      bound.length ≤ wider.length → before lexemes →
      repeatWithin step bound value lexemes = some (last, rest) →
      before rest ∧ (stops rest → ∀ more, repeatWithin step wider value (lexemes ++ edge :: more) =
        some (last, rest ++ edge :: more)) := by
    intro bound
    induction bound with
    | nil =>
        intro wider value last lexemes rest _ kind read
        rcases repeatWithin_eq_some.mp read with ⟨isLast, rfl⟩ | ⟨_, _, _, _, split, -⟩
        · obtain ⟨kindRest, longer⟩ := steps _ _ _ _ kind isLast
          exact ⟨kindRest, fun stopsRest more =>
            repeatWithin_eq_some.mpr (.inl ⟨longer (fun _ => stopsRest) more, rfl⟩)⟩
        · cases split
    | cons first bound ih =>
        intro wider value last lexemes rest room kind read
        rcases repeatWithin_eq_some.mp read with
          ⟨isLast, rfl⟩ | ⟨_, _, next, behind, split, goesOn, read⟩
        · obtain ⟨kindRest, longer⟩ := steps _ _ _ _ kind isLast
          exact ⟨kindRest, fun stopsRest more =>
            repeatWithin_eq_some.mpr (.inl ⟨longer (fun _ => stopsRest) more, rfl⟩)⟩
        · cases split
          obtain ⟨kindBehind, longer⟩ := steps _ _ _ _ kind goesOn
          cases wider with
          | nil => exact (Nat.not_succ_le_zero _ room).elim
          | cons second wider =>
              obtain ⟨kindRest, longerRest⟩ := ih (Nat.le_of_succ_le_succ room) kindBehind read
              exact ⟨kindRest, fun stopsRest more => repeatWithin_eq_some.mpr
                (.inr ⟨_, _, _, _, rfl, longer nofun more, longerRest stopsRest more⟩)⟩
  obtain ⟨kindRest, -⟩ := within (Nat.le_refl lexemes.length) kind read
  refine ⟨kindRest, fun stopsRest more => (within ?_ kind read).2 stopsRest more⟩
  rw [List.length_append]
  exact Nat.le_add_right _ _

theorem repeatFrom {step : α → Reader (Option α)}
    (steps : ∀ value, Carries edge before before (step value)) {value : α} :
    Carries edge before before (repeatFrom step value) := by
  intro lexemes last rest kind read
  have always : ∀ value lexemes next rest, before lexemes → step value lexemes = some (next, rest) →
      before rest ∧ ((next = none → True) → ∀ behind,
        step value (lexemes ++ edge :: behind) = some (next, rest ++ edge :: behind)) := by
    intro value lexemes next rest kind read
    obtain ⟨kindRest, longer⟩ := steps value _ _ _ kind read
    exact ⟨kindRest, fun _ => longer⟩
  obtain ⟨kindRest, longer⟩ := exists_of_repeatFrom (fun _ => True) always kind read
  exact ⟨kindRest, longer trivial⟩

end Carries

theorem carries_expect (inline : lexeme.isInline = true) :
    Carries edge WholeLines InsideLine (expect lexeme) :=
  .expect_of fun lines => lines.line_append inline

theorem carries_dedent : Carries edge WholeLines WholeLines (expect .dedent) :=
  .expect_of fun lines => lines.behind_dedent

/-- A block that is closed is read with its end. -/
theorem CarriesClosed.closed {reader : Reader (List Stmt)} (carries : CarriesClosed edge reader) :
    Carries edge SomeLines WholeLines (do
      let body ← reader
      expect .dedent
      return body) := by
  intro lexemes body rest some read
  obtain ⟨⟨found, behind⟩, readBody, readEnd⟩ := Option.bind_eq_some_iff.mp read
  obtain ⟨⟨_, left⟩, isEnd, same⟩ := Option.bind_eq_some_iff.mp readEnd
  cases same
  obtain rfl := eq_cons_of_expect isEnd
  obtain ⟨lines, longer⟩ := carries _ _ _ some readBody
  refine ⟨lines.behind_dedent, fun more => ?_⟩
  refine Option.bind_eq_some_iff.mpr ⟨_, longer more, ?_⟩
  dsimp only
  rw [bind_apply, List.cons_append, expect_cons_self]
  rfl

theorem carries_block (carries : inner.Carries edge) :
    Carries edge InsideLine WholeLines (block inner) := by
  have indented : Carries edge WholeLines WholeLines (indentedBlock inner) := by
    unfold indentedBlock
    exact .bind (.expect_of fun lines => lines.behind_indent) fun _ => carries.blocks.closed
  have simple : Carries edge InsideLine WholeLines (simpleStatements inner) :=
    .of_takesLine (takesLine_simpleStatements carries.inline)
  rintro lexemes value rest ⟨inside, behind, inline, later, rfl⟩ read
  cases inside with
  | nil =>
      rw [List.nil_append, block_lineEnd] at read
      exact indented _ _ _ later read
  | cons first inside =>
      have start := inline first List.mem_cons_self
      rw [List.cons_append, block_inline start] at read
      obtain ⟨kind, longer⟩ := simple _ _ _ ⟨first :: inside, behind, inline, later, rfl⟩ read
      refine ⟨kind, fun more => ?_⟩
      rw [List.cons_append, List.cons_append, block_inline start]
      exact longer more

theorem carries_colonBlock (carries : inner.Carries edge) :
    Carries edge InsideLine WholeLines (colonBlock inner) :=
  .inline_bind InlineReader.expectSymbol fun _ => carries_block carries

theorem carries_elseBlock (carries : inner.Carries edge) :
    Carries edge WholeLines WholeLines (elseBlock inner) :=
  .accept_ite rfl (carries.ends.ne (by decide)) (carries_colonBlock carries) .pure

theorem carries_choiceBranch (carries : inner.Carries edge) :
    Carries edge InsideLine WholeLines (choiceBranch inner) :=
  .inline_bind (inlineReader_namedExpression carries.inline) fun _ =>
    (carries_colonBlock carries).bind fun _ => .pure

theorem carries_ifStatement (carries : inner.Carries edge) :
    Carries edge InsideLine WholeLines (ifStatement inner) := by
  have further : ∀ found, Carries edge WholeLines WholeLines (elifStep inner found) := fun _ =>
    .accept_ite rfl (carries.ends.ne (by decide))
      ((carries_choiceBranch carries).bind fun _ => .pure) .pure
  unfold ifStatement
  refine (carries_choiceBranch carries).bind fun first => .bind (.repeatFrom further) fun found => ?_
  refine (carries_elseBlock carries).bind fun otherwise => ?_
  cases found with
  | nil => exact .refuse
  | cons => exact .pure

theorem carries_whileStatement (carries : inner.Carries edge) :
    Carries edge InsideLine WholeLines (whileStatement inner) :=
  .inline_bind (inlineReader_namedExpression carries.inline) fun _ =>
    (carries_colonBlock carries).bind fun _ => (carries_elseBlock carries).bind fun _ => .pure

theorem carries_forStatement (carries : inner.Carries edge) (isAsync : Bool) :
    Carries edge InsideLine WholeLines (forStatement inner isAsync) :=
  .inline_bind (inlineReader_starTargets carries.inline.primary) fun _ =>
    .inline_bind InlineReader.expectKeyword fun _ =>
      .inline_bind (inlineReader_starExpressions carries.inline) fun _ =>
        (carries_colonBlock carries).bind fun _ => (carries_elseBlock carries).bind fun _ => .pure

theorem carries_withStatement (carries : inner.Carries edge) (isAsync : Bool) :
    Carries edge InsideLine WholeLines (withStatement inner isAsync) :=
  .bind (.of_line (lineReader_enteredItems carries.inline)) fun _ =>
    (carries_block carries).bind fun _ => .pure

theorem carries_handlerRest (carries : inner.Carries edge) (state : HandlerState) (isGroup : Bool)
    (kind : Option Expr) :
    Carries edge InsideLine WholeLines (handlerRest inner state isGroup kind) := by
  have finish : ∀ name : Option Name, Carries edge InsideLine WholeLines (do
      let body ← colonBlock inner
      return some (⟨.mk kind name body :: state.reversed, some isGroup⟩ : HandlerState)) := fun _ =>
    (carries_colonBlock carries).bind fun _ => .pure
  unfold handlerRest
  exact .ite (.inline_bind inlineReader_givenName finish) (finish none)

theorem carries_readHandler (carries : inner.Carries edge) (state : HandlerState) :
    Carries edge WholeLines WholeLines (readHandler inner state) := by
  unfold readHandler
  refine .accept_ite rfl (carries.ends.ne (by decide))
    (.inline_bind (InlineReader.acceptSymbol rfl) fun isGroup => ?_) .pure
  refine .require_bind (.inline_bind (InlineReader.nextIs rfl) fun isColon => ?_)
  refine .ite (carries_handlerRest carries state isGroup none) ?_
  exact .inline_bind (inlineReader_present carries.inline) fun kind =>
    carries_handlerRest carries state isGroup kind

theorem carries_tryRest (carries : inner.Carries edge) (body : List Stmt) (state : HandlerState)
    (otherwise : List Stmt) :
    Carries edge WholeLines WholeLines (tryRest inner body state otherwise) := by
  have nothing : Carries edge WholeLines WholeLines (Pure.pure [] : Reader (List Stmt)) := .pure
  unfold tryRest
  refine .accept_bind rfl (carries.ends.ne (by decide)) ?_ ?_
  · exact (carries_colonBlock carries).bind fun _ => .require_bind .pure
  · exact nothing.bind fun _ => .require_bind .pure

theorem carries_tryStatement (carries : inner.Carries edge) :
    Carries edge InsideLine WholeLines (tryStatement inner) := by
  unfold tryStatement
  refine (carries_colonBlock carries).bind fun body => ?_
  refine .bind (.repeatFrom fun state => carries_readHandler carries state) fun state => ?_
  refine .ite ?_ ?_
  · exact carries_tryRest carries body state []
  · exact (carries_elseBlock carries).bind fun otherwise => carries_tryRest carries body state otherwise

theorem carries_functionStatement (carries : inner.Carries edge) (isAsync : Bool) (decorators : List Expr) :
    Carries edge InsideLine WholeLines (functionStatement inner isAsync decorators) := by
  unfold functionStatement
  refine .inline_bind InlineReader.expectName fun name => ?_
  refine .inline_bind InlineReader.expectSymbol fun _ => ?_
  refine .inline_bind (inlineReader_readParameters carries.inline true .rightParen)
    fun parameters => ?_
  refine .inline_bind InlineReader.expectSymbol fun _ => ?_
  have finish : ∀ hint : Option Expr, Carries edge InsideLine WholeLines
      (do return Stmt.functionDef isAsync name parameters hint decorators (← colonBlock inner)) :=
    fun _ => (carries_colonBlock carries).bind fun _ => .pure
  refine .inline_bind (InlineReader.acceptSymbol rfl) fun isHinted => .ite ?_ (finish none)
  exact .inline_bind (inlineReader_present carries.inline) finish

theorem carries_classStatement (carries : inner.Carries edge) (decorators : List Expr) :
    Carries edge InsideLine WholeLines (classStatement inner decorators) := by
  unfold classStatement
  refine .inline_bind InlineReader.expectName fun name => ?_
  have finish : ∀ (bases : List Expr) (named : List NamedArgument), Carries edge InsideLine WholeLines
      (do return Stmt.classDef name bases named decorators (← colonBlock inner)) :=
    fun _ _ => (carries_colonBlock carries).bind fun _ => .pure
  refine .inline_bind (InlineReader.acceptSymbol rfl) fun hasBases => .ite ?_ (finish [] [])
  exact .inline_bind (inlineReader_readArguments carries.inline .start) fun found =>
    finish found.1 found.2

/-- Decorators stand on lines of their own. -/
theorem carries_readDecorators (carries : inner.Carries edge) :
    Carries edge WholeLines WholeLines (readDecorators inner) := by
  have lineEnd : Carries edge InsideLine WholeLines (expect .lineEnd) := by
    refine .expect_of fun {rest} line => ?_
    obtain ⟨inside, behind, inline, later, split⟩ := line
    cases inside with
    | nil =>
        cases split
        exact later
    | cons first inside =>
        cases split
        cases inline _ List.mem_cons_self
  unfold readDecorators
  refine .bind (.repeatFrom fun found => ?_) fun _ => .pure
  refine .accept_ite rfl (carries.ends.ne (by decide)) ?_ .pure
  exact .inline_bind (inlineReader_namedExpression carries.inline) fun _ => lineEnd.bind fun _ => .pure

theorem carries_definition (carries : inner.Carries edge) :
    Carries edge WholeLines WholeLines (definition inner) := by
  unfold definition
  refine (carries_readDecorators carries).bind fun decorators =>
    .accept_ite rfl (carries.ends.ne (by decide)) (carries_classStatement carries decorators) ?_
  refine .accept_bind rfl (carries.ends.ne (by decide)) ?_ ?_
  · exact .inline_bind InlineReader.expectKeyword fun _ =>
      carries_functionStatement carries true decorators
  · exact (carries_expect rfl).bind fun _ => carries_functionStatement carries false decorators

theorem carries_asyncStatement (carries : inner.Carries edge) :
    Carries edge WholeLines WholeLines (asyncStatement inner) := by
  unfold asyncStatement
  refine (carries_expect rfl).bind fun _ => ?_
  refine .inline_bind InlineReader.acceptKeyword fun isLoop => .ite
    (carries_forStatement carries true) ?_
  refine .inline_bind InlineReader.acceptKeyword fun isWith => .ite
    (carries_withStatement carries true) ?_
  exact .inline_bind InlineReader.expectKeyword fun _ => carries_functionStatement carries true []

theorem carries_matchRest (carries : inner.Carries edge) (subject : Expr) :
    Carries edge WholeLines WholeLines (matchRest inner subject) := by
  have further : ∀ found, Carries edge WholeLines WholeLines (readCase inner found) := by
    intro found
    have finish : ∀ (pattern : Pattern) (guard : Option Expr), Carries edge InsideLine WholeLines
        (do return some (MatchCase.mk pattern guard (← colonBlock inner) :: found)) :=
      fun _ _ => (carries_colonBlock carries).bind fun _ => .pure
    have guard : InlineReader (fun _ => 0) (some <$> namedExpression inner) :=
      .map (inlineReader_namedExpression carries.inline).free
    unfold readCase
    refine .accept_bind rfl (carries.ends.ne (by decide)) ?_ .pure
    refine .inline_bind (inlineReader_casePattern carries.inline) fun pattern => ?_
    exact .inline_bind InlineReader.acceptKeyword fun isGuarded => .ite
      (.inline_bind guard (finish pattern)) (finish pattern none)
  exact .bind (.repeatFrom further) fun _ => carries_dedent.bind fun _ => .pure

/-- A line that opens a choice by shape still opens one, and so does no other line. -/
theorem carries_matchOrSimple (carries : inner.Carries edge) :
    Carries edge InsideLine WholeLines (matchOrSimple inner) := by
  rintro lexemes value rest ⟨inside, behind, inline, later, rfl⟩ read
  have split : ∀ more, inside ++ .lineEnd :: behind ++ edge :: more =
      inside ++ .lineEnd :: (behind ++ edge :: more) := by
    intro more
    rw [List.append_assoc, List.cons_append]
  have asSimple : matchHead inner (inside ++ .lineEnd :: behind) = none →
      (∀ more, matchHead inner (inside ++ .lineEnd :: (behind ++ edge :: more)) = none) →
      WholeLines rest ∧ ∀ more, matchOrSimple inner (inside ++ .lineEnd :: behind ++ edge :: more) =
        some (value, rest ++ edge :: more) := by
    intro noChoice noChoiceMore
    unfold matchOrSimple at read
    rw [noChoice] at read
    obtain ⟨kind, longer⟩ := Carries.of_takesLine (takesLine_simpleStatements carries.inline) _ _ _
      ⟨inside, behind, inline, later, rfl⟩ read
    refine ⟨kind, fun more => ?_⟩
    unfold matchOrSimple
    rw [split, noChoiceMore, ← split]
    exact longer more
  rcases inlineReader_matchSubject carries.inline inside with
    refuses | ⟨subject, taken, kept, isTaken, -, reads⟩
  · rw [matchHead_eq] at asSimple
    refine asSimple ?_ fun more => ?_
    · rw [bind_apply, refuses .lineEnd behind rfl, Option.bind_none]
    · rw [bind_apply, refuses .lineEnd _ rfl, Option.bind_none]
  have head : ∀ behind, matchHead inner (inside ++ .lineEnd :: behind) =
      matchHeadEnd subject (kept ++ .lineEnd :: behind) := by
    intro behind
    rw [matchHead_eq, bind_apply, reads .lineEnd behind rfl]
    rfl
  have inlineKept : Inline kept := fun lexeme member =>
    inline lexeme (isTaken ▸ List.mem_append_right _ member)
  cases ends : matchHeadEnd subject (kept ++ .lineEnd :: behind) with
  | none =>
      refine asSimple ((head _).trans ends) fun more => (head _).trans ?_
      cases endsMore : matchHeadEnd subject (kept ++ .lineEnd :: (behind ++ edge :: more)) with
      | none => rfl
      | some answer =>
          obtain ⟨-, splitMore, isCase⟩ := matchHeadEnd_eq_some.mp endsMore
          obtain ⟨rfl, isIndent⟩ := eq_of_line inlineKept splitMore
          cases behind with
          | nil => exact absurd (List.cons.inj isIndent).1 (carries.ends.ne (by decide))
          | cons edge behind =>
              obtain ⟨rfl, atCase⟩ := List.cons.inj isIndent
              obtain ⟨first, others, rfl⟩ := List.exists_cons_of_ne_nil later.behind_indent.1
              rw [← atCase] at isCase
              have isChoice : matchHeadEnd subject ([.symbol .colon] ++ .lineEnd :: .indent ::
                  first :: others) = some (subject, first :: others) :=
                matchHeadEnd_eq_some.mpr ⟨rfl, rfl, isCase⟩
              cases isChoice.symm.trans ends
  | some answer =>
      obtain ⟨answer, cases⟩ := answer
      obtain ⟨rfl, splitBehind, isCase⟩ := matchHeadEnd_eq_some.mp ends
      obtain ⟨rfl, rfl⟩ := eq_of_line inlineKept splitBehind
      obtain ⟨first, others, rfl⟩ := List.exists_cons_of_ne_nil later.behind_indent.1
      unfold matchOrSimple at read
      rw [head, ends] at read
      obtain ⟨⟨stmt, last⟩, readRest, same⟩ := Option.map_eq_some_iff.mp read
      cases same
      obtain ⟨kind, longer⟩ := carries_matchRest carries answer _ _ _ later.behind_indent.2 readRest
      refine ⟨kind, fun more => ?_⟩
      have endsMore : matchHeadEnd answer ([.symbol .colon] ++ .lineEnd ::
          (.indent :: first :: others ++ edge :: more)) =
            some (answer, first :: others ++ edge :: more) :=
        matchHeadEnd_eq_some.mpr ⟨rfl, rfl, isCase⟩
      unfold matchOrSimple
      rw [split, head, endsMore]
      exact Option.map_eq_some_iff.mpr ⟨_, longer more, rfl⟩

/-- **A statement is read alike** where the end of a block stands behind the last line. -/
theorem carries_statement (carries : inner.Carries edge) :
    Carries edge SomeLines WholeLines (statement inner) := by
  have one : ∀ {before} {reader : Reader Stmt}, Carries edge before WholeLines reader →
      Carries edge before WholeLines (do return [← reader]) := fun reads => reads.bind fun _ => .pure
  rintro lexemes value rest ⟨held, lines⟩ read
  obtain ⟨start, lexemes, rfl⟩ := List.exists_cons_of_ne_nil held
  cases isInline : start.isInline with
  | false =>
      rw [statement_of_edge carries.inline isInline] at read
      cases read
  | true =>
  have line := lines.line_append isInline
  -- A statement is read by its own reader behind the word that it begins with.
  have through {reader : Reader (List Stmt)}
      (same : ∀ lexemes, statement inner (start :: lexemes) = reader lexemes)
      (reads : Carries edge InsideLine WholeLines reader) :
      WholeLines rest ∧ ∀ more, statement inner (start :: lexemes ++ edge :: more) =
        some (value, rest ++ edge :: more) := by
    rw [same] at read
    obtain ⟨kind, longer⟩ := reads _ _ _ line read
    exact ⟨kind, fun more => (same _).trans (longer more)⟩
  have whole {before : List Lexeme → Prop} {reader : Reader (List Stmt)}
      (reads : Carries edge before WholeLines reader) (kind : before (start :: lexemes))
      (same : ∀ lexemes, statement inner (start :: lexemes) = reader (start :: lexemes)) :
      WholeLines rest ∧ ∀ more, statement inner (start :: lexemes ++ edge :: more) =
        some (value, rest ++ edge :: more) := by
    rw [same] at read
    obtain ⟨kind, longer⟩ := reads _ _ _ kind read
    exact ⟨kind, fun more => (same _).trans (longer more)⟩
  have asSimple (same : ∀ lexemes, statement inner (start :: lexemes) =
      simpleStatements inner (start :: lexemes)) :=
    whole (.of_takesLine (takesLine_simpleStatements carries.inline)) (line.cons isInline) same
  cases start with
  | lineEnd | indent | dedent => cases isInline
  | number _ => exact asSimple fun _ => rfl
  | string _ => exact asSimple fun _ => rfl
  | name name => exact whole (carries_matchOrSimple carries) (line.cons isInline) fun _ => rfl
  | symbol symbol =>
      cases symbol with
      | operator operator =>
          cases operator with
          | matrixMultiply => exact whole (one (carries_definition carries)) lines fun _ => rfl
          | _ => exact asSimple fun _ => rfl
      | _ => exact asSimple fun _ => rfl
  | keyword word =>
      cases word with
      | ifWord => exact through (fun _ => rfl) (one (carries_ifStatement carries))
      | whileWord => exact through (fun _ => rfl) (one (carries_whileStatement carries))
      | forWord => exact through (fun _ => rfl) (one (carries_forStatement carries false))
      | withWord => exact through (fun _ => rfl) (one (carries_withStatement carries false))
      | tryWord => exact through (fun _ => rfl) (one (carries_tryStatement carries))
      | asyncWord => exact whole (one (carries_asyncStatement carries)) lines fun _ => rfl
      | defWord => exact whole (one (carries_definition carries)) lines fun _ => rfl
      | classWord => exact whole (one (carries_definition carries)) lines fun _ => rfl
      | _ => exact asSimple fun _ => rfl

/-- The statements of a block are read alike where the block is closed. -/
theorem carriesClosed_statements (carries : inner.Carries edge) :
    CarriesClosed edge (statements inner) := by
  have further : ∀ found lexemes next rest, WholeLines lexemes →
      blockStep inner found lexemes = some (next, rest) →
      WholeLines rest ∧ ((next = none → rest.head? = some .dedent) → ∀ behind,
        blockStep inner found (lexemes ++ edge :: behind) = some (next, rest ++ edge :: behind)) := by
    intro found lexemes next rest lines read
    cases next with
    | none =>
        obtain ⟨rfl, -⟩ := eq_of_blockStep_none read
        refine ⟨lines, fun isEnd more => blockStep_stop (.inr ?_)⟩
        rw [List.head?_append, isEnd rfl]
        rfl
    | some next =>
        obtain ⟨first, tail, body, rfl, noDedent, readBody, rfl⟩ := exists_of_blockStep_some read
        obtain ⟨kind, longer⟩ :=
          carries_statement carries _ _ _ ⟨List.cons_ne_nil _ _, lines⟩ readBody
        exact ⟨kind, fun _ more => blockStep_of_statement noDedent (longer more)⟩
  intro lexemes body rest some read
  obtain ⟨⟨first, behind⟩, readFirst, readMore⟩ := Option.bind_eq_some_iff.mp read
  obtain ⟨⟨found, left⟩, readSteps, same⟩ := Option.bind_eq_some_iff.mp readMore
  cases same
  obtain ⟨lines, longerFirst⟩ := carries_statement carries _ _ _ some readFirst
  obtain ⟨linesRest, longerSteps⟩ := Carries.exists_of_repeatFrom _ further lines readSteps
  refine ⟨linesRest, fun more => Option.bind_eq_some_iff.mpr ⟨_, longerFirst more, ?_⟩⟩
  exact Option.bind_eq_some_iff.mpr ⟨_, longerSteps rfl more, rfl⟩

theorem Inner.carries_ofDepth (ends : EndsStatement edge) (depth : Nat) :
    (Inner.ofDepth depth).Carries edge := by
  induction depth with
  | zero => exact ⟨isInline_ofDepth 0, ends, fun _ _ _ _ read => nomatch read⟩
  | succ depth ih => exact ⟨isInline_ofDepth _, ends, carriesClosed_statements ih⟩

/-- **The statements of a program are read in front of the end of a block**, and in front of a line
that returns. -/
theorem ReadsStatements.carry {depth : Nat} {body : List Stmt} (ends : EndsStatement edge)
    (lines : WholeLines lexemes) (reads : ReadsStatements (Inner.ofDepth depth) lexemes body rest)
    (behind : List Lexeme) : ReadsStatements (Inner.ofDepth depth) (lexemes ++ edge :: behind) body
      (rest ++ edge :: behind) := by
  induction reads with
  | none => exact .none
  | more read goesOn shorter _ ih =>
      obtain ⟨kind, longer⟩ := carries_statement (Inner.carries_ofDepth ends depth) _ _ _
        ⟨List.cons_ne_nil _ _, lines⟩ read
      refine .more (longer behind) goesOn ?_ (ih kind)
      change _ ≤ (_ ++ _ : List Lexeme).length
      rw [List.length_append, List.length_append]
      exact Nat.add_le_add_right shorter _

end Stencil.Script
