import Stencil.Proofs.Source.Classification
import Stencil.Source.Requests

/-! # Answers to requests

A request that fails leaves the generator as it was, whatever its steps have done before
(`Stencil.state_of_answer_error`). A token fails for one reason only, that no block is open where its
statement would leave one (`Stencil.answer_emit_error_iff`), and fragments make a render program when
all blocks are closed and the program without its names can be read
(`Stencil.answer_assemble_ok_iff`). So the names of a generator are at any time those of the last
program that it has made (`Stencil.answer_reached`).
-/

namespace Stencil

open Script Source CodePoint Text

variable {generator after : Generator} {request : Request} {rest : List Request}
  {content answered : Text} {blocks : List OpenBlock} {fragments : List Text} {fault : SourceError}
  {token : Token}

/-- What a change of the open blocks makes of the state: when the change fails, the state stays. -/
def changed {α : Type} (generator : Generator) (result : Except BlockFault (α × List OpenBlock)) :
    EStateM.Result SourceError Generator α :=
  match result with
  | .ok (found, blocks) => .ok found { generator with blocks := blocks }
  | .error fault => .error (.block fault) generator

namespace Source.Step

theorem bind_apply {α β : Type} (step : Step α) (next : α → Step β) :
    (step >>= next) generator = match step generator with
      | .ok found after => next found after
      | .error fault after => .error fault after := by
  change EStateM.bind step next generator = _
  unfold EStateM.bind
  cases step generator <;> rfl

theorem topWord_apply : topWord generator = .ok (Source.topWord generator.blocks) generator := rfl

theorem popBlock_apply (statement : Text) (generator : Generator) :
    popBlock statement generator = changed generator (Source.popBlock statement generator.blocks) := by
  obtain ⟨blocks, names⟩ := generator
  cases blocks <;> rfl

/-- The choice of the last case is taken off the stack when nothing can fail any more. -/
theorem closeBlock_apply (generator : Generator) :
    closeBlock generator =
      changed generator ((Source.closeBlock generator.blocks).map fun left => ((), left)) := by
  obtain ⟨blocks, names⟩ := generator
  cases blocks with
  | nil => rfl
  | cons innermost outer =>
      rw [closeBlock_cons, closeBlock, bind_apply, popBlock_apply, Source.popBlock, changed]
      dsimp only
      rw [bind_apply, topWord_apply]
      dsimp only
      split <;> rfl

theorem leaveContinued_apply (first : Text) (generator : Generator) :
    leaveContinued first generator =
      changed generator ((Source.leaveContinued first generator.blocks).map fun left => ((), left)) := by
  unfold leaveContinued Source.leaveContinued
  dsimp only
  rw [bind_apply, topWord_apply]
  dsimp only
  split
  · obtain ⟨blocks, names⟩ := generator
    cases blocks <;> rfl
  · rfl

theorem emitControl_apply (content : Text) (generator : Generator) :
    emitControl content generator =
      changed generator (Source.emitControl content generator.blocks) := by
  unfold emitControl Source.emitControl
  cases codeLines content with
  | nil => rfl
  | cons first rest =>
      dsimp only
      split
      · rw [bind_apply, closeBlock_apply]
        cases Source.closeBlock generator.blocks <;> rfl
      · rw [bind_apply, leaveContinued_apply]
        cases Source.leaveContinued first generator.blocks <;> rfl

theorem collectNames_apply (body : Text) :
    collectNames body generator = match unboundNames body with
      | .ok names => .ok names generator
      | .error fault => .error (.program fault) generator := by
  unfold collectNames
  cases unboundNames body <;> rfl

end Source.Step

/-- A token is answered as it is emitted. -/
theorem answer_emit (token : Token) (generator : Generator) :
    (Request.emit token).answer generator = match generator.emit token with
      | .ok (fragment, after) => .ok fragment after
      | .error fault => .error fault generator := by
  have emitted : (Request.emit token).answer generator =
      changed generator (Source.emit token generator.blocks) := by
    obtain ⟨kind, content, offset⟩ := token
    cases kind with
    | literal => rfl
    | expression => rfl
    | control => exact Step.emitControl_apply content generator
  rw [emitted, Generator.emit]
  cases Source.emit token generator.blocks <;> rfl

/-- Fragments are answered as they are assembled. -/
theorem answer_assemble (fragments : List Text) (generator : Generator) :
    (Request.assemble fragments).answer generator = match generator.assemble fragments with
      | .ok (code, after) => .ok code after
      | .error fault => .error fault generator := by
  obtain ⟨blocks, names⟩ := generator
  unfold Request.answer Step.assemble Generator.assemble
  cases blocks with
  | cons innermost outer => rfl
  | nil =>
      change (Step.collectNames fragments.flatten >>= _) _ = _
      rw [Step.bind_apply, Step.collectNames_apply]
      dsimp only
      cases unboundNames fragments.flatten <;> rfl

/-- **A request that fails leaves the state as it was.** -/
theorem state_of_answer_error (failed : request.answer generator = .error fault after) :
    after = generator := by
  cases request with
  | emit token =>
      rw [answer_emit] at failed
      split at failed
      · cases failed
      · cases failed
        rfl
  | assemble fragments =>
      rw [answer_assemble] at failed
      split at failed
      · cases failed
      · cases failed
        rfl

/-- A statement needs an open block: its first line that holds anything is `end`, or it begins with the
word of a continuation. -/
def NeedsBlock (content : Text) : Prop :=
  ∃ line ∈ (heldLines (restore content)).head?,
    IsWordAlone endWord line ∨ ∃ word ∈ continuationWords, BeginsWith word line

instance (content : Text) : Decidable (NeedsBlock content) :=
  inferInstanceAs (Decidable (∃ _ ∈ _, _))

theorem emitControl_error_iff :
    (∃ fault, emitControl content blocks = .error fault) ↔ blocks = [] ∧ NeedsBlock content := by
  unfold NeedsBlock
  rcases emitControl_cases content blocks with ⟨empty, emitted⟩ | ⟨line, rest, split, -, treated⟩
  · rw [empty, emitted]
    simp
  · rw [split, List.head?_cons]
    rcases treated with ⟨isEnd, emitted⟩ | ⟨continues, emitted⟩ | ⟨noEnd, stays, emitted⟩
    · unfold ClosesBlock at emitted
      rw [emitted]
      rcases closeBlock_cases blocks with ⟨left, closes⟩ | ⟨rfl, fails⟩
      · rw [closes]
        constructor
        · rintro ⟨_, failed⟩
          cases failed
        · rintro ⟨rfl, -⟩
          cases closes
      · rw [fails]
        constructor
        · intro _
          exact ⟨rfl, line, rfl, .inl isEnd⟩
        · intro _
          exact ⟨_, rfl⟩
    · rw [emitted]
      cases blocks with
      | nil =>
          constructor
          · intro _
            rcases continues with isContinuation | ⟨-, isTop⟩
            · exact ⟨rfl, line, rfl, .inr isContinuation⟩
            · cases isTop
          · intro _
            exact ⟨_, rfl⟩
      | cons innermost outer =>
          constructor
          · rintro ⟨_, failed⟩
            cases failed
          · rintro ⟨closed, -⟩
            cases closed
    · rw [emitted]
      constructor
      · rintro ⟨_, failed⟩
        cases failed
      · rintro ⟨-, first, isFirst, needs⟩
        cases isFirst
        rcases needs with isEnd | isContinuation
        · exact (noEnd isEnd).elim
        · exact (stays (.inl isContinuation)).elim

/-- **A token fails just when it is a statement that needs an open block and there is none.** -/
theorem answer_emit_error_iff :
    (∃ fault after, (Request.emit token).answer generator = .error fault after) ↔
      generator.blocks = [] ∧ token.kind = .control ∧ NeedsBlock token.content := by
  have failed : (∃ fault after, (Request.emit token).answer generator = .error fault after) ↔
      ∃ fault, Source.emit token generator.blocks = .error fault := by
    rw [answer_emit, Generator.emit]
    cases Source.emit token generator.blocks <;> simp
  rw [failed]
  obtain ⟨kind, content, offset⟩ := token
  cases kind with
  | literal => simp [Source.emit]
  | expression => simp [Source.emit]
  | control => simpa [Source.emit] using emitControl_error_iff

theorem names_of_answer_emit (made : (Request.emit token).answer generator = .ok answered after) :
    after.names = generator.names := by
  rw [answer_emit, Generator.emit] at made
  cases emitted : Source.emit token generator.blocks with
  | error fault =>
      rw [emitted] at made
      cases made
  | ok found =>
      rw [emitted] at made
      cases made
      rfl

/-- Some names are those that the program of some fragments reads and never binds. -/
def AreFreeNames (fragments : List Text) (names : List Name) : Prop :=
  ∃ program, readProgram (prologue ++ fragments.flatten ++ epilogue) = .ok program ∧
    names = sortedSet (NameUse.ofProgram program).free

/-- **Fragments make a render program just when no block is open and the program without its names
can be read** and is not too deep for the walk that gathers them. The blocks stay as they are, and
the names are those that the program reads and never binds. -/
theorem answer_assemble_ok_iff :
    (Request.assemble fragments).answer generator = .ok answered after ↔
      generator.blocks = [] ∧ ∃ program,
        readProgram (prologue ++ fragments.flatten ++ epilogue) = .ok program ∧
          programDepth program ≤ walkLimit ∧
          answered = boundProgram (NameUse.ofProgram program) fragments.flatten ∧
          after = { generator with names := sortedSet (NameUse.ofProgram program).free } := by
  obtain ⟨blocks, names⟩ := generator
  rw [answer_assemble, Generator.assemble]
  cases blocks with
  | cons innermost outer => simp
  | nil =>
      unfold unboundNames
      dsimp only
      cases readProgram (prologue ++ fragments.flatten ++ epilogue) with
      | error fault => simp [bind, Except.bind]
      | ok program =>
          rw [show (Except.ok program >>= gatherNames) = gatherNames program from rfl, gatherNames]
          by_cases shallow : programDepth program ≤ walkLimit
          · simp [shallow, eq_comm]
          · simp [shallow]

/-- The state behind some requests to a new generator, failed ones among them. -/
def reached (requests : List Request) : Generator := (answerAll .start requests).2

/-- The fragments that a request makes a render program of, if it asks for one. -/
def assembledBy : Request → List (List Text)
  | .emit _ => []
  | .assemble fragments => [fragments]

/-- The fragments of the render programs that are made on some requests, in order. -/
def assembled (generator : Generator) (requests : List Request) : List (List Text) :=
  (requests.zip (answerAll generator requests).1).flatMap fun
    | (request, .ok _) => assembledBy request
    | (_, .error _) => []

/-- A failed request is as good as none. -/
theorem answerAll_of_error (failed : request.answer generator = .error fault after) :
    assembled generator (request :: rest) = assembled generator rest ∧
      (answerAll generator (request :: rest)).2 = (answerAll generator rest).2 := by
  obtain rfl := state_of_answer_error failed
  have whole : answerAll after (request :: rest) =
      (.error fault :: (answerAll after rest).1, (answerAll after rest).2) := by
    rw [answerAll, failed]
  unfold assembled
  rw [whole]
  simp

theorem answerAll_of_ok (made : request.answer generator = .ok answered after) :
    assembled generator (request :: rest) = assembledBy request ++ assembled after rest ∧
      (answerAll generator (request :: rest)).2 = (answerAll after rest).2 := by
  have whole : answerAll generator (request :: rest) =
      (.ok answered :: (answerAll after rest).1, (answerAll after rest).2) := by
    rw [answerAll, made]
  unfold assembled
  rw [whole]
  cases request <;> simp [assembledBy]

/-- **The names of a generator are those of the last program that it has made.** -/
theorem names_answerAll (requests : List Request) (generator : Generator) :
    (assembled generator requests = [] → (answerAll generator requests).2.names = generator.names) ∧
      ∀ fragments ∈ (assembled generator requests).getLast?,
        AreFreeNames fragments (answerAll generator requests).2.names := by
  induction requests generalizing generator with
  | nil => exact ⟨fun _ => rfl, fun _ isLast => nomatch isLast⟩
  | cons request rest ih =>
      cases answers : request.answer generator with
      | error fault after =>
          obtain ⟨same, state⟩ := @answerAll_of_error _ _ _ rest _ answers
          rw [same, state]
          exact ih generator
      | ok answered after =>
          obtain ⟨same, state⟩ := @answerAll_of_ok _ _ _ rest _ answers
          rw [same, state]
          cases request with
          | emit token =>
              rw [← names_of_answer_emit answers]
              exact ih after
          | assemble fragments =>
              obtain ⟨-, program, read, -, -, names⟩ := answer_assemble_ok_iff.mp answers
              constructor
              · intro empty
                cases empty
              · intro last isLast
                cases others : assembled after rest with
                | nil =>
                    rw [others] at isLast
                    cases isLast
                    rw [(ih after).1 others, names]
                    exact ⟨program, read, rfl⟩
                | cons next more =>
                    rw [others] at isLast
                    exact (ih after).2 last (others ▸ isLast)

/-- **Failures are exact, and they change nothing.** In the state behind any requests, failed ones
among them, a token fails just when it needs an open block and there is none; fragments make a render
program just when no block is open and the program without its names can be read and is not too deep
for the walk that gathers them, and the blocks stay as they are. A request that fails leaves the
state as it was, so the names are those that the last program reads and never binds, and none before
the first one. -/
theorem answer_reached (requests : List Request) :
    (∀ token, (∃ fault after, (Request.emit token).answer (reached requests) = .error fault after) ↔
      (reached requests).blocks = [] ∧ token.kind = .control ∧ NeedsBlock token.content) ∧
    (∀ fragments,
      (∃ code after, (Request.assemble fragments).answer (reached requests) = .ok code after) ↔
        (reached requests).blocks = [] ∧
          ∃ program, readProgram (prologue ++ fragments.flatten ++ epilogue) = .ok program ∧
            programDepth program ≤ walkLimit) ∧
    (∀ fragments code after, (Request.assemble fragments).answer (reached requests) = .ok code after →
      after.blocks = (reached requests).blocks) ∧
    (∀ (request : Request) fault after, request.answer (reached requests) = .error fault after →
      after = reached requests) ∧
    (assembled .start requests = [] → (reached requests).names = []) ∧
    ∀ fragments ∈ (assembled .start requests).getLast?,
      AreFreeNames fragments (reached requests).names := by
  refine ⟨fun token => answer_emit_error_iff, fun fragments => ?_, ?_, ?_, ?_⟩
  · constructor
    · rintro ⟨code, after, made⟩
      obtain ⟨closed, program, read, shallow, -⟩ := answer_assemble_ok_iff.mp made
      exact ⟨closed, program, read, shallow⟩
    · rintro ⟨closed, program, read, shallow⟩
      exact ⟨_, _, answer_assemble_ok_iff.mpr ⟨closed, program, read, shallow, rfl, rfl⟩⟩
  · intro fragments code after made
    obtain ⟨-, program, -, -, -, rfl⟩ := answer_assemble_ok_iff.mp made
    rfl
  · intro request fault after failed
    exact state_of_answer_error failed
  · exact names_answerAll requests .start

theorem answer_reached_stray_end :
    ∃ fault, (Request.emit ⟨.control, text " end  # again ", 0⟩).answer
        (reached [.emit ⟨.control, text "if x:", 0⟩, .emit ⟨.control, text "end", 0⟩]) =
      .error fault
        (reached [.emit ⟨.control, text "if x:", 0⟩, .emit ⟨.control, text "end", 0⟩]) := by
  have whole := answer_reached [.emit ⟨.control, text "if x:", 0⟩, .emit ⟨.control, text "end", 0⟩]
  obtain ⟨fault, after, failed⟩ :=
    (whole.1 ⟨.control, text " end  # again ", 0⟩).mpr ⟨rfl, rfl, by decide⟩
  have same := whole.2.2.2.1 _ fault after failed
  exact ⟨fault, same ▸ failed⟩

end Stencil
