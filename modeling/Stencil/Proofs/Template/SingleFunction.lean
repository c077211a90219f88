import Stencil.Proofs.Source.BoundProgram
import Stencil.Proofs.Source.RenderFunction
import Stencil.Proofs.Template.Compilation

/-! # A compiled template is a single function

Directives become part of a program as they stand, and yet that program is the definition of one
render function: the fragments are lines of its body, from the line that makes the list of what is
written to the line that gives it back, so a template is made without running any of them
(`Stencil.compile_single`). This takes directives that keep to the body. An expression that closes
the call around it and goes on at the margin leaves the function and defines another one
(`Stencil.compile_leaves_function`).
-/

namespace Stencil

open Script Run Source CodePoint Text

variable {markers : Markers} {name : Option Text} {source : Text} {compiled : Compiled}

/-- The program of a template whose directives keep to the body is one render function. -/
theorem exists_program_of_compile {tokens : List Token}
    (isCompiled : compile markers name source = .ok compiled)
    (tokenized : tokenize markers name (normalize source) = .ok tokens)
    (keeps : ∀ token ∈ tokens, token.KeepsToBody) :
    ∃ inside : List Stmt, compiled.program =
      [renderDefinition (bufferStatement :: appendStatement :: (inside ++ [finishStatement]))] := by
  obtain ⟨found, fragments, unbound, names, tokenizedAgain, emitted, read, -, code, executable⟩ :=
    exists_of_compile isCompiled
  rw [tokenized] at tokenizedAgain
  cases tokenizedAgain
  have plain : ∀ token ∈ tokens, token.kind = .literal → lineFeed ∉ token.content :=
    fun token member literal inside => ne_lineFeed_of_mem_normalize
      (mem_of_mem_literal (scanFrom_of_tokenize tokenized) member literal inside) rfl
  have lines : BodyLines ((sortedSet (NameUse.ofProgram unbound).referenced).flatMap bindingLine ++
      fragments.flatten) :=
    (bodyLines_bindings read).append (BodyLines.flatten (bodyLines_of_emitAll emitted plain keeps))
  obtain ⟨readCode, -⟩ := readProgram_of_executableProgram executable
  rw [code, boundProgram, List.append_assoc prologue] at readCode
  exact exists_program_eq lines readCode

/-- The render function of a template whose directives keep to the body takes the names that the
directives read from the context, in front of the statements that it has without these lines. -/
theorem exists_bound_of_compile {tokens : List Token} {fragments : List Text} {generator : Generator}
    {uses : NameUse} (isCompiled : compile markers name source = .ok compiled)
    (tokenized : tokenize markers name (normalize source) = .ok tokens)
    (keeps : ∀ token ∈ tokens, token.KeepsToBody)
    (emitted : Generator.start.emitAll tokens = .ok (fragments, generator))
    (used : unboundNames fragments.flatten = .ok uses) :
    ∃ inside : List Stmt,
      uses = NameUse.ofProgram [renderDefinition (bufferStatement :: appendStatement :: inside)] ∧
      compiled.program = [renderDefinition (bufferStatement :: appendStatement ::
        ((sortedSet uses.referenced).map bindingStatement ++ inside))] ∧
      isExecutable compiled.program = true := by
  obtain ⟨written, single⟩ := exists_program_of_compile isCompiled tokenized keeps
  obtain ⟨found, pieces, unbound, after, tokenizedAgain, emittedAgain, read, -, code, executable⟩ :=
    exists_of_compile isCompiled
  cases tokenized.symm.trans tokenizedAgain
  cases emitted.symm.trans emittedAgain
  obtain ⟨_, readAgain, -, rfl⟩ := unboundNames_eq_ok_iff.mp used
  cases read.symm.trans readAgain
  obtain ⟨inside, others, isUnbound, readBound⟩ := readProgram_boundProgram read
  obtain ⟨readCode, executed⟩ := readProgram_of_executableProgram executable
  rw [code] at readCode
  rw [readBound (unreserved_of_readProgram read readCode), Except.ok.injEq, single] at readCode
  obtain ⟨same, rfl⟩ := List.cons.inj readCode
  rw [← same] at single
  exact ⟨inside, congrArg NameUse.ofProgram isUnbound, single, executed⟩

/-- **A compiled template is a single render function** when its directives keep to the body: its
code is the definition of the function and nothing else, the last statement of the function gives
back what has been written, and making the function runs none of its statements. -/
theorem compile_single {tokens : List Token} (isCompiled : compile markers name source = .ok compiled)
    (tokenized : tokenize markers name (normalize source) = .ok tokens)
    (keeps : ∀ token ∈ tokens, token.KeepsToBody) :
    readProgram compiled.code = .ok compiled.program ∧
    ∃ body inside : List Stmt,
      compiled.program = [renderDefinition body] ∧
      body = bufferStatement :: appendStatement :: (inside ++ [finishStatement]) ∧
      ∀ store, renderFunction compiled.program store =
        .ok (.ref (store.objects.size + 1)) (store.withRender body) := by
  obtain ⟨_, _, _, _, -, -, -, -, -, executable⟩ := exists_of_compile isCompiled
  obtain ⟨inside, isProgram⟩ := exists_program_of_compile isCompiled tokenized keeps
  refine ⟨(readProgram_of_executableProgram executable).1, _, inside, isProgram, rfl, ?_⟩
  intro store
  rw [isProgram]
  exact renderFunction_renderDefinition

/-- Lines of an expression that keep to the margin are part of the function, and so is a statement
of several lines. -/
theorem compile_single_lines :
    ∃ compiled, compile .standard none
        (text "<% if ctx: %><%= [ctx,\n    ctx] %><% end %><%\n  _str\n  _str %>") = .ok compiled ∧
      readProgram compiled.code = .ok compiled.program ∧
      ∃ body inside : List Stmt,
        compiled.program = [renderDefinition body] ∧
        body = bufferStatement :: appendStatement :: (inside ++ [finishStatement]) ∧
        ∀ store, renderFunction compiled.program store =
          .ok (.ref (store.objects.size + 1)) (store.withRender body) := by
  let tokens : List Token := [⟨.control, text " if ctx: ", 0⟩,
    ⟨.expression, text "[ctx,\\n    ctx]", 13⟩, ⟨.control, text " end ", 35⟩,
    ⟨.control, text "\\n  _str\\n  _str ", 44⟩]
  have tokenized : tokenize .standard none (normalize
      (text "<% if ctx: %><%= [ctx,\n    ctx] %><% end %><%\n  _str\n  _str %>")) = .ok tokens := by
    cbv
  have emitted : Generator.start.emitAll tokens =
      .ok ([text "    if ctx:\n        pass\n", text "        _append(_str([ctx,\n    ctx]))\n", [],
        text "    _str\n    _str\n"], ⟨[], []⟩) := by rfl
  obtain ⟨compiled, isCompiled, -⟩ :=
    exists_compile_of_unread tokenized emitted (by decide +kernel) (by decide +kernel)
  have keeps : ∀ token ∈ tokens, token.KeepsToBody := by decide +kernel
  exact ⟨compiled, isCompiled, compile_single isCompiled tokenized keeps⟩

/-- An expression that closes the call around it and goes on at the margin ends the function early,
and another function takes the line that gives back what has been written. -/
theorem compile_leaves_function :
    ∃ compiled, compile .standard none (text "<%= 1))\ndef g(): #%>") = .ok compiled ∧
      compiled.program.length = 2 := by
  have tokenized : tokenize .standard none (normalize (text "<%= 1))\ndef g(): #%>")) =
      .ok [⟨.expression, text "1))\\ndef g(): #", 0⟩] := by cbv
  have emitted : Generator.start.emitAll [⟨.expression, text "1))\\ndef g(): #", 0⟩] =
      .ok ([text "    _append(_str(1))\ndef g(): #))\n"], ⟨[], []⟩) := by rfl
  obtain ⟨compiled, isCompiled, parsed⟩ :=
    exists_compile_of_unread tokenized emitted (by decide +kernel) (by decide +kernel)
  have count : (parseWithin? (prologue ++ [text "    _append(_str(1))\ndef g(): #))\n"].flatten ++
      epilogue)).map List.length = some 2 := by decide +kernel
  rw [parsed] at count
  exact ⟨compiled, isCompiled, Option.some.inj count⟩

end Stencil
