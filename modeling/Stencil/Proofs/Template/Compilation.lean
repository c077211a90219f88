import Stencil.Proofs.Script.LexemeBound
import Stencil.Template.Compiled

/-! # The steps of a compilation

A template is compiled when its normal form falls into tokens, the blocks of its directives match,
the fragments make a program without the lines of the context whose names can be gathered, and the
program with these lines is one whose statements stand where they may (`Stencil.compile_of_steps`,
`Stencil.exists_of_compile`).
-/

namespace Stencil

open Script Source Text

variable {markers : Markers} {name : Option Text} {source : Text} {compiled : Compiled}

/-- The names of a program are those that its walk gathers, unless the walk goes too deep. -/
theorem gatherNames_of_depth {program : Program} (shallow : programDepth program ≤ walkLimit) :
    gatherNames program = .ok (NameUse.ofProgram program) :=
  if_pos shallow

/-- A walk that goes too deep ends with one of two faults. -/
theorem gatherNames_of_lt {program : Program} (deep : walkLimit < programDepth program) :
    ∃ fault ∈ [SourceFault.deepWalk, .deepTree], gatherNames program = .error fault := by
  unfold gatherNames
  rw [if_neg (Nat.not_le_of_lt deep)]
  split
  · exact ⟨_, List.mem_cons_self, rfl⟩
  · exact ⟨_, List.mem_cons_of_mem _ List.mem_cons_self, rfl⟩

/-- The names of a body are those of the program that it makes, when this is not too deep. -/
theorem unboundNames_eq_ok_iff {body : Text} {uses : NameUse} : unboundNames body = .ok uses ↔
    ∃ unbound, readProgram (prologue ++ body ++ epilogue) = .ok unbound ∧
      programDepth unbound ≤ walkLimit ∧ uses = NameUse.ofProgram unbound := by
  unfold unboundNames
  cases readProgram (prologue ++ body ++ epilogue) with
  | error fault =>
      constructor
      · rintro ⟨⟩
      · rintro ⟨_, ⟨⟩, -⟩
  | ok unbound =>
      change gatherNames unbound = .ok uses ↔ _
      constructor
      · intro gathered
        unfold gatherNames at gathered
        split at gathered
        · next shallow => exact ⟨unbound, rfl, shallow, (Except.ok.inj gathered).symm⟩
        · cases gathered
      · rintro ⟨_, ⟨⟩, shallow, rfl⟩
        exact gatherNames_of_depth shallow

/-- The steps of a compilation that gives a result. -/
theorem exists_of_compile (isCompiled : compile markers name source = .ok compiled) :
    ∃ tokens fragments unbound names,
      tokenize markers name (normalize source) = .ok tokens ∧
      Generator.start.emitAll tokens = .ok (fragments, ⟨[], names⟩) ∧
      readProgram (prologue ++ fragments.flatten ++ epilogue) = .ok unbound ∧
      programDepth unbound ≤ walkLimit ∧
      compiled.code = boundProgram (NameUse.ofProgram unbound) fragments.flatten ∧
      executableProgram compiled.code = .ok compiled.program := by
  unfold compile at isCompiled
  cases tokenized : tokenize markers name (normalize source) with
  | error fault => rw [tokenized] at isCompiled; cases isCompiled
  | ok tokens =>
      rw [tokenized] at isCompiled
      change ((Generator.start.emitAll tokens).mapError CompileError.source >>= _) = _ at isCompiled
      cases emitted : Generator.start.emitAll tokens with
      | error fault => rw [emitted] at isCompiled; cases isCompiled
      | ok result =>
          obtain ⟨fragments, blocks, names⟩ := result
          rw [emitted] at isCompiled
          change (((Generator.mk blocks names).assemble fragments).mapError CompileError.source >>= _)
            = _ at isCompiled
          cases blocks with
          | cons innermost outer => cases isCompiled
          | nil =>
              unfold Generator.assemble at isCompiled
              dsimp only at isCompiled
              cases used : unboundNames fragments.flatten with
              | error fault => rw [used] at isCompiled; cases isCompiled
              | ok uses =>
                  obtain ⟨unbound, read, shallow, rfl⟩ := unboundNames_eq_ok_iff.mp used
                  rw [used] at isCompiled
                  change ((executableProgram (boundProgram (NameUse.ofProgram unbound)
                    fragments.flatten)).mapError _ >>= _) = _ at isCompiled
                  cases bound : executableProgram
                      (boundProgram (NameUse.ofProgram unbound) fragments.flatten) with
                  | error fault => rw [bound] at isCompiled; cases isCompiled
                  | ok program =>
                      rw [bound] at isCompiled
                      cases isCompiled
                      exact ⟨tokens, fragments, unbound, names, rfl, emitted, read, shallow, rfl,
                        bound⟩

theorem readProgram_of_executableProgram {code : Text} {program : Program}
    (executable : executableProgram code = .ok program) :
    readProgram code = .ok program ∧ isExecutable program = true := by
  unfold executableProgram at executable
  cases read : readProgram code with
  | error fault => rw [read] at executable; cases executable
  | ok found =>
      rw [read] at executable
      change (if isExecutable found then pure found else throw SourceFault.malformed) = _
        at executable
      split at executable
      · next isIn =>
          cases executable
          exact ⟨rfl, isIn⟩
      · cases executable

theorem scanFrom_of_tokenize {whole : Text} {tokens : List Token}
    (tokenized : tokenize markers name whole = .ok tokens) :
    Token.scanFrom markers 0 whole = .ok tokens := by
  unfold tokenize Token.scan at tokenized
  cases scanned : Token.scanFrom markers 0 whole with
  | error place => rw [scanned] at tokenized; cases tokenized
  | ok found =>
      rw [scanned] at tokenized
      exact congrArg Except.ok (Except.ok.inj tokenized)

/-- Where no block is open, fragments that make a program are put together with the lines of its
context. -/
theorem assemble_of_readProgram {generator : Generator} {fragments : List Text} {unbound : Program}
    (closed : generator.blocks = [])
    (read : readProgram (prologue ++ fragments.flatten ++ epilogue) = .ok unbound)
    (shallow : programDepth unbound ≤ walkLimit) :
    generator.assemble fragments = .ok (boundProgram (NameUse.ofProgram unbound) fragments.flatten,
      { generator with names := sortedSet (NameUse.ofProgram unbound).free }) := by
  unfold Generator.assemble
  rw [closed]
  dsimp only
  rw [unboundNames_eq_ok_iff.mpr ⟨unbound, read, shallow, rfl⟩]

/-- Fragments whose program is too deep for the walk that gathers its names are not put together. -/
theorem assemble_of_lt {generator : Generator} {fragments : List Text} {unbound : Program}
    (closed : generator.blocks = [])
    (read : readProgram (prologue ++ fragments.flatten ++ epilogue) = .ok unbound)
    (deep : walkLimit < programDepth unbound) :
    ∃ fault ∈ [SourceFault.deepWalk, .deepTree],
      generator.assemble fragments = .error (.program fault) := by
  obtain ⟨fault, isDeep, gathered⟩ := gatherNames_of_lt deep
  refine ⟨fault, isDeep, ?_⟩
  unfold Generator.assemble unboundNames
  rw [closed]
  dsimp only
  rw [read, show (Except.ok unbound >>= gatherNames) = gatherNames unbound from rfl, gathered]

/-- A template whose program is too deep for the walk that gathers its names is not compiled. -/
theorem compile_of_lt {tokens : List Token} {fragments : List Text} {names : List Name}
    {unbound : Program} (tokenized : tokenize markers name (normalize source) = .ok tokens)
    (emitted : Generator.start.emitAll tokens = .ok (fragments, ⟨[], names⟩))
    (read : readProgram (prologue ++ fragments.flatten ++ epilogue) = .ok unbound)
    (deep : walkLimit < programDepth unbound) :
    ∃ fault ∈ [SourceFault.deepWalk, .deepTree],
      compile markers name source = .error (.source (.program fault)) := by
  obtain ⟨fault, isDeep, failed⟩ := @assemble_of_lt (.mk [] names) _ _ rfl read deep
  refine ⟨fault, isDeep, ?_⟩
  rw [compile, tokenized]
  change ((Generator.start.emitAll tokens).mapError CompileError.source >>= _) = _
  rw [emitted]
  change (((Generator.mk [] names).assemble fragments).mapError CompileError.source >>= _) = _
  rw [failed]
  rfl

/-- The steps of a compilation, one behind the other, give a result. -/
theorem compile_of_steps {tokens : List Token} {fragments : List Text} {names : List Name}
    {unbound program : Program} (tokenized : tokenize markers name (normalize source) = .ok tokens)
    (emitted : Generator.start.emitAll tokens = .ok (fragments, ⟨[], names⟩))
    (read : readProgram (prologue ++ fragments.flatten ++ epilogue) = .ok unbound)
    (shallow : programDepth unbound ≤ walkLimit)
    (executable : executableProgram
      (boundProgram (NameUse.ofProgram unbound) fragments.flatten) = .ok program) :
    compile markers name source = .ok {
      source := source
      name := name
      tokenCount := tokens.length
      code := boundProgram (NameUse.ofProgram unbound) fragments.flatten
      names := sortedSet (NameUse.ofProgram unbound).free
      program := program } := by
  rw [compile, tokenized]
  change ((Generator.start.emitAll tokens).mapError CompileError.source >>= _) = _
  rw [emitted]
  change (((Generator.mk [] names).assemble fragments).mapError CompileError.source >>= _) = _
  rw [assemble_of_readProgram rfl read shallow]
  change ((executableProgram (boundProgram (NameUse.ofProgram unbound)
    fragments.flatten)).mapError _ >>= _) = _
  rw [executable]
  rfl

theorem executableProgram_of_readProgram {code : Text} {program : Program}
    (read : readProgram code = .ok program) (inPlace : isExecutable program = true) :
    executableProgram code = .ok program := by
  unfold executableProgram
  rw [read]
  exact if_pos inPlace

/-- A clean text that spells a program with its parts in their places is one that can be
executed. -/
theorem exists_executableProgram {code : Text} {holds : Program → Bool}
    (clean : code.all (fun point => !point.isSurrogate && point != 0) = true)
    (parsed : (parseWithin? code).any (fun program => holds program && isExecutable program) = true) :
    ∃ program, parseWithin? code = some program ∧ executableProgram code = .ok program ∧
      holds program = true := by
  obtain ⟨program, isProgram, inPlace⟩ := (Option.any_eq_true _ _).mp parsed
  rw [Bool.and_eq_true] at inPlace
  have each : ∀ point ∈ code, point.isSurrogate = false ∧ point ≠ 0 := by
    intro point member
    have plain := List.all_eq_true.mp clean point member
    rw [Bool.and_eq_true, Bool.not_eq_true', bne_iff_ne] at plain
    exact plain
  have read : readProgram code = .ok program :=
    readProgram_of_parseWithin? (List.findIdx?_eq_none_iff.mpr fun point member => (each point member).1)
      (Bool.eq_false_iff.mpr fun held => (each 0 (List.contains_iff_mem.mp held)).2 rfl) isProgram
  exact ⟨program, isProgram, executableProgram_of_readProgram read inPlace.2, inPlace.1⟩

/-- No lines are put into a program that reads no names from its context. -/
theorem boundProgram_of_unread {names : NameUse} {body : Text} (unread : names.referenced = []) :
    boundProgram names body = prologue ++ body ++ epilogue := by
  have none : sortedSet ([] : List Name) = [] := by
    unfold sortedSet
    rw [List.eraseDups_nil, List.mergeSort_nil]
  rw [boundProgram, unread, none, List.flatMap_nil, List.append_nil]

/-- A template whose program reads no names from its context is compiled as it stands. -/
theorem exists_compile_of_unread {tokens : List Token} {fragments : List Text} {names : List Name}
    (tokenized : tokenize markers name (normalize source) = .ok tokens)
    (emitted : Generator.start.emitAll tokens = .ok (fragments, ⟨[], names⟩))
    (clean : (prologue ++ fragments.flatten ++ epilogue).all
      (fun point => !point.isSurrogate && point != 0) = true)
    (parsed : (parseWithin? (prologue ++ fragments.flatten ++ epilogue)).any (fun program =>
      ((NameUse.ofProgram program).referenced.isEmpty && programDepth program ≤ walkLimit) &&
        isExecutable program) = true) :
    ∃ compiled, compile markers name source = .ok compiled ∧
      parseWithin? (prologue ++ fragments.flatten ++ epilogue) = some compiled.program := by
  obtain ⟨program, isProgram, executable, held⟩ := exists_executableProgram clean parsed
  obtain ⟨unread, shallow⟩ := Bool.and_eq_true_iff.mp held
  have code := @boundProgram_of_unread _ fragments.flatten (List.isEmpty_iff.mp unread)
  exact ⟨_, compile_of_steps tokenized emitted (readProgram_of_executableProgram executable).1
    (of_decide_eq_true shallow) (code ▸ executable), isProgram⟩

/-- A template whose program reads no names from its context and cannot be executed is not
compiled. -/
theorem compile_ne_ok_of_unread {tokens : List Token} {fragments : List Text} {names : List Name}
    (tokenized : tokenize markers name (normalize source) = .ok tokens)
    (emitted : Generator.start.emitAll tokens = .ok (fragments, ⟨[], names⟩))
    (refused : (parseWithin? (prologue ++ fragments.flatten ++ epilogue)).all (fun program =>
      (NameUse.ofProgram program).referenced.isEmpty && !isExecutable program) = true)
    (compiled : Compiled) : compile markers name source ≠ .ok compiled := by
  intro isCompiled
  obtain ⟨_, _, unbound, _, tokenizedAgain, emittedAgain, read, _, code, executable⟩ :=
    exists_of_compile isCompiled
  rw [tokenized] at tokenizedAgain
  cases tokenizedAgain
  rw [emitted] at emittedAgain
  cases emittedAgain
  rw [parseWithin?_of_readProgram read, Option.all_some, Bool.and_eq_true, Bool.not_eq_true']
    at refused
  obtain ⟨unread, notExecutable⟩ := refused
  rw [boundProgram_of_unread (List.isEmpty_iff.mp unread)] at code
  obtain ⟨readAgain, isIn⟩ := readProgram_of_executableProgram executable
  rw [code, read] at readAgain
  cases readAgain
  exact Bool.false_ne_true (notExecutable.symm.trans isIn)

end Stencil
