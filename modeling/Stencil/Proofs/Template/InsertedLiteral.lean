import Stencil.Proofs.Script.WidenedScopes
import Stencil.Proofs.Template.LiteralPlaces

/-! # Templates with further literal text

A template whose directives are complete is compiled with literal text between any two of its tokens
(`Stencil.exists_compile_literal`), but for two kinds of places. A choice by shape holds nothing but
cases, so no text may stand between its header and the first of them, and where a directive declares
the name of the function that writes to live elsewhere, no text may be written in front of it
(`Stencil.not_compile_literal`).
-/

namespace Stencil

open Script Source CodePoint Text

variable {markers : Markers} {name : Option Text} {left gap right raw : Text} {compiled : Compiled}
  {front back : List Token} {offset : Nat} {former : Option Text} {generator : Generator}

/-- The blocks that are open behind some tokens. -/
def openBlocks (tokens : List Token) : List OpenBlock :=
  match Generator.start.emitAll tokens with
  | .ok (_, generator) => generator.blocks
  | .error _ => []

/-- Literal text opens and closes no block. -/
theorem exists_emitAll_literalTokens {content : Text} :
    ∃ fragments, generator.emitAll (Token.literalTokens offset content) =
      .ok (fragments, generator) := by
  unfold Token.literalTokens
  split
  · exact ⟨_, rfl⟩
  · exact ⟨_, rfl⟩

/-- Literal text that may stand in a place has the fragment that stands there. -/
theorem exists_emitAll_former :
    ∃ fragments, generator.emitAll
        (former.elim [] fun raw => [Token.literalAt offset (normalize raw)]) =
      .ok (fragments, generator) ∧
      fragments.flatten = formerFragment generator.blocks.length former := by
  cases former with
  | none => exact ⟨_, rfl, rfl⟩
  | some raw => exact ⟨_, rfl, List.flatten_singleton⟩

theorem openBlocks_append_literalTokens {earlier : List Token} {content : Text}
    {fragments : List Text} (emitted : Generator.start.emitAll earlier = .ok (fragments, generator)) :
    openBlocks (earlier ++ Token.literalTokens offset content) = generator.blocks := by
  obtain ⟨last, emittedLast⟩ := @exists_emitAll_literalTokens offset generator content
  have whole := emitAll_append.mpr ⟨fragments, generator, last, emitted, emittedLast, rfl⟩
  unfold openBlocks
  rw [whole]

theorem tokenize_of_scanFrom {whole : Text} {tokens : List Token}
    (scanned : Token.scanFrom markers 0 whole = .ok tokens) :
    tokenize markers name whole = .ok tokens := by
  unfold tokenize Token.scan
  rw [scanned]
  rfl

/-- The program of a template with further literal text can be executed where that of the template
can, and the walk over it goes little deeper. -/
theorem exists_executable_literal {tokens others : List Token} {earlier later : List Text}
    {between : Generator} {kept : List Name} {unbound program : Program}
    (emittedFront : Generator.start.emitAll tokens = .ok (earlier, between))
    (emittedBack : between.emitAll others = .ok (later, ⟨[], kept⟩))
    (completeFront : ∀ token ∈ tokens, token.IsComplete)
    (completeBack : ∀ token ∈ others, token.IsComplete)
    (noChoice : topWord between.blocks ≠ some (text "match"))
    (read : readProgram (prologue ++ (earlier.flatten ++
      (formerFragment between.blocks.length former ++ later.flatten)) ++ epilogue) = .ok unbound)
    (executable : executableProgram (boundProgram (NameUse.ofProgram unbound) (earlier.flatten ++
      (formerFragment between.blocks.length former ++ later.flatten))) = .ok program)
    (apart : anyDeclares (text "_append") (stmtsScopeEvents program) = false) :
    ∃ longer spaced, readProgram (prologue ++ (earlier.flatten ++
        (literalFragment between.blocks.length raw ++ later.flatten)) ++ epilogue) = .ok longer ∧
      programDepth longer ≤ programDepth program + 8 ∧
      executableProgram (boundProgram (NameUse.ofProgram longer) (earlier.flatten ++
        (literalFragment between.blocks.length raw ++ later.flatten))) = .ok spaced := by
  have unnamed (fragment : Text) : programWith [] earlier later fragment =
      prologue ++ (earlier.flatten ++ (fragment ++ later.flatten)) ++ epilogue := by
    rw [programWith, List.flatMap_nil, List.append_nil]
  have areNames := isName_of_mem_sortedSet read
  obtain ⟨inside, behind, isUnbound, readBound⟩ := readProgram_boundProgram read
  obtain ⟨readProgram, inPlace⟩ := readProgram_of_executableProgram executable
  have isProgram := Except.ok.inj (readProgram.symm.trans
    (readBound (unreserved_of_readProgram read readProgram)))
  rw [← unnamed] at read
  have noNames : ∀ name ∈ ([] : List Name), IsName name := nofun
  obtain ⟨longer, readLonger, widens⟩ := exists_readProgram_literal raw noNames
    emittedFront emittedBack completeFront completeBack noChoice read
  have deeper : programDepth longer ≤ programDepth program + 8 := by
    refine (programDepth_of_widens widens).trans (Nat.add_le_add_right ?_ 8)
    rw [isUnbound, isProgram]
    exact programDepth_le_bindings
  obtain ⟨spaced, readSpaced, widensBound⟩ := exists_readProgram_literal raw areNames emittedFront
    emittedBack completeFront completeBack noChoice readProgram
  obtain ⟨inPlaceSpaced, -⟩ := isExecutable_of_widened formerReads_literalEdit
    (readsOnly_literalCall raw) (by decide) apart widensBound inPlace
  have same := (referenced_of_widened formerReads_literalEdit (readsOnly_literalCall raw).mentions
    (by decide) widens).1
  refine ⟨longer, spaced, unnamed _ ▸ readLonger, deeper, ?_⟩
  rw [boundProgram, same]
  exact executableProgram_of_readProgram readSpaced inPlaceSpaced

/-- The literal text beside further literal text is complete, and so is what they become. -/
theorem exists_former {tail run : Text} (edge : tail = [] ∨ run = [])
    (complete : ∀ token ∈ Token.literalTokens offset (tail ++ run), token.IsComplete) :
    ∃ former raw, Token.literalTokens offset (tail ++ run) =
        Option.elim former [] (fun raw => [Token.literalAt offset (normalize raw)]) ∧
      tail ++ (normalize gap ++ run) = normalize raw := by
  by_cases none : tail ++ run = []
  · obtain ⟨rfl, rfl⟩ := List.append_eq_nil_iff.mp none
    exact ⟨.none, gap, rfl, List.append_nil _⟩
  · rw [Token.literalTokens_of_ne_nil none] at complete ⊢
    obtain ⟨raw, same⟩ := complete _ List.mem_cons_self
    change tail ++ run = normalize raw at same
    rcases edge with rfl | rfl
    · refine ⟨some raw, gap ++ raw, by rw [same]; rfl, ?_⟩
      rw [List.nil_append] at same ⊢
      rw [normalize_append, same]
    · refine ⟨some raw, raw ++ gap, by rw [same]; rfl, ?_⟩
      rw [List.append_nil] at same ⊢
      rw [normalize_append, same]

/-- **Literal text may stand between any two tokens of a template** whose directives are complete.
The text must stay literal text there, it may not stand between the header of a choice by shape and
the first case, and no directive may declare the name of the function that writes to live
elsewhere. Only a template whose program leaves the walk over it less than eight calls may become too
deep for the walk. -/
theorem exists_compile_literal (tokenizedLeft : tokenize markers name (normalize left) = .ok front)
    (tokenized : tokenize markers name (normalize (left ++ right)) = .ok (front ++ back))
    (stays : StaysLiteral markers front (normalize gap) (normalize right))
    (complete : ∀ token ∈ front ++ back, token.IsComplete)
    (noChoice : topWord (openBlocks front) ≠ some (text "match"))
    (isCompiled : compile markers name (left ++ right) = .ok compiled)
    (apart : anyDeclares (text "_append") (stmtsScopeEvents compiled.program) = false) :
    (∃ spaced, compile markers name (left ++ gap ++ right) = .ok spaced) ∨
      walkLimit < programDepth compiled.program + 8 ∧ ∃ fault ∈ [SourceFault.deepWalk, .deepTree],
        compile markers name (left ++ gap ++ right) = .error (.source (.program fault)) := by
  by_cases none : gap = []
  · subst none
    exact .inl ⟨compiled, by rwa [List.append_nil]⟩
  have held : normalize gap ≠ [] := by
    intro isNil
    have restored : restore (normalize gap) = gap := restore_normalize
    rw [isNil] at restored
    exact none restored.symm
  obtain ⟨tokens, fragments, unbound, names, tokenizedAgain, emitted, read, -, code, executable⟩ :=
    exists_of_compile isCompiled
  rw [tokenized] at tokenizedAgain
  cases tokenizedAgain
  have scanned := scanFrom_of_tokenize tokenized
  rw [normalize_append] at scanned
  obtain ⟨earlier, start, tail, run, others, rfl, whole, edge, scannedSpaced⟩ :=
    exists_tokens_literal (scanFrom_of_tokenize tokenizedLeft) scanned held stays
  rw [whole] at emitted complete
  simp only [List.forall_mem_append] at complete
  obtain ⟨completeFront, completeFormer, completeBack⟩ := complete
  obtain ⟨former, raw, isFormer, isRaw⟩ := @exists_former gap start _ _ edge completeFormer
  obtain ⟨earlierText, between, behind, emittedFront, emittedBehind, rfl⟩ := emitAll_append.mp emitted
  obtain ⟨formerText, same, laterText, emittedFormer, emittedBack, rfl⟩ :=
    emitAll_append.mp emittedBehind
  obtain ⟨formerText', emittedAgain, isFragment⟩ := @exists_emitAll_former start former between
  rw [isFormer, emittedAgain] at emittedFormer
  cases emittedFormer
  rw [openBlocks_append_literalTokens emittedFront] at noChoice
  rw [List.flatten_append, List.flatten_append, isFragment] at read code
  rw [code] at executable
  obtain ⟨longer, spaced, readLonger, deeper, executableSpaced⟩ := @exists_executable_literal raw _
    _ _ _ _ _ _ _ _ emittedFront emittedBack completeFront completeBack noChoice read executable apart
  have emittedSpaced : Generator.start.emitAll (earlier ++ .literalAt start (normalize raw) ::
      others.map (Token.shift (normalize gap).length)) =
      .ok (earlierText ++ literalFragment between.blocks.length raw :: laterText, ⟨[], names⟩) := by
    refine emitAll_append.mpr ⟨earlierText, between, _, emittedFront, ?_, rfl⟩
    refine emitAll_cons.mpr ⟨_, between.blocks, laterText, rfl, ?_, rfl⟩
    rw [Token.emitAll_shift]
    exact emittedBack
  have tokenizedSpaced := @tokenize_of_scanFrom markers name _ _ scannedSpaced
  rw [← normalize_append, ← normalize_append, isRaw] at tokenizedSpaced
  rw [← List.flatten_cons, ← List.flatten_append] at readLonger executableSpaced
  by_cases shallow : programDepth longer ≤ walkLimit
  · exact .inl ⟨_, compile_of_steps tokenizedSpaced emittedSpaced readLonger shallow executableSpaced⟩
  · have deep := Nat.lt_of_not_le shallow
    exact .inr ⟨deep.trans_le deeper, compile_of_lt tokenizedSpaced emittedSpaced readLonger deep⟩

/-- A line that is scanned by itself as the lexemes of one line. -/
theorem isLoneLine_of_within {line : Text} {found : List Lexeme}
    (scanned : (line.head?.any (fun point => BeginsLexeme point ∧ point ≠ carriageReturn) &&
      found.all Lexeme.isInline &&
      lexemesWithin (line.length + 1) [Column.zero] [] true (unifyLineEnds line) ==
        some (found ++ [.lineEnd])) = true) : IsLoneLine line found := by
  rw [Bool.and_eq_true, Bool.and_eq_true] at scanned
  obtain ⟨⟨begins, inline⟩, read⟩ := scanned
  exact ⟨begins, List.all_eq_true.mp inline, lexemes_eq_within.trans (eq_of_beq read)⟩

/-- A line break and blanks stand between the header of a block and what is written in it. -/
theorem exists_compile_literal_block :
    ∃ spaced, compile .standard none (text "<% try: %>" ++ text "\n  " ++
      text "<%= 'a' %><% finally:  # in any case %><% end %>") = .ok spaced := by
  let front : List Token := [⟨.control, text " try: ", 0⟩]
  let back : List Token := [⟨.expression, text "'a'", 10⟩,
    ⟨.control, text " finally:  # in any case ", 20⟩, ⟨.control, text " end ", 49⟩]
  have tokenizedLeft : tokenize .standard none (normalize (text "<% try: %>")) = .ok front := by cbv
  have tokenized : tokenize .standard none (normalize (text "<% try: %>" ++
      text "<%= 'a' %><% finally:  # in any case %><% end %>")) = .ok (front ++ back) := by cbv
  have stays : StaysLiteral .standard front (normalize (text "\n  "))
      (normalize (text "<%= 'a' %><% finally:  # in any case %><% end %>")) := by decide +kernel
  have complete : ∀ token ∈ front ++ back, token.IsComplete := by
    have single {line : Text} (isLine : IsCompleteLine line) {content : Text}
        (isCode : codeLines content = [line]) :
        ∀ other ∈ codeLines content, codeLines content = [other] ∧ IsCompleteLine other := by
      intro other member
      rw [isCode, List.mem_singleton] at member
      exact member ▸ ⟨isCode, isLine⟩
    have opens : IsLoneLine (text "try:") [.keyword .tryWord, .symbol .colon] :=
      isLoneLine_of_within (by decide +kernel)
    have writes : IsLoneLine (text "_append(_str('a'))") [.name (text "_append"),
        .symbol .leftParen, .name (text "_str"), .symbol .leftParen,
        .string ⟨false, false, false, text "a"⟩, .symbol .rightParen, .symbol .rightParen] :=
      isLoneLine_of_within (by decide +kernel)
    have goesOn : IsLoneLine (text "finally:  # in any case")
        [.keyword .finallyWord, .symbol .colon] := isLoneLine_of_within (by decide +kernel)
    have ends : IsLoneLine (text "end") [.name (text "end")] :=
      isLoneLine_of_within (by decide +kernel)
    simp only [front, back, List.cons_append, List.nil_append, List.forall_mem_cons]
    refine ⟨?_, ?_, ?_, ?_, fun _ member => (List.not_mem_nil member).elim⟩
    · exact single (.inr ⟨_, opens, by decide, fun _ => by decide⟩) (by decide +kernel)
    · exact ⟨_, writes⟩
    · exact single (.inr ⟨_, goesOn, by decide, fun _ => by decide⟩) (by decide +kernel)
    · exact single (.inr ⟨_, ends, by decide, fun _ => by decide⟩) (by decide +kernel)
  have emitted : Generator.start.emitAll (front ++ back) = .ok ([text "    try:\n        pass\n",
      text "        _append(_str('a'))\n", text "    finally:  # in any case\n        pass\n", []],
      ⟨[], []⟩) := by rfl
  obtain ⟨compiled, isCompiled, parsed⟩ :=
    exists_compile_of_unread tokenized emitted (by decide +kernel) (by decide +kernel)
  have apart : (parseWithin? (prologue ++ List.flatten [text "    try:\n        pass\n",
      text "        _append(_str('a'))\n", text "    finally:  # in any case\n        pass\n", []] ++
      epilogue)).all (fun program =>
        !anyDeclares (text "_append") (stmtsScopeEvents program) &&
          programDepth program + 8 ≤ walkLimit) = true := by decide +kernel
  rw [parsed, Option.all_some, Bool.and_eq_true, Bool.not_eq_true', decide_eq_true_eq] at apart
  rcases exists_compile_literal tokenizedLeft tokenized stays complete (by decide +kernel) isCompiled
    apart.1 with spaced | ⟨deep, -⟩
  · exact spaced
  · exact absurd apart.2 (Nat.not_le_of_lt deep)

/-- No literal text is compiled between the header of a choice by shape and its first case, nor in
front of a declaration of the function that writes. -/
theorem not_compile_literal :
    (∃ compiled, compile .standard none (text "<% match 1: %><% case 1: %><% end %>") =
      .ok compiled) ∧
    (∀ compiled, compile .standard none (text "<% match 1: %> <% case 1: %><% end %>") ≠
      .ok compiled) ∧
    (∃ compiled, compile .standard none (text "<% def f(): %><% global _append %><% end %>") =
      .ok compiled) ∧
    ∀ compiled, compile .standard none (text "<% def f(): %> <% global _append %><% end %>") ≠
      .ok compiled := by
  let choice : List Token := [⟨.control, text " match 1: ", 0⟩, ⟨.control, text " case 1: ", 14⟩,
    ⟨.control, text " end ", 27⟩]
  let spacedChoice : List Token := [⟨.control, text " match 1: ", 0⟩, ⟨.literal, text " ", 14⟩,
    ⟨.control, text " case 1: ", 15⟩, ⟨.control, text " end ", 28⟩]
  let definition : List Token := [⟨.control, text " def f(): ", 0⟩,
    ⟨.control, text " global _append ", 14⟩, ⟨.control, text " end ", 34⟩]
  let spacedDefinition : List Token := [⟨.control, text " def f(): ", 0⟩, ⟨.literal, text " ", 14⟩,
    ⟨.control, text " global _append ", 15⟩, ⟨.control, text " end ", 35⟩]
  refine ⟨?_, ?_, ?_, ?_⟩
  · have tokenized : tokenize .standard none (normalize
        (text "<% match 1: %><% case 1: %><% end %>")) = .ok choice := by cbv
    have emitted : Generator.start.emitAll choice = .ok ([text "    match 1:\n",
        text "        case 1:\n            pass\n", []], ⟨[], []⟩) := by rfl
    obtain ⟨compiled, isCompiled, -⟩ :=
      exists_compile_of_unread tokenized emitted (by decide +kernel) (by decide +kernel)
    exact ⟨compiled, isCompiled⟩
  · have tokenized : tokenize .standard none (normalize
        (text "<% match 1: %> <% case 1: %><% end %>")) = .ok spacedChoice := by cbv
    have emitted : Generator.start.emitAll spacedChoice = .ok ([text "    match 1:\n",
        text "        _append(' ')\n", text "        case 1:\n            pass\n", []],
        ⟨[], []⟩) := by rfl
    exact compile_ne_ok_of_unread tokenized emitted (by decide +kernel)
  · have tokenized : tokenize .standard none (normalize
        (text "<% def f(): %><% global _append %><% end %>")) = .ok definition := by cbv
    have emitted : Generator.start.emitAll definition = .ok ([text "    def f():\n        pass\n",
        text "        global _append\n", []], ⟨[], []⟩) := by rfl
    obtain ⟨compiled, isCompiled, -⟩ :=
      exists_compile_of_unread tokenized emitted (by decide +kernel) (by decide +kernel)
    exact ⟨compiled, isCompiled⟩
  · have tokenized : tokenize .standard none (normalize
        (text "<% def f(): %> <% global _append %><% end %>")) = .ok spacedDefinition := by cbv
    have emitted : Generator.start.emitAll spacedDefinition = .ok ([
        text "    def f():\n        pass\n", text "        _append(' ')\n",
        text "        global _append\n", []], ⟨[], []⟩) := by rfl
    exact compile_ne_ok_of_unread tokenized emitted (by decide +kernel)

end Stencil
