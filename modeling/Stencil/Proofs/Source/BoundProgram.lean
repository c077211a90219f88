import Stencil.Proofs.Script.WalkDepth
import Stencil.Proofs.Source.BindingLines
import Stencil.Proofs.Source.ProgramShape

/-! # Reading a program with the lines of its context

The lines that take names from the context are whole lines in front of the body, so the program that
holds them is the one without them with one more statement for each name
(`Stencil.readProgram_boundProgram`). This needs nothing of the body but that it makes a program
without these lines.
-/

namespace Stencil

open Script Script.Reader Source CodePoint Text

variable {name : Name} {names : List Name} {source body front : Text} {unbound : Program}
  {depth : Nat} {rest lexemes behind : List Lexeme} {inside others : List Stmt}

/-- The lexemes of the line that takes a name from the context. -/
def bindingLexemes (name : Name) : List Lexeme :=
  (if isPublicName name then RenderLine.preferLexemes name (wordLexeme name)
    else RenderLine.fetchLexemes name (wordLexeme name)) ++ [.lineEnd]

theorem lexemes_bindingOf (isName : IsName name) :
    (RenderLine.bindingOf isName).lexemes ++ .lineEnd :: rest = bindingLexemes name ++ rest := by
  unfold RenderLine.bindingOf bindingLexemes
  rw [List.append_assoc]
  split
  · rfl
  · rfl

/-- The line of a name begins with no branch of a choice and ends no block. -/
theorem exists_cons_of_bindingLexemes (name : Name) :
    ∃ first others, bindingLexemes name = first :: others ∧
      first ≠ .dedent ∧ first ≠ .keyword .elifWord ∧ first ≠ .keyword .elseWord := by
  unfold bindingLexemes
  split
  · next isPublic =>
      refine ⟨_, _, rfl, ?_⟩
      cases isKeyword : Keyword.ofText? name with
      | none =>
          rw [wordLexeme_name isKeyword]
          exact ⟨nofun, nofun, nofun⟩
      | some word =>
          rw [wordLexeme_keyword isKeyword]
          rcases (isPublicName_of_ofText? isKeyword).mp isPublic with rfl | rfl | rfl
          all_goals exact ⟨nofun, nofun, nofun⟩
  · exact ⟨_, _, rfl, nofun, nofun, nofun⟩

theorem endsChoice_bindingLexemes : EndsChoice (bindingLexemes name ++ rest) := by
  obtain ⟨first, others, split, -, differs⟩ := exists_cons_of_bindingLexemes name
  rw [split]
  exact endsChoice_cons differs

/-- Lines that take names from the context are scanned in front of others. -/
theorem lexemesBehind_bindingLines (areNames : ∀ name ∈ names, IsName name) (behind : Text) :
    lexemesBehind 1 (names.flatMap bindingLine ++ behind) =
      (lexemesBehind 1 behind).map (names.flatMap bindingLexemes ++ ·) := by
  induction names with
  | nil =>
      cases found : lexemesBehind 1 behind
      · exact found
      · exact found
  | cons name names ih =>
      obtain ⟨isName, later⟩ := List.forall_mem_cons.mp areNames
      rw [List.flatMap_cons, List.append_assoc, bindingLine_eq_text isName,
        Line.lexemesBehind_text, ih later, Option.map_map]
      congr 1
      funext scanned
      rw [Function.comp_apply, lexemes_bindingOf, List.flatMap_cons, List.append_assoc]

theorem isClean_bindingLines (areNames : ∀ name ∈ names, IsName name) :
    ∀ point ∈ names.flatMap bindingLine, IsClean point := by
  intro point member
  obtain ⟨name, isBound, inLine⟩ := List.mem_flatMap.mp member
  rw [bindingLine_eq_text (areNames name isBound)] at inLine
  exact Outline.isClean_of_mem_line inLine

/-- Lines that take names from the context are read as a statement for each. -/
theorem reads_bindingLexemes (areNames : ∀ name ∈ names, IsName name)
    (plain : ∀ name ∈ names, Keyword.ofText? name = none) (ends : EndsChoice rest)
    (reads : ReadsStatements (Inner.ofDepth (depth + 2)) rest inside behind) :
    ReadsStatements (Inner.ofDepth (depth + 2)) (names.flatMap bindingLexemes ++ rest)
      (names.map bindingStatement ++ inside) behind := by
  induction names with
  | nil => exact reads
  | cons name names ih =>
      rw [List.forall_mem_cons] at areNames plain
      have later := ih areNames.2 plain.2
      have endsLater : EndsChoice (names.flatMap bindingLexemes ++ rest) := by
        cases names with
        | nil => exact ends
        | cons next names =>
            rw [List.flatMap_cons, List.append_assoc]
            exact endsChoice_bindingLexemes
      have read := @statement_bindingLine name depth _ areNames.1 plain.1 endsLater
      obtain ⟨first, others, split, goesOn, -⟩ := exists_cons_of_bindingLexemes name
      rw [lexemes_bindingOf, split] at read
      rw [List.flatMap_cons, List.append_assoc, split]
      change ReadsStatements _ _ ([bindingStatement name] ++ (names.map bindingStatement ++ inside))
        behind
      refine .more read goesOn ?_ later
      exact Nat.le.intro ((Nat.add_comm _ _).trans List.length_append.symm)

/-- Where a name is spelled like a keyword, the lines that take the names from the context begin no
statements. -/
theorem not_reads_bindingLexemes (areNames : ∀ name ∈ names, IsName name)
    (reserved : ∃ name ∈ names, Keyword.ofText? name ≠ none) :
    ¬ReadsStatements (Inner.ofDepth (depth + 2)) (names.flatMap bindingLexemes ++ rest) inside
      (.dedent :: behind) := by
  induction names generalizing inside with
  | nil => exact fun _ => (List.not_mem_nil reserved.choose_spec.1).elim
  | cons name names ih =>
      intro reads
      obtain ⟨isName, later⟩ := List.forall_mem_cons.mp areNames
      obtain ⟨first, others, split, goesOn, -⟩ := exists_cons_of_bindingLexemes name
      have longer : (name :: names).flatMap bindingLexemes ++ rest ≠ .dedent :: behind := by
        rw [List.flatMap_cons, split]
        exact fun same => goesOn (List.cons.inj same).1
      rw [List.flatMap_cons, List.append_assoc] at reads longer
      by_cases plain : Keyword.ofText? name = none
      · -- The name is bound, so the keyword is among the names behind it.
        obtain ⟨other, member, isReserved⟩ := reserved
        have inLater : other ∈ names := by
          rcases List.mem_cons.mp member with rfl | inLater
          · exact (isReserved plain).elim
          · exact inLater
        have ends : EndsChoice (names.flatMap bindingLexemes ++ rest) := by
          cases names with
          | nil => cases inLater
          | cons next names =>
              rw [List.flatMap_cons, List.append_assoc]
              exact endsChoice_bindingLexemes
        have read := @statement_bindingLine name depth _ isName plain ends
        rw [lexemes_bindingOf] at read
        obtain ⟨_, -, readsLater⟩ := reads.exists_behind longer read
        exact ih later ⟨other, inLater, isReserved⟩ readsLater
      · obtain ⟨_, _, _, -, read, -⟩ := reads.exists_first longer
        have refused := @statement_bindingLine_keyword name depth
          (names.flatMap bindingLexemes ++ rest) isName plain
        rw [lexemes_bindingOf] at refused
        cases refused.symm.trans read

/-- No statement begins with a further branch of a choice. -/
theorem statement_branch {word : Keyword} (isBranch : word = .elifWord ∨ word = .elseWord)
    (rest : List Lexeme) : statement (Inner.ofDepth depth) (.keyword word :: rest) = none := by
  rcases isBranch with rfl | rfl
  all_goals
    obtain _ | _ | depth := depth
    · rfl
    · rfl
    · rfl

/-- Statements go on with no choice before them. -/
theorem endsChoice_of_reads (reads : ReadsStatements (Inner.ofDepth depth) lexemes inside behind)
    (ends : EndsChoice behind) : EndsChoice lexemes := by
  cases reads with
  | none => exact ends
  | more read _ _ _ =>
      refine endsChoice_cons ⟨?_, ?_⟩
      · rintro rfl
        rw [statement_branch (.inl rfl)] at read
        cases read
      · rintro rfl
        rw [statement_branch (.inr rfl)] at read
        cases read

/-- The text of a program has no lone surrogate and no code point zero. -/
theorem clean_of_readProgram (read : readProgram source = .ok unbound) :
    ∀ point ∈ source, point.isSurrogate = false ∧ point ≠ 0 := by
  unfold readProgram at read
  split at read
  · cases read
  next noSurrogate =>
    split at read
    · cases read
    · next noZero =>
        intro point member
        refine ⟨List.findIdx?_eq_none_iff.mp noSurrogate point member, ?_⟩
        rintro rfl
        exact noZero (List.contains_iff_mem.mpr member)

/-- A clean text is read as it is parsed. -/
theorem readProgram_of_clean (clean : ∀ point ∈ source, point.isSurrogate = false ∧ point ≠ 0) :
    readProgram source = match parse? source with
      | some program => .ok program
      | none => .error .malformed := by
  have noSurrogate : source.findIdx? CodePoint.isSurrogate = none :=
    List.findIdx?_eq_none_iff.mpr fun point member => (clean point member).1
  have noZero : source.contains 0 = false := by
    rw [Bool.eq_false_iff, ne_eq, List.contains_iff_mem]
    exact fun member => (clean 0 member).2 rfl
  unfold readProgram
  rw [noSurrogate]
  exact if_neg (ne_true_of_eq_false noZero)

/-- A clean text is the program that its lexemes spell. -/
theorem readProgram_of_lexemes {program : Program} {found : List Lexeme}
    (clean : ∀ point ∈ source, point.isSurrogate = false ∧ point ≠ 0)
    (isFound : Script.lexemes source = some found)
    (spelled : programOf? (source.length + 4) found = some program) :
    readProgram source = .ok program := by
  have parsed : parse? source = some program := Option.bind_eq_some_iff.mpr ⟨found, isFound, spelled⟩
  rw [readProgram_of_clean clean, parsed]

/-- A clean text whose lexemes spell no program is none. -/
theorem readProgram_of_refused {found : List Lexeme}
    (clean : ∀ point ∈ source, point.isSurrogate = false ∧ point ≠ 0)
    (isFound : Script.lexemes source = some found)
    (refused : programOf? (source.length + 4) found = none) :
    readProgram source = .error .malformed := by
  have parsed : parse? source = none := by
    unfold parse?
    rw [isFound]
    exact refused
  rw [readProgram_of_clean clean, parsed]

/-- A text between the lines before a body and the line behind it is scanned behind the former. -/
theorem lexemes_prologue (plain : carriageReturn ∉ front) :
    Script.lexemes (prologue ++ front ++ body ++ epilogue) =
      (lexemesBehind 1 (front ++ unifyLineEnds (body ++ epilogue))).map frontLexemes := by
  have plainFront : carriageReturn ∉ prologue ++ front := by
    rw [List.mem_append, not_or]
    exact ⟨by decide, plain⟩
  have held : body ++ epilogue ≠ [] := List.append_ne_nil_of_right_ne_nil body (by decide)
  rw [List.append_assoc, Script.lexemes, unifyLineEnds_append plainFront held, List.append_assoc]
  exact lexemesBehind_prologue

/-- Lines in front of the body of a program add their statements to its function. -/
theorem programOf?_bindingLexemes {length : Nat} (areNames : ∀ name ∈ names, IsName name)
    (plain : ∀ name ∈ names, Keyword.ofText? name = none)
    (fits : weight (frontLexemes lexemes) ≤ length + 1) (words : HasWords (frontLexemes lexemes))
    (spelled : programOf? (length + 4) (frontLexemes lexemes) = some unbound) :
    ∃ inside others,
      unbound = renderDefinition (bufferStatement :: appendStatement :: inside) :: others ∧
      ∀ longer, length ≤ longer →
        programOf? (longer + 4) (frontLexemes (names.flatMap bindingLexemes ++ lexemes)) =
          some (renderDefinition (bufferStatement :: appendStatement ::
            (names.map bindingStatement ++ inside)) :: others) := by
  obtain ⟨inside, others, behind, rfl, reads, readsOthers⟩ :=
    exists_of_frontLexemes (by omega) words spelled
  refine ⟨inside, others, rfl, fun longer le => ?_⟩
  obtain ⟨fitsInside, wordsInside⟩ := inside_frontLexemes (Nat.lt_succ_of_le fits) words
  have wordsLexemes := (hasWords_append.mp (hasWords_append.mp wordsInside).2.tail).2.tail
  have fitsLexemes : weight lexemes ≤ length := by
    rw [weight_append, weight_cons, weight_append, weight_cons] at fitsInside
    have one : Lexeme.lineEnd.weight = 1 := rfl
    omega
  obtain ⟨taken, split, -⟩ :=
    reads.exists_laidBlock (alike_self (by omega)) (Nat.le_refl _) wordsLexemes
  have fitsBehind : weight behind ≤ length := by
    rw [split, weight_append, weight_cons] at fitsLexemes
    omega
  have wordsBehind : HasWords behind := (hasWords_append.mp (split ▸ wordsLexemes)).2.tail
  have ends : EndsChoice lexemes := endsChoice_of_reads reads (endsChoice_cons (by decide))
  have deeper : ReadsStatements (Inner.ofDepth (longer + 3)) lexemes inside (.dedent :: behind) :=
    reads.congr (Inner.alike_ofDepth _ _ _ (by omega) (by omega)) (alike_self (by omega))
      (Nat.le_refl _) wordsLexemes
  have deeperOthers : ReadsStatements (Inner.ofDepth (longer + 4)) behind others [] :=
    readsOthers.congr (Inner.alike_ofDepth _ _ _ (by omega) (by omega)) (alike_self (by omega))
      (Nat.le_refl _) wordsBehind
  exact programOf?_frontLexemes (reads_bindingLexemes areNames plain ends deeper) deeperOthers

theorem isName_of_mem_sortedSet (read : readProgram source = .ok unbound) :
    ∀ name ∈ sortedSet (NameUse.ofProgram unbound).referenced, IsName name := by
  intro name member
  unfold sortedSet at member
  rw [List.mem_mergeSort, List.mem_eraseDups] at member
  exact isName_of_mem_referenced read member

/-- A program that has been read is clean with the lines of the context, and these are scanned
between the lines of its function and its body. -/
theorem exists_lexemes_boundProgram
    (read : readProgram (prologue ++ body ++ epilogue) = .ok unbound) :
    ∃ lexemes, Script.lexemes (prologue ++ body ++ epilogue) = some (frontLexemes lexemes) ∧
      programOf? ((prologue ++ body ++ epilogue).length + 4) (frontLexemes lexemes) = some unbound ∧
      (∀ point ∈ boundProgram (NameUse.ofProgram unbound) body,
        point.isSurrogate = false ∧ point ≠ 0) ∧
      Script.lexemes (boundProgram (NameUse.ofProgram unbound) body) = some (frontLexemes
        ((sortedSet (NameUse.ofProgram unbound).referenced).flatMap bindingLexemes ++ lexemes)) := by
  have areNames := isName_of_mem_sortedSet read
  have cleanLines := isClean_bindingLines areNames
  obtain ⟨found, isFound, spelled⟩ := exists_lexemes_of_readProgram read
  have whole := @lexemes_prologue body [] List.not_mem_nil
  rw [List.append_nil, isFound] at whole
  obtain ⟨lexemes, scanned, rfl⟩ := Option.map_eq_some_iff.mp whole.symm
  refine ⟨lexemes, isFound, spelled, ?_, ?_⟩
  · have clean := clean_of_readProgram read
    unfold boundProgram
    simp only [List.forall_mem_append] at clean ⊢
    exact ⟨⟨⟨clean.1.1, fun point member => ⟨(cleanLines point member).2.2,
      (cleanLines point member).1⟩⟩, clean.1.2⟩, clean.2⟩
  · unfold boundProgram
    rw [lexemes_prologue fun member => (cleanLines _ member).2.1 rfl,
      lexemesBehind_bindingLines areNames]
    rw [List.nil_append] at scanned
    rw [scanned]
    rfl

/-- **The lines of the context add one statement for each name**, where no name is spelled like a
keyword. What is a program without them is the definition of the render function, and perhaps more,
and the program with them differs in these statements only. -/
theorem readProgram_boundProgram (read : readProgram (prologue ++ body ++ epilogue) = .ok unbound) :
    ∃ inside others,
      unbound = renderDefinition (bufferStatement :: appendStatement :: inside) :: others ∧
      ((∀ name ∈ sortedSet (NameUse.ofProgram unbound).referenced, Keyword.ofText? name = none) →
        readProgram (boundProgram (NameUse.ofProgram unbound) body) =
          .ok (renderDefinition (bufferStatement :: appendStatement ::
            ((sortedSet (NameUse.ofProgram unbound).referenced).map bindingStatement ++ inside)) ::
              others)) := by
  obtain ⟨lexemes, isFound, spelled, clean, scanned⟩ := exists_lexemes_boundProgram read
  have fits := weight_lexemes isFound
  obtain ⟨inside, others, -, rfl, -⟩ :=
    @exists_of_frontLexemes ((prologue ++ body ++ epilogue).length + 2) _ _ (by omega)
      (hasWords_lexemes isFound) spelled
  refine ⟨inside, others, rfl, fun plain => readProgram_of_lexemes clean scanned ?_⟩
  obtain ⟨_, _, same, spelledBound⟩ := programOf?_bindingLexemes (isName_of_mem_sortedSet read)
    plain fits (hasWords_lexemes isFound) spelled
  cases same
  refine spelledBound _ ?_
  unfold boundProgram
  simp only [List.length_append]
  omega

/-- The lines of the context take the walk over a program no less deep. -/
theorem programDepth_le_bindings : programDepth
      (renderDefinition (bufferStatement :: appendStatement :: inside) :: others) ≤
    programDepth (renderDefinition (bufferStatement :: appendStatement ::
      (names.map bindingStatement ++ inside)) :: others) := by
  have inner : stmtsDepth inside ≤ stmtsDepth (names.map bindingStatement ++ inside) := by
    rw [stmtsDepth_append]
    exact le_max_right _ _
  exact max_le_max_right _ (max_le_max_left _ (max_le_max_left _ (max_le_max_left _ inner)))

/-- **No line takes a name that is spelled like a keyword from the context**: with the lines of the
context, the text is no program. -/
theorem readProgram_boundProgram_keyword
    (read : readProgram (prologue ++ body ++ epilogue) = .ok unbound)
    (reserved : ∃ name ∈ sortedSet (NameUse.ofProgram unbound).referenced,
      Keyword.ofText? name ≠ none) :
    readProgram (boundProgram (NameUse.ofProgram unbound) body) = .error .malformed := by
  obtain ⟨lexemes, -, -, clean, scanned⟩ := exists_lexemes_boundProgram read
  refine readProgram_of_refused clean scanned ?_
  have fits := weight_lexemes scanned
  rw [Option.eq_none_iff_forall_ne_some]
  intro program spelled
  obtain ⟨_, _, _, -, reads, -⟩ := @exists_of_frontLexemes
    ((boundProgram (NameUse.ofProgram unbound) body).length + 2) _ _ (by omega)
    (hasWords_lexemes scanned) spelled
  exact not_reads_bindingLexemes (isName_of_mem_sortedSet read) reserved reads

/-- Where the lines of the context belong to a program, none of them takes a name that is spelled like
a keyword. -/
theorem unreserved_of_readProgram {program : Program}
    (read : readProgram (prologue ++ body ++ epilogue) = .ok unbound)
    (readBound : readProgram (boundProgram (NameUse.ofProgram unbound) body) = .ok program) :
    ∀ name ∈ sortedSet (NameUse.ofProgram unbound).referenced, Keyword.ofText? name = none := by
  intro name member
  by_contra reserved
  cases (readProgram_boundProgram_keyword read ⟨name, member, reserved⟩).symm.trans readBound

end Stencil
