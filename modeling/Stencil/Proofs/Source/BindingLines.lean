import Stencil.Proofs.Source.WordText

/-! # The lines that take names from the context

A program that reads a name begins with a line that takes the value of the name from the context.
The line spells the same lexemes whatever the name is, and they are read as one statement
(`Stencil.statement_bindingLine`) unless the name is spelled like a keyword: a name can be written
in letters that keywords are not written in, and its line is then refused
(`Stencil.statement_bindingLine_keyword`).
-/

namespace Stencil

open Script Script.Reader Source CodePoint Text

variable {name : Name} {depth : Nat} {rest : List Lexeme}

namespace RenderLine

/-- The lexemes of the line that takes a value from the context where the context has one, with the
lexeme of the name. -/
def fetchLexemes (name : Name) (bound : Lexeme) : List Lexeme :=
  [.keyword .ifWord, .string ⟨false, false, false, name⟩, .keyword .inWord, .name (text "ctx"),
    .symbol .colon, bound, .symbol .equal, .name (text "ctx"), .symbol .leftBracket,
    .string ⟨false, false, false, name⟩, .symbol .rightBracket]

/-- The lexemes of the line that takes the value of a public name, with the lexeme of the name. -/
def preferLexemes (name : Name) (bound : Lexeme) : List Lexeme :=
  [bound, .symbol .equal, .name (text "ctx"), .symbol .dot, .name (text "get"),
    .symbol .leftParen, .string ⟨false, false, false, name⟩, .symbol .comma,
    .name (text "_builtins"), .symbol .dot, bound, .symbol .rightParen]

/-- The line that takes the value of a name from the context where the context has one. -/
def fetch (isName : IsName name) : Line where
  content := text "if " ++ name.quoted ++ text " in ctx: " ++ name ++ text " = ctx[" ++
    name.quoted ++ text "]"
  lexemes := fetchLexemes name (wordLexeme name)
  spells := by
    have noApostrophe : (space :: (text "in" ++ space :: (text "ctx" ++ 58 :: space ::
        (name ++ space :: 61 :: space :: (text "ctx" ++ 91 ::
          (name.quoted ++ [93])))))).head? ≠ some apostrophe := fun isHead => nomatch isHead
    have key : LineSpells [] (text "ctx" ++ 91 :: (name.quoted ++ [93]))
        (wordLexeme (text "ctx") :: .symbol .leftBracket ::
          [.string ⟨false, false, false, name⟩, .symbol .rightBracket]) := by
      refine .word (by decide) (endsWord_cons (by decide)) (.mark (by decide) ?_ rfl
        (isName.spells_quoted (by decide) (.mark (by decide) (by decide) rfl .done)))
      rw [isName.quoted_eq]
      exact endsMark_cons (by decide)
    simp only [List.append_assoc]
    change LineSpells [] (text "if" ++ space :: (name.quoted ++ space :: (text "in" ++
      space :: (text "ctx" ++ 58 :: space :: (name ++ space :: 61 :: space ::
        (text "ctx" ++ 91 :: (name.quoted ++ [93]))))))) (wordLexeme (text "if") :: _ ::
          wordLexeme (text "in") :: wordLexeme (text "ctx") :: _ :: _ :: _ ::
            wordLexeme (text "ctx") :: _)
    exact .word (by decide) (endsWord_cons (by decide)) (.blank (isName.spells_quoted
      noApostrophe (.blank (.word (by decide) (endsWord_cons (by decide)) (.blank
        (.word (by decide) (endsWord_cons (by decide)) (.mark (by decide)
          (endsMark_cons (by decide)) rfl (.blank (isName.spells (endsWord_cons (by decide))
            (.blank (.mark (by decide) (endsMark_cons (by decide)) rfl (.blank key))))))))))))
  begins := rfl
  clean := by
    simp only [List.forall_mem_append]
    exact ⟨⟨⟨⟨⟨⟨by decide, isName.isClean_quoted⟩, by decide⟩, isName.isClean⟩, by decide⟩,
      isName.isClean_quoted⟩, by decide⟩

/-- The line that takes the value of a public name from the context, or else its own value. -/
def prefer (isName : IsName name) : Line where
  content := name ++ text " = ctx.get(" ++ name.quoted ++ text ", _builtins." ++ name ++ text ")"
  lexemes := preferLexemes name (wordLexeme name)
  spells := by
    have fallback : LineSpells [.rightParen] (text "_builtins" ++ 46 :: (name ++ [41]))
        (wordLexeme (text "_builtins") :: .symbol .dot :: [wordLexeme name, .symbol .rightParen]) :=
      .word (by decide) (endsWord_cons (by decide)) (.mark (by decide) isName.endsMark rfl
        (isName.spells (endsWord_cons (by decide)) (.mark (by decide) (by decide) rfl .done)))
    have arguments : LineSpells [.rightParen]
        (name.quoted ++ 44 :: space :: (text "_builtins" ++ 46 :: (name ++ [41])))
        (.string ⟨false, false, false, name⟩ :: .symbol .comma ::
          wordLexeme (text "_builtins") :: .symbol .dot :: [wordLexeme name, .symbol .rightParen]) :=
      isName.spells_quoted (fun isHead => nomatch isHead) (.mark (by decide)
        (endsMark_cons (by decide)) rfl (.blank fallback))
    simp only [List.append_assoc]
    change LineSpells [] (name ++ space :: 61 :: space :: (text "ctx" ++ 46 :: (text "get" ++
      40 :: (name.quoted ++ 44 :: space :: (text "_builtins" ++ 46 :: (name ++ [41]))))))
      (_ :: _ :: wordLexeme (text "ctx") :: _ :: wordLexeme (text "get") :: _ :: _)
    refine isName.spells (endsWord_cons (by decide)) (.blank (.mark (by decide)
      (endsMark_cons (by decide)) rfl (.blank (.word (by decide) (endsWord_cons (by decide))
        (.mark (by decide) (endsMark_cons (by decide)) rfl (.word (by decide)
          (endsWord_cons (by decide)) (.mark (by decide) ?_ rfl arguments)))))))
    rw [isName.quoted_eq]
    exact endsMark_cons (by decide)
  begins := by
    obtain ⟨first, others, rfl, -, continues⟩ := exists_cons_of_isIdentifier isName.1
    exact continues first List.mem_cons_self
  clean := by
    simp only [List.forall_mem_append]
    exact ⟨⟨⟨⟨⟨isName.isClean, by decide⟩, isName.isClean_quoted⟩, by decide⟩, isName.isClean⟩,
      by decide⟩

/-- The line that takes the value of a name from the context. -/
def bindingOf (isName : IsName name) : Line := if isPublicName name then prefer isName else fetch isName

end RenderLine

/-- The line that takes a name from the context is a line of the body. -/
theorem bindingLine_eq_text (isName : IsName name) :
    bindingLine name = (RenderLine.bindingOf isName).text 1 := by
  rw [bindingLine, RenderLine.bindingOf]
  split
  · exact @bodyLine_eq_text 0 (RenderLine.prefer isName)
  · exact @bodyLine_eq_text 0 (RenderLine.fetch isName)

/-- The statement that takes the value of a name from the context where the context has one. -/
def fetchStatement (name : Name) : Stmt :=
  .ifBlock (.compared (.constant (.text name)) [.within] [.name (text "ctx")])
    [.assign [.name name] (.subscript (.name (text "ctx")) (.constant (.text name)))] []

/-- The statement that takes the value of a public name from the context, or else its own. -/
def preferStatement (name : Name) : Stmt :=
  .assign [.name name] (.call (.attribute (.name (text "ctx")) (text "get"))
    [.constant (.text name), .attribute (.name (text "_builtins")) name] [])

/-- The statement that takes the value of a name from the context. -/
def bindingStatement (name : Name) : Stmt :=
  if isPublicName name then preferStatement name else fetchStatement name

/-- The test of the line is read in front of what stands behind it. -/
theorem choiceBranch_fetch (isName : IsName name) {lexemes : List Lexeme} :
    choiceBranch (Inner.ofDepth (depth + 2)) (.string ⟨false, false, false, name⟩ ::
      .keyword .inWord :: .name (text "ctx") :: .symbol .colon :: lexemes) =
        (colonBlock (Inner.ofDepth (depth + 2)) (.symbol .colon :: lexemes)).map fun found =>
          ((.compared (.constant (.text name)) [.within] [.name (text "ctx")], found.1), found.2) := by
  have within : Degree.primary (Inner.ofDepth (depth + 1)) (.string
      ⟨false, false, false, name⟩ :: .keyword .inWord :: .name (text "ctx") ::
        .symbol .colon :: lexemes) = some (.constant (.text name), _) :=
    primary_of_atom (atom_string isName.decodeText_eq fun _ same => nomatch same) rfl
  have tested : (Inner.ofDepth (depth + 2)).expression (.string ⟨false, false, false, name⟩ ::
      .keyword .inWord :: .name (text "ctx") :: .symbol .colon :: lexemes) = some
        (.compared (.constant (.text name)) [.within] [.name (text "ctx")], .symbol .colon :: lexemes) :=
    Degree.expression_within rfl rfl rfl within (primary_of_atom (atom_name rfl) rfl)
  have named : namedExpression (Inner.ofDepth (depth + 2)) (.string
      ⟨false, false, false, name⟩ :: .keyword .inWord :: .name (text "ctx") ::
        .symbol .colon :: lexemes) = some (_, .symbol .colon :: lexemes) :=
    (namedExpression_of_expression (by rintro ⟨⟩)).trans tested
  unfold choiceBranch
  rw [bind_apply, named]
  change (colonBlock (Inner.ofDepth (depth + 2)) (.symbol .colon :: lexemes)).bind _ = _
  cases colonBlock (Inner.ofDepth (depth + 2)) (.symbol .colon :: lexemes) <;> rfl

theorem statement_fetch (isName : IsName name) (plain : Keyword.ofText? name = none)
    (ends : EndsChoice rest) :
    statement (Inner.ofDepth (depth + 2)) ((RenderLine.fetch isName).lexemes ++ .lineEnd :: rest) =
      some ([fetchStatement name], rest) := by
  have element : (Inner.ofDepth (depth + 2)).expression (.name (text "ctx") ::
      .symbol .leftBracket :: .string ⟨false, false, false, name⟩ ::
        .symbol .rightBracket :: .lineEnd :: rest) =
      some (.subscript (.name (text "ctx")) (.constant (.text name)), .lineEnd :: rest) :=
    Degree.expression_of_primary rfl rfl (primary_of_steps (atom_name rfl)
      (.more (trailStep_subscript rfl (fun isHead => nomatch isHead)
        (expression_text isName.decodeText_eq rfl)) .none) (Nat.succ_le_succ (Nat.zero_le _)) rfl)
  have assigned : simpleStatement (Inner.ofDepth (depth + 2)) (.name name ::
      .symbol .equal :: .name (text "ctx") :: .symbol .leftBracket ::
        .string ⟨false, false, false, name⟩ :: .symbol .rightBracket :: .lineEnd :: rest) =
      some (.assign [.name name]
        (.subscript (.name (text "ctx")) (.constant (.text name))), .lineEnd :: rest) :=
    simpleStatement_assign rfl (expression_name isName.2 rfl) element
  have branch := @choiceBranch_fetch name depth isName (.name name ::
    .symbol .equal :: .name (text "ctx") :: .symbol .leftBracket ::
      .string ⟨false, false, false, name⟩ :: .symbol .rightBracket :: .lineEnd :: rest)
  rw [colonBlock_line assigned] at branch
  change statement _ (RenderLine.fetchLexemes name (wordLexeme name) ++ _) = _
  rw [wordLexeme_name plain]
  exact statement_choice branch .none (Nat.zero_le _) ends.1 (elseBlock_none ends.2) rfl

theorem statement_prefer (isName : IsName name) (plain : Keyword.ofText? name = none)
    (isPublic : isPublicName name = true) :
    statement (Inner.ofDepth (depth + 2)) ((RenderLine.prefer isName).lexemes ++ .lineEnd :: rest) =
      some ([preferStatement name], rest) := by
  have differs : name ≠ text "match" := by
    rintro rfl
    exact absurd isPublic (by decide +kernel)
  have fallback : (Inner.ofDepth (depth + 1)).expression (.name (text "_builtins") ::
      .symbol .dot :: .name name :: .symbol .rightParen :: .lineEnd :: rest) =
      some (.attribute (.name (text "_builtins")) name, .symbol .rightParen :: .lineEnd :: rest) :=
    Degree.expression_of_primary rfl rfl (primary_of_steps (atom_name rfl)
      (.more (trailStep_attribute isName.2) .none) (Nat.succ_le_succ (Nat.zero_le _)) rfl)
  have arguments : callArguments (Inner.ofDepth (depth + 1)) (.string
      ⟨false, false, false, name⟩ :: .symbol .comma :: .name (text "_builtins") :: .symbol .dot ::
        .name name :: .symbol .rightParen :: .lineEnd :: rest) =
      some (([.constant (.text name), .attribute (.name (text "_builtins")) name], []),
        .lineEnd :: rest) := by
    refine callArguments_pair rfl rfl ?_ ?_ ?_ ?_ (expression_text isName.decodeText_eq rfl) fallback
    all_goals exact fun isHead => nomatch isHead
  change statement _ (RenderLine.preferLexemes name (wordLexeme name) ++ _) = _
  rw [wordLexeme_name plain]
  exact statement_assign differs rfl (expression_name isName.2 rfl)
    (Degree.expression_of_primary rfl rfl (primary_of_steps (atom_name rfl)
      (.more (trailStep_attribute rfl) (.more (trailStep_call arguments) .none))
        (Nat.succ_le_succ (Nat.succ_le_succ (Nat.zero_le _))) rfl))

/-- **The line that takes a name from the context is one statement**, where no keyword is spelled
like the name. -/
theorem statement_bindingLine (isName : IsName name) (plain : Keyword.ofText? name = none)
    (ends : EndsChoice rest) :
    statement (Inner.ofDepth (depth + 2)) ((RenderLine.bindingOf isName).lexemes ++ .lineEnd :: rest) =
      some ([bindingStatement name], rest) := by
  rw [RenderLine.bindingOf, bindingStatement]
  split
  · next isPublic => exact statement_prefer isName plain isPublic
  · exact statement_fetch isName plain ends

/-- What a keyword begins ends in front of a mark of an assignment, if it is a statement at all. -/
theorem simpleStatement_keyword {word : Keyword}
    (differs : word ≠ .noneWord ∧ word ≠ .trueWord ∧ word ≠ .falseWord) :
    simpleStatement (Inner.ofDepth (depth + 2)) (.keyword word :: .symbol .equal :: rest) = none ∨
      ∃ found, simpleStatement (Inner.ofDepth (depth + 2))
        (.keyword word :: .symbol .equal :: rest) = some (found, .symbol .equal :: rest) := by
  cases word
  case noneWord => exact absurd rfl differs.1
  case trueWord => exact absurd rfl differs.2.1
  case falseWord => exact absurd rfl differs.2.2
  case passWord => exact .inr ⟨_, rfl⟩
  case breakWord => exact .inr ⟨_, rfl⟩
  case continueWord => exact .inr ⟨_, rfl⟩
  case returnWord => exact .inr ⟨_, rfl⟩
  case raiseWord => exact .inr ⟨_, rfl⟩
  case yieldWord => exact .inr ⟨_, rfl⟩
  all_goals exact .inl rfl

/-- No line binds a keyword behind a colon. -/
theorem colonBlock_keyword {word : Keyword}
    (differs : word ≠ .noneWord ∧ word ≠ .trueWord ∧ word ≠ .falseWord) :
    colonBlock (Inner.ofDepth (depth + 2))
      (.symbol .colon :: .keyword word :: .symbol .equal :: rest) = none := by
  have row : simpleStatements (Inner.ofDepth (depth + 2))
      (.keyword word :: .symbol .equal :: rest) = none := by
    unfold simpleStatements
    rw [bind_apply]
    rcases @simpleStatement_keyword depth rest word differs with
      refused | ⟨found, read⟩
    · rw [refused]
      rfl
    · rw [read]
      rfl
  change (block (Inner.ofDepth (depth + 2)) (.keyword word :: .symbol .equal :: rest)) = none
  exact row

/-- A keyword is spelled in one way. -/
theorem exists_spelling_of_ofText? {word : Keyword} (reserved : Keyword.ofText? name = some word) :
    ∃ entry ∈ Keyword.spellings, entry.2 = word ∧ text entry.1 = name := by
  obtain ⟨entry, found, same⟩ := Option.map_eq_some_iff.mp reserved
  have spelled := List.find?_some found
  exact ⟨entry, List.mem_of_find?_eq_some found, same, eq_of_beq spelled⟩

/-- The keywords that are public names are the three constants. -/
theorem isPublicName_of_ofText? {word : Keyword} (reserved : Keyword.ofText? name = some word) :
    isPublicName name = true ↔ word = .noneWord ∨ word = .trueWord ∨ word = .falseWord := by
  obtain ⟨entry, member, rfl, rfl⟩ := exists_spelling_of_ofText? reserved
  have each : ∀ entry ∈ Keyword.spellings, (isPublicName (text entry.1) = true ↔
      entry.2 = .noneWord ∨ entry.2 = .trueWord ∨ entry.2 = .falseWord) := by
    decide +kernel
  exact each entry member

theorem statement_fetch_keyword {word : Keyword} (isName : IsName name)
    (reserved : Keyword.ofText? name = some word)
    (differs : word ≠ .noneWord ∧ word ≠ .trueWord ∧ word ≠ .falseWord) :
    statement (Inner.ofDepth (depth + 2)) ((RenderLine.fetch isName).lexemes ++ .lineEnd :: rest) =
      none := by
  have branch := @choiceBranch_fetch name depth isName (.keyword word ::
    .symbol .equal :: .name (text "ctx") :: .symbol .leftBracket ::
      .string ⟨false, false, false, name⟩ :: .symbol .rightBracket :: .lineEnd :: rest)
  rw [colonBlock_keyword differs] at branch
  change statement _ (RenderLine.fetchLexemes name (wordLexeme name) ++ _) = _
  rw [wordLexeme_keyword reserved]
  exact statement_choice_none branch

set_option maxRecDepth 4000 in
theorem statement_prefer_keyword {word : Keyword} (isName : IsName name)
    (reserved : Keyword.ofText? name = some word)
    (isConstant : word = .noneWord ∨ word = .trueWord ∨ word = .falseWord) :
    statement (Inner.ofDepth (depth + 2)) ((RenderLine.prefer isName).lexemes ++ .lineEnd :: rest) =
      none := by
  change statement _ (RenderLine.preferLexemes name (wordLexeme name) ++ _) = _
  rw [wordLexeme_keyword reserved]
  -- The string of the line has to be decoded, so the name is needed as it is spelled.
  have spelling : name = text "None" ∧ word = .noneWord ∨ name = text "True" ∧ word = .trueWord ∨
      name = text "False" ∧ word = .falseWord := by
    obtain ⟨entry, member, rfl, rfl⟩ := exists_spelling_of_ofText? reserved
    have each : ∀ entry ∈ Keyword.spellings,
        entry.2 = .noneWord ∨ entry.2 = .trueWord ∨ entry.2 = .falseWord →
          text entry.1 = text "None" ∧ entry.2 = .noneWord ∨
            text entry.1 = text "True" ∧ entry.2 = .trueWord ∨
              text entry.1 = text "False" ∧ entry.2 = .falseWord := by
      decide +kernel
    exact each entry member isConstant
  rcases spelling with ⟨rfl, rfl⟩ | ⟨rfl, rfl⟩ | ⟨rfl, rfl⟩
  · rfl
  · rfl
  · rfl

/-- **The line of a name that is spelled like a keyword is no statement.** -/
theorem statement_bindingLine_keyword (isName : IsName name)
    (reserved : Keyword.ofText? name ≠ none) :
    statement (Inner.ofDepth (depth + 2)) ((RenderLine.bindingOf isName).lexemes ++ .lineEnd :: rest) =
      none := by
  obtain ⟨word, isWord⟩ := Option.ne_none_iff_exists'.mp reserved
  have constants := isPublicName_of_ofText? isWord
  rw [RenderLine.bindingOf]
  split
  · next isPublic => exact statement_prefer_keyword isName isWord (constants.mp isPublic)
  · next notPublic =>
      refine statement_fetch_keyword isName isWord ?_
      rwa [constants, not_or, not_or] at notPublic

end Stencil
