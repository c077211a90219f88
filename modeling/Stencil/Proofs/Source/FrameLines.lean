import Stencil.Proofs.Script.Outline
import Stencil.Proofs.Script.StatementReader
import Stencil.Source.Assembly

/-! # The lines around a body

Every render program begins with the header of its function and two lines that make the list of
what is written, and ends with the line that gives back what has been written. These lines spell
the same lexemes whatever stands between them.
-/

namespace Stencil

open Script Script.Reader Source CodePoint Text

/-- What follows a word begins with a code point that ends words. -/
theorem endsWord_cons {point : CodePoint} {rest : Text}
    (ends : couldContinueWord point = false ∧ isQuotationMark point = false) :
    EndsWord (point :: rest) := by
  intro other isHead
  cases isHead
  exact ends

theorem endsMark_cons {point : CodePoint} {rest : Text}
    (ends : point ≠ 61 ∧ point ≠ 46 ∧ point.isDigit = false) : EndsMark (point :: rest) := by
  intro other isHead
  cases isHead
  exact ends

theorem wordLexeme_name {word : Text} (noKeyword : Keyword.ofText? word = none) :
    wordLexeme word = .name word := by
  unfold wordLexeme
  rw [noKeyword]

theorem wordLexeme_keyword {word : Text} {keyword : Keyword}
    (reserved : Keyword.ofText? word = some keyword) : wordLexeme word = .keyword keyword := by
  unfold wordLexeme
  rw [reserved]

/-- A line of the body is a line of the program one level deeper. -/
theorem bodyLine_eq_text {depth : Nat} {line : Line} :
    bodyLine depth line.content = line.text (depth + 1) := by
  unfold bodyLine indentAt indentStep Text.spaces Line.text
  rw [List.flatten_replicate_replicate, Text.spaces, Nat.mul_comm]

namespace RenderLine

/-- The header of the render function. -/
def head : Line where
  content := text "def render(ctx):"
  lexemes := [.keyword .defWord, .name (text "render"), .symbol .leftParen, .name (text "ctx"),
    .symbol .rightParen, .symbol .colon]
  spells := by
    change LineSpells [] (text "def" ++ space :: (text "render" ++ 40 :: (text "ctx" ++
      [41, 58]))) (wordLexeme (text "def") :: wordLexeme (text "render") :: _ ::
        wordLexeme (text "ctx") :: _)
    exact .word (by decide) (by decide) (.blank (.word (by decide) (by decide)
      (.mark (by decide) (by decide) rfl (.word (by decide) (by decide)
        (.mark (by decide) (by decide) rfl (.mark (by decide) (by decide) rfl .done))))))
  begins := by decide
  clean := by decide

/-- The line that makes the list of what is written. -/
def buffer : Line where
  content := text "_buf = []"
  lexemes := [.name (text "_buf"), .symbol .equal, .symbol .leftBracket, .symbol .rightBracket]
  spells := by
    change LineSpells [] (text "_buf" ++ space :: 61 :: space :: [91, 93])
      (wordLexeme (text "_buf") :: _)
    exact .word (by decide) (by decide) (.blank (.mark (by decide) (by decide) rfl (.blank
      (.mark (by decide) (by decide) rfl (.mark (by decide) (by decide) rfl .done)))))
  begins := by decide
  clean := by decide

/-- The line that names the method that writes. -/
def append : Line where
  content := text "_append = _buf.append"
  lexemes := [.name (text "_append"), .symbol .equal, .name (text "_buf"), .symbol .dot,
    .name (text "append")]
  spells := by
    change LineSpells [] (text "_append" ++ space :: 61 :: space :: (text "_buf" ++
      46 :: (text "append" ++ []))) (wordLexeme (text "_append") :: _ ::
        wordLexeme (text "_buf") :: _ :: [wordLexeme (text "append")])
    exact .word (by decide) (by decide) (.blank (.mark (by decide) (by decide) rfl (.blank
      (.word (by decide) (by decide) (.mark (by decide) (by decide) rfl
        (.word (by decide) (by decide) .done))))))
  begins := by decide
  clean := by decide

/-- The line that gives back what has been written. -/
def finish : Line where
  content := text "return ''.join(_buf)"
  lexemes := [.keyword .returnWord, .string ⟨false, false, false, []⟩, .symbol .dot,
    .name (text "join"), .symbol .leftParen, .name (text "_buf"), .symbol .rightParen]
  spells := by
    change LineSpells [] (text "return" ++ space :: (apostrophe :: [] ++ apostrophe :: 46 ::
      (text "join" ++ 40 :: (text "_buf" ++ [41])))) (wordLexeme (text "return") :: _ :: _ ::
        wordLexeme (text "join") :: _ :: wordLexeme (text "_buf") :: _)
    refine .word (by decide) (by decide) (.blank (.string ?_ (by decide) (by decide)
      (.mark (by decide) (by decide) rfl (.word (by decide) (by decide) (.mark (by decide)
        (by decide) rfl (.word (by decide) (by decide) (.mark (by decide) (by decide) rfl
          .done)))))))
    intro behind
    cases behind <;> rfl
  begins := by decide
  clean := by decide

end RenderLine

theorem prologue_eq : prologue =
    RenderLine.head.text 0 ++ RenderLine.buffer.text 1 ++ RenderLine.append.text 1 := by decide

theorem epilogue_eq : epilogue = RenderLine.finish.text 1 := by decide

section

variable {depth : Nat} {next : Lexeme} {rest : List Lexeme} {name : Name}

/-- A name that a row ends with is an expression. -/
theorem expression_name (spelled : name.spelledName = name) (ends : next.endsExpression = true) :
    (Inner.ofDepth (depth + 1)).expression (.name name :: next :: rest) =
      some (.name name, next :: rest) :=
  Degree.expression_of_primary rfl ends
    (primary_of_atom (atom_name spelled) (Degree.endsOperand_of_endsExpression ends))

theorem expression_text {body content : Text} (decoded : decodeText false body = some content)
    (ends : next.endsExpression = true) :
    (Inner.ofDepth (depth + 1)).expression
        (.string ⟨false, false, false, body⟩ :: next :: rest) =
      some (.constant (.text content), next :: rest) :=
  Degree.expression_of_primary rfl ends (primary_of_atom
    (atom_string decoded (ne_string_of_endsOperand (Degree.endsOperand_of_endsExpression ends)))
    (Degree.endsOperand_of_endsExpression ends))

/-- A call of a name with one argument is an expression. -/
theorem expression_call {argument : Expr} {first : Lexeme} {lexemes : List Lexeme}
    (spelled : name.spelledName = name) (starts : startsExpression first = true)
    (noWalrus : lexemes.head? ≠ some (.symbol .walrus))
    (noName : lexemes.head? ≠ some (.symbol .equal)) (ends : next.endsExpression = true)
    (read : (Inner.ofDepth depth).expression (first :: lexemes) =
      some (argument, .symbol .rightParen :: next :: rest)) :
    (Inner.ofDepth (depth + 1)).expression
        (.name name :: .symbol .leftParen :: first :: lexemes) =
      some (.call (.name name) [argument] [], next :: rest) :=
  Degree.expression_of_primary rfl ends (primary_of_steps (atom_name spelled)
    (.more (trailStep_call (callArguments_single starts noWalrus noName read)) .none)
    (Nat.succ_le_succ (Nat.zero_le _)) (Degree.endsOperand_of_endsExpression ends))

/-- The statement that makes the list of what is written. -/
def bufferStatement : Stmt := .assign [.name (text "_buf")] (.list [])

/-- The statement that names the method that writes. -/
def appendStatement : Stmt :=
  .assign [.name (text "_append")] (.attribute (.name (text "_buf")) (text "append"))

/-- The statement that gives back what has been written. -/
def finishStatement : Stmt :=
  .returnValue (some (.call (.attribute (.constant (.text [])) (text "join"))
    [.name (text "_buf")] []))

/-- The definition of a render function with a body. -/
def renderDefinition (body : List Stmt) : Stmt :=
  .functionDef false (text "render") [.mk .ordinary (text "ctx") none none] none [] body

theorem statement_buffer : statement (Inner.ofDepth (depth + 1))
    (RenderLine.buffer.lexemes ++ .lineEnd :: rest) = some ([bufferStatement], rest) :=
  statement_assign (by decide) rfl (expression_name rfl rfl)
    (Degree.expression_of_primary rfl rfl (primary_of_atom atom_emptyList rfl))

theorem statement_append : statement (Inner.ofDepth (depth + 1))
    (RenderLine.append.lexemes ++ .lineEnd :: rest) = some ([appendStatement], rest) :=
  statement_assign (by decide) rfl (expression_name rfl rfl) (Degree.expression_of_primary rfl rfl
    (primary_of_steps (atom_name rfl) (.more (trailStep_attribute rfl) .none)
      (Nat.succ_le_succ (Nat.zero_le _)) rfl))

theorem statement_finish : statement (Inner.ofDepth (depth + 2))
    (RenderLine.finish.lexemes ++ .lineEnd :: rest) = some ([finishStatement], rest) := by
  have joined : (Inner.ofDepth (depth + 2)).expression (.string ⟨false, false, false, []⟩ ::
      .symbol .dot :: .name (text "join") :: .symbol .leftParen :: .name (text "_buf") ::
        .symbol .rightParen :: .lineEnd :: rest) =
      some (.call (.attribute (.constant (.text [])) (text "join")) [.name (text "_buf")] [],
        .lineEnd :: rest) :=
    Degree.expression_of_primary rfl rfl (primary_of_steps
      (atom_string rfl (fun _ same => nomatch same)) (.more (trailStep_attribute rfl)
        (.more (trailStep_call (callArguments_single rfl (fun isHead => nomatch isHead)
          (fun isHead => nomatch isHead) (expression_name rfl rfl))) .none))
      (Nat.succ_le_succ (Nat.succ_le_succ (Nat.zero_le _))) rfl)
  exact statement_return rfl rfl joined

end

end Stencil
