import Stencil.Proofs.Source.BindingLines
import Stencil.Proofs.Tree.Basic

/-! # The lines of a render program

The render program of a block tree is made of a few kinds of lines. Each of them is spelled by
lexemes that depend on its variables and its literal text only, whatever the names and the
text may be.
-/

namespace Stencil

open Script Source CodePoint Text

namespace Variable

variable {shown : Variable} {rest : Text} {awaited : List Symbol} {found : List Lexeme}

/-- A variable is written in letters that have no variants. -/
theorem spelledName_eq (shown : Variable) : shown.name.spelledName = shown.name :=
  spelledName_of_ascii (List.all_eq_true.mpr fun point member =>
    decide_eq_true (shown.isVariable_parts.2.1 point member))

theorem isName (shown : Variable) : IsName shown.name := ⟨shown.isIdentifier, shown.spelledName_eq⟩

theorem isClean (shown : Variable) : ∀ point ∈ shown.name, IsClean point := shown.isName.isClean

theorem endsMark : EndsMark (shown.name ++ rest) := shown.isName.endsMark

/-- The name of a variable spells itself. -/
theorem spells (ends : EndsWord rest) (spells : LineSpells awaited rest found) :
    LineSpells awaited (shown.name ++ rest) (.name shown.name :: found) := by
  rw [← wordLexeme_name shown.ofText?_eq_none]
  exact shown.isName.spells ends spells

end Variable

/-- Literal text in a string spells the string that stands for it. -/
theorem spells_quoteLiteral {content rest : Text} {awaited : List Symbol} {found : List Lexeme}
    (short : rest.head? ≠ some apostrophe) (spells : LineSpells awaited rest found) :
    LineSpells awaited (quoteLiteral (normalize content) ++ rest)
      (.string ⟨false, false, false, content.flatMap literalForm⟩ :: found) := by
  have split : quoteLiteral (normalize content) ++ rest =
      apostrophe :: content.flatMap literalForm ++ apostrophe :: rest := by
    rw [quoteLiteral_normalize, List.append_assoc]
    rfl
  rw [split]
  exact .string (fun _ => bodyLength_quoted) head?_flatMap_literalForm (fun _ => short) spells

theorem isClean_quoteLiteral (content : Text) :
    ∀ point ∈ quoteLiteral (normalize content), IsClean point := by
  intro point member
  have safe := (safe_quoteLiteral member).1
  have outside := isUnsafe_iff.not.mp (Bool.eq_false_iff.mp safe)
  have clean : ∀ other : Nat, ¬(other ≤ 8 ∨ (11 ≤ other ∧ other ≤ 31) ∨ other = 127 ∨
      (0xD800 ≤ other ∧ other ≤ 0xDFFF)) → other ≠ 0 ∧ other ≠ 13 ∧
        ¬(0xD800 ≤ other ∧ other ≤ 0xDFFF) := by
    omega
  obtain ⟨notZero, notReturn, noSurrogate⟩ := clean point outside
  refine ⟨notZero, notReturn, ?_⟩
  rw [Bool.eq_false_iff, isSurrogate, ne_eq, Bool.and_eq_true, decide_eq_true_eq,
    decide_eq_true_eq]
  exact noSurrogate

namespace RenderLine

/-- The line that does nothing. -/
def skip : Line where
  content := text "pass"
  lexemes := [.keyword .passWord]
  spells := by
    change LineSpells [] (text "pass" ++ []) [wordLexeme (text "pass")]
    exact .word (by decide) (by decide) .done
  begins := by decide
  clean := by decide

/-- The line that writes literal text. -/
def literal (content : Text) : Line where
  content := appendCall (quoteLiteral (normalize content))
  lexemes := [.name (text "_append"), .symbol .leftParen,
    .string ⟨false, false, false, content.flatMap literalForm⟩, .symbol .rightParen]
  spells := by
    simp only [appendCall, List.append_assoc]
    change LineSpells [] (text "_append" ++ 40 :: (quoteLiteral (normalize content) ++ [41]))
      (wordLexeme (text "_append") :: _)
    refine .word (by decide) (endsWord_cons (by decide)) (.mark (by decide) ?_ rfl
      (spells_quoteLiteral (by decide) (.mark (by decide) (by decide) rfl .done)))
    rw [quoteLiteral_normalize]
    exact endsMark_cons (by decide)
  begins := rfl
  clean := by
    simp only [appendCall, List.forall_mem_append]
    exact ⟨⟨by decide, isClean_quoteLiteral content⟩, by decide⟩

/-- The line that writes the value of a variable. -/
def output (shown : Variable) : Line where
  content := appendCall (text "_str(" ++ shown.name ++ text ")")
  lexemes := [.name (text "_append"), .symbol .leftParen, .name (text "_str"),
    .symbol .leftParen, .name shown.name, .symbol .rightParen, .symbol .rightParen]
  spells := by
    simp only [appendCall, List.append_assoc]
    change LineSpells [] (text "_append" ++ 40 :: (text "_str" ++ 40 :: (shown.name ++ [41, 41])))
      (wordLexeme (text "_append") :: _ :: wordLexeme (text "_str") :: _)
    exact .word (by decide) (endsWord_cons (by decide)) (.mark (by decide)
      (endsMark_cons (by decide)) rfl (.word (by decide) (endsWord_cons (by decide))
        (.mark (by decide) Variable.endsMark rfl (Variable.spells (endsWord_cons (by decide))
          (.mark (by decide) (by decide) rfl (.mark (by decide) (by decide) rfl .done))))))
  begins := rfl
  clean := by
    simp only [appendCall, List.forall_mem_append]
    exact ⟨⟨by decide, ⟨by decide, shown.isClean⟩, by decide⟩, by decide⟩

/-- The header of a loop. -/
def loop (target source : Variable) : Line where
  content := (Statement.loop target source).source
  lexemes := [.keyword .forWord, .name target.name, .keyword .inWord, .name source.name,
    .symbol .colon]
  spells := by
    simp only [Statement.source, List.append_assoc]
    change LineSpells [] (text "for" ++ space :: (target.name ++ space :: (text "in" ++
      space :: (source.name ++ [58])))) (wordLexeme (text "for") :: _ ::
        wordLexeme (text "in") :: _)
    exact .word (by decide) (endsWord_cons (by decide)) (.blank (Variable.spells
      (endsWord_cons (by decide)) (.blank (.word (by decide) (endsWord_cons (by decide))
        (.blank (Variable.spells (endsWord_cons (by decide))
          (.mark (by decide) (by decide) rfl .done)))))))
  begins := rfl
  clean := by
    simp only [Statement.source, List.forall_mem_append]
    exact ⟨⟨⟨⟨by decide, target.isClean⟩, by decide⟩, source.isClean⟩, by decide⟩

/-- The header of the first branch of a choice. -/
def choice (test : Variable) : Line where
  content := (Statement.choice test).source
  lexemes := [.keyword .ifWord, .name test.name, .symbol .colon]
  spells := by
    simp only [Statement.source, List.append_assoc]
    change LineSpells [] (text "if" ++ space :: (test.name ++ [58]))
      (wordLexeme (text "if") :: _)
    exact .word (by decide) (endsWord_cons (by decide)) (.blank (Variable.spells
      (endsWord_cons (by decide)) (.mark (by decide) (by decide) rfl .done)))
  begins := rfl
  clean := by
    simp only [Statement.source, List.forall_mem_append]
    exact ⟨⟨by decide, test.isClean⟩, by decide⟩

/-- The header of a further branch with a test. -/
def branch (test : Variable) : Line where
  content := (Statement.branch test).source
  lexemes := [.keyword .elifWord, .name test.name, .symbol .colon]
  spells := by
    simp only [Statement.source, List.append_assoc]
    change LineSpells [] (text "elif" ++ space :: (test.name ++ [58]))
      (wordLexeme (text "elif") :: _)
    exact .word (by decide) (endsWord_cons (by decide)) (.blank (Variable.spells
      (endsWord_cons (by decide)) (.mark (by decide) (by decide) rfl .done)))
  begins := rfl
  clean := by
    simp only [Statement.source, List.forall_mem_append]
    exact ⟨⟨by decide, test.isClean⟩, by decide⟩

/-- The header of the last branch. -/
def otherwise : Line where
  content := Statement.otherwise.source
  lexemes := [.keyword .elseWord, .symbol .colon]
  spells := by
    change LineSpells [] (text "else" ++ [58]) (wordLexeme (text "else") :: _)
    exact .word (by decide) (by decide) (.mark (by decide) (by decide) rfl .done)
  begins := by decide
  clean := by decide

/-- The line that takes the value of a variable from the context. -/
def binding (bound : Variable) : Line where
  content := text "if " ++ bound.name.quoted ++ text " in ctx: " ++ bound.name ++
    text " = ctx[" ++ bound.name.quoted ++ text "]"
  lexemes := fetchLexemes bound.name (.name bound.name)
  spells := by
    rw [← wordLexeme_name bound.ofText?_eq_none]
    exact (RenderLine.fetch bound.isName).spells
  begins := rfl
  clean := (RenderLine.fetch bound.isName).clean

end RenderLine

end Stencil
