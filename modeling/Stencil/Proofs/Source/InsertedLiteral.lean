import Stencil.Proofs.Script.WidenedReading
import Stencil.Proofs.Source.BodyPlaces
import Stencil.Proofs.Source.BoundProgram
import Stencil.Proofs.Tree.Program

/-! # Literal text in a program

Between the fragments of complete tokens a line may be put that writes literal text, or the literal
text that is written there may become another one: what is a program without the line is one with
it, and the two differ by its statement only (`Stencil.exists_readProgram_literal`). The place behind
the header of a choice by shape is left out.
-/

namespace Stencil

open Script Script.Reader Source CodePoint Text

variable {edit : Edit} {bound depth deeper : Nat} {raw source : Text} {name : Name}
  {former : Option Text} {names : List Name} {found others : List Lexeme} {program : Program}

/-- The call that writes literal text. -/
def literalCall (raw : Text) : Expr := .call (.name (text "_append")) [.constant (.text raw)] []

theorem isRow_literal (raw : Text) : IsRow (RenderLine.literal raw).lexemes (literalCall raw) where
  head := ⟨_, _, rfl⟩
  reads _ _ := statement_literal raw

/-- The function that writes is all that the call reads. -/
theorem readsOnly_literalCall (raw : Text) : (literalCall raw).ReadsOnly (text "_append") where
  mentions := rfl
  events := rfl
  placed _ := rfl

/-- The line of literal text is put where no line stands, or where other literal text is written. -/
def literalEdit (former : Option Text) (raw : Text) : Edit where
  old := former.elim [] fun former => (RenderLine.literal former).lexemes ++ [.lineEnd]
  row := (RenderLine.literal raw).lexemes
  former := former.elim [] fun former => [.expression (literalCall former)]
  value := literalCall raw
  isRow := isRow_literal raw
  stood := by
    cases former with
    | none => exact .nothing
    | some former => exact .another (isRow_literal former) (Nat.le_refl _)

theorem formerReads_literalEdit : FormerReads (text "_append") (literalEdit former raw).former := by
  cases former with
  | none => exact .nothing
  | some former => exact .another (readsOnly_literalCall former)

/-- The line of literal text takes the walk eight calls deeper than its block. -/
theorem programDepth_of_widens {longer : Program}
    (widens : (literalEdit former raw).Widens program longer) :
    programDepth longer ≤ programDepth program + 8 := by
  have flat : stmtsReach (literalEdit former raw).former = 0 ∧
      programReach (literalEdit former raw).former = 0 := by
    cases former with
    | none => exact ⟨rfl, rfl⟩
    | some former => exact ⟨rfl, rfl⟩
  have line : (Stmt.expression (literalEdit former raw).value).walkDepth = 8 := rfl
  exact programDepth_of_widened line.le flat.1 flat.2 widens

/-- The fragment of literal text below a number of blocks. -/
def literalFragment (depth : Nat) (raw : Text) : Text :=
  bodyLine depth (RenderLine.literal raw).content

/-- The fragment that stands where literal text is put. -/
def formerFragment (depth : Nat) (former : Option Text) : Text :=
  former.elim [] (literalFragment depth)

theorem literalFragment_eq : literalFragment depth raw =
    lineAt (depth + 1) (RenderLine.literal raw).content := bodyLine_eq_text

theorem carriageReturn_notMem_literalFragment : carriageReturn ∉ literalFragment depth raw := by
  intro member
  unfold literalFragment at member
  rw [bodyLine_eq_text] at member
  exact (Outline.isClean_of_mem_line member).2.1 rfl

theorem unifies_formerFragment :
    Unifies (formerFragment depth former) (formerFragment depth former) := by
  cases former with
  | none => exact unifies_nil
  | some former => exact unifies_of_plain carriageReturn_notMem_literalFragment

/-- What stands where literal text is put takes up a place between lines. -/
theorem gives_formerFragment {rest : Text} (closes : ClosesTo (depth + 1) rest) :
    Gives (literalEdit former raw).old (depth + 1) (formerFragment depth former) rest := by
  cases former with
  | none => exact gives_nil closes
  | some former =>
      change Gives _ _ (literalFragment depth former) rest
      rw [literalFragment_eq]
      exact gives_line (RenderLine.literal former).isLogicalLine

/-- The line that takes a name from the context leads to the lines behind it. -/
theorem exists_leads_bindingLine (isName : IsName name) {first : Lexeme} :
    ∃ start, Leads edit bound (bindingLine name) first [.keyword .defWord] start
      [.keyword .defWord] := by
  have isWord : (wordLexeme name).isInline = true ∧
      wordLexeme name ≠ .symbol (.operator .matrixMultiply) := by
    cases reserved : Keyword.ofText? name with
    | none =>
        rw [wordLexeme_name reserved]
        exact ⟨rfl, nofun⟩
    | some word =>
        rw [wordLexeme_keyword reserved]
        exact ⟨rfl, nofun⟩
  have inline : Inline (RenderLine.bindingOf isName).lexemes := by
    unfold RenderLine.bindingOf Inline
    split
    · simp only [RenderLine.prefer, RenderLine.preferLexemes, List.forall_mem_cons]
      exact ⟨isWord.1, rfl, rfl, rfl, rfl, rfl, rfl, rfl, rfl, rfl, isWord.1, rfl,
        List.forall_mem_nil _⟩
    · simp only [RenderLine.fetch, RenderLine.fetchLexemes, List.forall_mem_cons]
      exact ⟨rfl, rfl, rfl, rfl, rfl, isWord.1, rfl, rfl, rfl, rfl, rfl, List.forall_mem_nil _⟩
  have starts : ∃ start inside, (RenderLine.bindingOf isName).lexemes = start :: inside ∧
      start ≠ .symbol (.operator .matrixMultiply) := by
    unfold RenderLine.bindingOf
    split
    · exact ⟨_, _, rfl, isWord.2⟩
    · exact ⟨_, _, rfl, by rintro ⟨⟩⟩
  obtain ⟨start, inside, split, plain⟩ := starts
  have isLine := (RenderLine.bindingOf isName).isLogicalLine
  rw [split] at inline isLine
  rw [bindingLine_eq_text isName]
  exact ⟨start, .leave isLine inline plain []⟩

theorem exists_leads_bindingLines (areNames : ∀ name ∈ names, IsName name) {first : Lexeme} :
    ∃ start, Leads edit bound (names.flatMap bindingLine) first [.keyword .defWord] start
      [.keyword .defWord] := by
  induction names generalizing first with
  | nil => exact ⟨first, .refl⟩
  | cons name names ih =>
      obtain ⟨isFirst, later⟩ := List.forall_mem_cons.mp areNames
      obtain ⟨start, leads⟩ := exists_leads_bindingLine isFirst
      obtain ⟨last, leadsLater⟩ := ih later
      exact ⟨last, leads.trans leadsLater⟩

/-- What is put behind the first lines of the function is put into the program. -/
theorem inserts_frontLexemes
    (inserts : Inserts edit bound (some (.name (text "_append"))) [.keyword .defWord] found others) :
    Inserts edit bound none [] (frontLexemes found) (frontLexemes others) := by
  have plain {word : Name} : Lexeme.name word ≠ .symbol (.operator .matrixMultiply) :=
    fun same => nomatch same
  refine .line (by unfold Inline; decide) (by decide) (.opens (by decide) ?_)
  exact .line (by unfold Inline; decide) plain (.line (by unfold Inline; decide) plain inserts)

/-- A program is read by the readers of all depths that are great enough for its lexemes. -/
theorem programOf?_congr (fits : weight found < depth) (fitsDeeper : weight found < deeper)
    (words : HasWords found) (read : programOf? depth found = some program) :
    programOf? deeper found = some program := by
  cases found with
  | nil =>
      have none (depth : Nat) : programOf? depth [] = some [] := by
        unfold programOf?
        exact if_pos rfl
      rw [none] at read ⊢
      exact read
  | cons first found =>
      have held : first :: found ≠ [] := List.cons_ne_nil first found
      rw [programOf?_eq_some held] at read ⊢
      obtain ⟨reads, ends⟩ :=
        ReadsStatements.of_statements (alike_self fits) (Nat.le_refl _) words read
      have readsDeeper := reads.congr (Inner.alike_ofDepth _ _ _ fits fitsDeeper) (alike_self fits)
        (Nat.le_refl _) words
      refine statements_of_reads readsDeeper ?_ ends
      rintro rfl
      obtain ⟨body, _, _, isNil, readFirst, -⟩ := reads.exists_first held
      exact ne_nil_of_statement readFirst (List.append_eq_nil_iff.mp isNil.symm).1

section

variable {front back : List Token} {earlier later : List Text} {between : Generator}
  {kept : List Name}

/-- The text of a program with a fragment between those of other tokens. -/
def programWith (names : List Name) (earlier later : List Text) (fragment : Text) : Text :=
  prologue ++ names.flatMap bindingLine ++ (earlier.flatten ++ (fragment ++ later.flatten)) ++
    epilogue

/-- **The line of literal text is put between the lexemes of a program** where its fragment stands
between those of complete tokens. -/
theorem exists_inserts_literal (areNames : ∀ name ∈ names, IsName name)
    (emittedFront : Generator.start.emitAll front = .ok (earlier, between))
    (emittedBack : between.emitAll back = .ok (later, ⟨[], kept⟩))
    (completeFront : ∀ token ∈ front, token.IsComplete)
    (completeBack : ∀ token ∈ back, token.IsComplete)
    (noChoice : topWord between.blocks ≠ some (text "match"))
    (room : between.blocks.length + 3 ≤ bound)
    (scanned : Script.lexemes (programWith names earlier later
      (formerFragment between.blocks.length former)) = some found) :
    ∃ others, Script.lexemes (programWith names earlier later
        (literalFragment between.blocks.length raw)) = some others ∧
      Inserts (literalEdit former raw) bound none [] found others := by
  obtain ⟨start, leadsNames⟩ := @exists_leads_bindingLines (literalEdit former raw) bound names areNames
    (.name (text "_append"))
  obtain ⟨unified, heads, last, inner, unifies, leadsFront, place⟩ :=
    @exists_leads_of_emitAll (literalEdit former raw) bound _ _ start _ _ _ _ emittedFront
      completeFront (.of_line .body)
  obtain ⟨further, unifiesBack, follows⟩ := exists_follows_of_emitAll emittedBack completeBack
  obtain ⟨extra, rfl⟩ := place.begun noChoice
  obtain ⟨opener, outer, rfl, plain⟩ := place.isHeads.exists_opener noChoice
  have length : outer.length = between.blocks.length := Nat.succ.inj place.isHeads.length_eq
  -- Either text is scanned behind the first lines of the function.
  have scans (fragment : Text) (same : Unifies fragment fragment) :
      Script.lexemes (programWith names earlier later fragment) =
        (lexemesBehind 1 (names.flatMap bindingLine ++ unified ++
          (fragment ++ (further ++ epilogue)))).map frontLexemes := by
    have ends : unifyLineEnds epilogue = epilogue := by decide
    unfold programWith
    rw [lexemes_prologue fun member => (isClean_bindingLines areNames _ member).2.1 rfl,
      (unifies.append (same.append unifiesBack)) epilogue (by decide), ends]
    simp only [List.append_assoc]
  rw [scans _ unifies_formerFragment] at scanned
  obtain ⟨foundBody, scannedBody, rfl⟩ := Option.map_eq_some_iff.mp scanned
  obtain ⟨behind, scannedBehind, keeps⟩ := (leadsNames.trans leadsFront) _ _ scannedBody
  rw [← length] at follows scannedBehind
  have givesRow : Gives ((literalEdit former raw).row ++ [.lineEnd]) (opener :: outer).length
      (literalFragment outer.length raw) (further ++ epilogue) := by
    rw [literalFragment_eq]
    exact gives_line (RenderLine.literal raw).isLogicalLine
  obtain ⟨longer, scannedLonger, inserts⟩ := exists_inserts_here (gives_formerFragment follows.closes)
    givesRow follows.apart plain (length ▸ room) extra last scannedBehind
  obtain ⟨others, scannedOthers, insertsBody⟩ := keeps _ _ scannedLonger inserts
  refine ⟨frontLexemes others, ?_, inserts_frontLexemes insertsBody⟩
  rw [scans _ (unifies_of_plain carriageReturn_notMem_literalFragment), ← length]
  exact congrArg (Option.map frontLexemes) scannedOthers

/-- **Literal text may stand between complete tokens**: what is a program without it is one with it,
and the statement that writes it is all that the two differ by. -/
theorem exists_readProgram_literal (raw : Text) (areNames : ∀ name ∈ names, IsName name)
    (emittedFront : Generator.start.emitAll front = .ok (earlier, between))
    (emittedBack : between.emitAll back = .ok (later, ⟨[], kept⟩))
    (completeFront : ∀ token ∈ front, token.IsComplete)
    (completeBack : ∀ token ∈ back, token.IsComplete)
    (noChoice : topWord between.blocks ≠ some (text "match"))
    (read : readProgram (programWith names earlier later
      (formerFragment between.blocks.length former)) = .ok program) :
    ∃ longer, readProgram (programWith names earlier later
        (literalFragment between.blocks.length raw)) = .ok longer ∧
      (literalEdit former raw).Widens program longer := by
  obtain ⟨found, isFound, spelled⟩ := exists_lexemes_of_readProgram read
  generalize isSource : programWith names earlier later
    (formerFragment between.blocks.length former) = source at read isFound spelled
  generalize isSpaced : programWith names earlier later
    (literalFragment between.blocks.length raw) = spaced
  -- The readers are taken deep enough for both texts.
  generalize isDepth : source.length + spaced.length + between.blocks.length + 4 = depth
  have room : between.blocks.length + 3 ≤ depth := by omega
  obtain ⟨others, isOthers, inserts⟩ := exists_inserts_literal areNames emittedFront emittedBack
    completeFront completeBack noChoice room (isSource ▸ isFound)
  rw [isSpaced] at isOthers
  have fits := weight_lexemes isFound
  have fitsOthers := weight_lexemes isOthers
  have deep : programOf? depth found = some program :=
    programOf?_congr (by omega) (by omega) (hasWords_lexemes isFound) spelled
  obtain ⟨longer, deepOthers, widens⟩ := exists_widened_of_inserts inserts deep
  refine ⟨longer, readProgram_of_lexemes ?_ isOthers ?_, widens⟩
  · have clean := clean_of_readProgram read
    rw [← isSource] at clean
    rw [← isSpaced]
    unfold programWith at clean ⊢
    simp only [List.forall_mem_append] at clean ⊢
    refine ⟨⟨clean.1.1, clean.1.2.1, fun point member => ?_, clean.1.2.2.2⟩, clean.2⟩
    unfold literalFragment at member
    rw [bodyLine_eq_text] at member
    obtain ⟨noZero, -, noSurrogate⟩ := Outline.isClean_of_mem_line member
    exact ⟨noSurrogate, noZero⟩
  · exact programOf?_congr (by omega) (by omega) (hasWords_lexemes isOthers) deepOthers

end

end Stencil
