import Mathlib.Algebra.GroupWithZero.Nat
import Stencil.Script.Lexeme.Scan
import Stencil.Script.Literal.Format
import Stencil.Script.Reading

/-! # How much the lexemes of a text hold

Whatever is nested in a program is nested in its lexemes, and each of them gives nested parts
some room: a string as much as its text takes, a change of indentation none
(`Stencil.Script.Lexeme.weight`). All lexemes of a text together give no more room than the text
has code points and one line end (`Stencil.Script.weight_lexemes`), and the names among them are
identifiers that are not reserved (`Stencil.Script.hasWords_lexemes`). The expressions in the
braces of a string are shorter than the string (`Stencil.Script.areWithin_formatPieces`).

Every step of the scanner takes at least one code point, so a text is scanned in as many steps as
it has code points (`Stencil.Script.lexemesFrom_eq_within`). Counted like this, the lexemes of a
given text can be computed inside a proof.
-/

namespace Stencil.Script

open CodePoint

/-- The room that a lexeme gives to nested parts. -/
def Lexeme.weight : Lexeme → Nat
  | .string literal => literal.body.length + 2
  | .indent | .dedent => 0
  | _ => 1

/-- The room that several lexemes give to nested parts. -/
def weight (lexemes : List Lexeme) : Nat := (lexemes.map Lexeme.weight).sum

@[simp] theorem weight_nil : weight [] = 0 := rfl

@[simp] theorem weight_cons {first : Lexeme} {rest : List Lexeme} :
    weight (first :: rest) = first.weight + weight rest := rfl

@[simp] theorem weight_append {left right : List Lexeme} :
    weight (left ++ right) = weight left + weight right := by
  simp only [weight, List.map_append, List.sum_append]

/-- A lexeme gives no more room than all of them together. -/
theorem weight_le_of_mem {lexeme : Lexeme} {lexemes : List Lexeme} (member : lexeme ∈ lexemes) :
    lexeme.weight ≤ weight lexemes := by
  obtain ⟨front, behind, rfl⟩ := List.append_of_mem member
  rw [weight_append, weight_cons]
  omega

theorem weight_replicate_dedent (count : Nat) : weight (List.replicate count .dedent) = 0 := by
  induction count with
  | zero => rfl
  | succ count ih => rw [List.replicate_succ, weight_cons, ih]; rfl

/-- A word with which a program can write a name: an identifier that is not reserved. -/
def IsWord (word : Text) : Prop := word.isIdentifier = true ∧ Keyword.ofText? word = none

/-- A name that a program can spell: an identifier in its compatibility form. It may be a reserved
word, which is written with variants of its letters then. -/
def IsName (name : Text) : Prop := name.isIdentifier = true ∧ name.spelledName = name

/-- What a word spells is a name. -/
theorem IsWord.isName {word : Text} (isWord : IsWord word) : IsName word.spelledName :=
  ⟨Text.isIdentifier_spelledName isWord.1, Text.spelledName_spelledName⟩

/-- The words among some lexemes can be written. -/
def HasWords (lexemes : List Lexeme) : Prop := ∀ word, .name word ∈ lexemes → IsWord word

theorem hasWords_append {left right : List Lexeme} :
    HasWords (left ++ right) ↔ HasWords left ∧ HasWords right := by
  simp only [HasWords, List.mem_append, or_imp, forall_and]

theorem HasWords.head {name : Text} {rest : List Lexeme} (words : HasWords (.name name :: rest)) :
    IsWord name := words name List.mem_cons_self

theorem HasWords.tail {first : Lexeme} {rest : List Lexeme} (words : HasWords (first :: rest)) :
    HasWords rest := fun name member => words name (List.mem_cons_of_mem _ member)

/-- The lexeme stands inside a line. -/
def Lexeme.isInline : Lexeme → Bool
  | .lineEnd | .indent | .dedent => false
  | _ => true

variable {whole after : Text} {lexeme : Lexeme} {length letters count : Nat} {point : CodePoint}

/-- The body of a string ends before the text does. -/
theorem length_of_bodyLength {mark : CodePoint} {isLong : Bool}
    (found : bodyLength mark isLong whole = some count) : count < whole.length := by
  fun_induction bodyLength mark isLong whole generalizing count with
  | case1 => cases found
  | case2 point ends => cases found; exact Nat.zero_lt_one
  | case3 point goesOn => cases found
  | case4 next rest ih =>
      obtain ⟨inner, deeper, rfl⟩ := Option.map_eq_some_iff.mp found
      have shorter := ih deeper
      simp only [List.length_cons]
      omega
  | case5 => cases found; exact Nat.succ_pos _
  | case6 => cases found
  | case7 point next rest _ _ _ ih =>
      obtain ⟨inner, deeper, rfl⟩ := Option.map_eq_some_iff.mp found
      have shorter := ih deeper
      simp only [List.length_cons] at shorter ⊢
      omega

/-- What one lexeme of a text is like: it stands inside a line, a name is a word, and it gives
no more room than it takes code points of the text. -/
structure IsFitting (whole : Text) (lexeme : Lexeme) (length : Nat) : Prop where
  inline : lexeme.isInline = true
  word : ∀ name, lexeme = .name name → IsWord name
  weight_le : lexeme.weight ≤ max 1 length
  weight_le_length : lexeme.weight ≤ whole.length

/-- A lexeme that holds nothing fits wherever there is anything. -/
theorem IsFitting.of_weight_eq_one (inline : lexeme.isInline = true)
    (word : ∀ name, lexeme = .name name → IsWord name) (light : lexeme.weight = 1)
    (held : whole ≠ []) : IsFitting whole lexeme length :=
  ⟨inline, word, light ▸ Nat.le_max_left _ _, light ▸ List.length_pos_iff.mpr held⟩

/-- A string gives as much room as its text takes. -/
theorem isFitting_readString (read : readString letters whole = some (lexeme, length)) :
    IsFitting whole lexeme length := by
  unfold readString at read
  obtain ⟨kind, -, read⟩ := Option.bind_eq_some_iff.mp read
  split at read
  · cases read
  · next mark after behind =>
      have total := congrArg List.length behind
      rw [List.length_drop, List.length_cons] at total
      split at read
      · obtain ⟨count, found, read⟩ := Option.bind_eq_some_iff.mp read
        have inside := length_of_bodyLength found
        cases read
        rw [List.length_drop] at inside
        refine ⟨rfl, fun name isName => (nomatch isName), ?_, ?_⟩ <;>
        · simp only [Lexeme.weight, List.length_take, List.length_drop]
          omega
      · obtain ⟨count, found, read⟩ := Option.bind_eq_some_iff.mp read
        have inside := length_of_bodyLength found
        cases read
        refine ⟨rfl, fun name isName => (nomatch isName), ?_, ?_⟩ <;>
        · simp only [Lexeme.weight, List.length_take]
          omega

/-- A word is a keyword or a name. -/
theorem isFitting_readWord (held : whole ≠ []) (read : readWord whole = some (lexeme, length)) :
    IsFitting whole lexeme length := by
  unfold readWord at read
  dsimp only at read
  split at read
  · next identifier =>
      split at read
      · cases read
        exact .of_weight_eq_one rfl (fun name isName => (nomatch isName)) rfl held
      · next notKeyword =>
          cases read
          refine .of_weight_eq_one rfl (fun name isName => ?_) rfl held
          cases isName
          exact ⟨identifier, notKeyword⟩
  · cases read

theorem isFitting_readLexeme (read : readLexeme whole = some (lexeme, length)) :
    IsFitting whole lexeme length := by
  unfold readLexeme at read
  split at read
  · exact isFitting_readString read
  · cases whole with
    | nil => cases read
    | cons first rest =>
        have held : first :: rest ≠ [] := List.cons_ne_nil _ _
        dsimp only at read
        split at read
        · obtain ⟨found, -, same⟩ := Option.map_eq_some_iff.mp read
          cases same
          exact .of_weight_eq_one rfl (fun name isName => (nomatch isName)) rfl held
        · split at read
          · exact isFitting_readWord held read
          · obtain ⟨found, -, same⟩ := Option.map_eq_some_iff.mp read
            cases same
            exact .of_weight_eq_one rfl (fun name isName => (nomatch isName)) rfl held

/-- A step gives no more room than it takes code points, and its names are words. -/
structure LexemeStep.IsFitting (step : LexemeStep) (after : Text) : Prop where
  weight_le : weight step.lexemes + (after.drop step.extra).length ≤ after.length + 1
  words : HasWords step.lexemes

variable {blocks : List Column} {awaited : List Symbol} {step : LexemeStep}

/-- A step that finds no lexeme, or the end of a line. -/
theorem LexemeStep.IsFitting.of_light (light : weight step.lexemes ≤ 1)
    (words : HasWords step.lexemes) : step.IsFitting after := by
  refine ⟨?_, words⟩
  rw [List.length_drop]
  omega

theorem hasWords_nil : HasWords [] := fun _ member => nomatch member

theorem isFitting_stepInLine (found : stepInLine blocks awaited point after = some step) :
    step.IsFitting after := by
  unfold stepInLine at found
  split at found
  · cases found
    exact .of_light (Nat.zero_le 1) hasWords_nil
  split at found
  · cases found
    exact .of_light (Nat.zero_le 1) hasWords_nil
  split at found
  · split at found
    · cases found
      refine .of_light (Nat.le_refl 1) fun name member => ?_
      cases List.mem_singleton.mp member
    · cases found
      exact .of_light (Nat.zero_le 1) hasWords_nil
  split at found
  · split at found
    · cases found
      exact .of_light (Nat.zero_le 1) hasWords_nil
    · cases found
  obtain ⟨⟨lexeme, length⟩, read, found⟩ := Option.bind_eq_some_iff.mp found
  obtain ⟨awaitedAfter, -, found⟩ := Option.bind_eq_some_iff.mp found
  cases found
  have fits := isFitting_readLexeme read
  refine ⟨?_, fun name member => fits.word name (List.mem_singleton.mp member).symm⟩
  have room := fits.weight_le
  have roomLeft := fits.weight_le_length
  rw [List.length_cons] at roomLeft
  simp only [weight_cons, weight_nil, List.length_drop]
  omega

/-- The marks of a change of indentation give no room and hold no names. -/
theorem light_changeBlocks {column : Column} {changes : List Lexeme} {remaining : List Column}
    (changed : changeBlocks column blocks = some (changes, remaining)) :
    weight changes = 0 ∧ HasWords changes := by
  unfold changeBlocks at changed
  split at changed
  · cases changed
  · split at changed
    · split at changed
      · cases changed
        exact ⟨rfl, fun name member => nomatch List.mem_singleton.mp member⟩
      · cases changed
    · obtain ⟨⟨left, inner⟩, -, same⟩ := Option.map_eq_some_iff.mp changed
      cases same
      exact ⟨weight_replicate_dedent left,
        fun name member => nomatch List.eq_of_mem_replicate member⟩

theorem isFitting_stepAtLineStart (found : stepAtLineStart blocks point after = some step) :
    step.IsFitting after := by
  unfold stepAtLineStart at found
  obtain ⟨margin, -, found⟩ := Option.bind_eq_some_iff.mp found
  split at found
  · cases found
    exact .of_light (Nat.zero_le 1) hasWords_nil
  · next first behind split =>
      dsimp only at found
      split at found
      · cases found
        exact .of_light (Nat.zero_le 1) hasWords_nil
      split at found
      · cases found
        exact .of_light (Nat.zero_le 1) hasWords_nil
      obtain ⟨⟨changes, remaining⟩, changed, found⟩ := Option.bind_eq_some_iff.mp found
      obtain ⟨inner, inLine, found⟩ := Option.bind_eq_some_iff.mp found
      cases found
      have light := light_changeBlocks changed
      have fits := isFitting_stepInLine inLine
      have total := congrArg List.length split
      have room := fits.weight_le
      refine ⟨?_, hasWords_append.mpr ⟨light.2, fits.words⟩⟩
      simp only [List.length_drop, List.length_cons] at total room
      simp only [weight_append, light.1, List.length_drop]
      omega

/-- The lexemes of a text are those of a step and those behind it. -/
theorem exists_step {atLineStart : Bool} {found : List Lexeme}
    (read : lexemesFrom blocks awaited atLineStart (point :: after) = some found) :
    ∃ step : LexemeStep, step.IsFitting after ∧
      ∃ later, lexemesFrom step.blocks step.awaited step.atLineStart (after.drop step.extra) =
        some later ∧ step.lexemes ++ later = found := by
  rw [lexemesFrom] at read
  cases atLineStart with
  | true =>
      obtain ⟨step, stepped, read⟩ := Option.bind_eq_some_iff.mp read
      obtain ⟨later, readLater, same⟩ := Option.bind_eq_some_iff.mp read
      exact ⟨step, isFitting_stepAtLineStart stepped, later, readLater, Option.some.inj same⟩
  | false =>
      obtain ⟨step, stepped, read⟩ := Option.bind_eq_some_iff.mp read
      obtain ⟨later, readLater, same⟩ := Option.bind_eq_some_iff.mp read
      exact ⟨step, isFitting_stepInLine stepped, later, readLater, Option.some.inj same⟩

/-- All lexemes of a text give no more room than it has code points, and their names are
words. -/
theorem fitting_lexemesFrom {blocks : List Column} {awaited : List Symbol} {atLineStart : Bool}
    {rest : Text} {found : List Lexeme}
    (read : lexemesFrom blocks awaited atLineStart rest = some found) :
    weight found ≤ rest.length ∧ HasWords found := by
  cases rest with
  | nil =>
      rw [lexemesFrom] at read
      split at read
      · cases read
        refine ⟨Nat.le_of_eq (weight_replicate_dedent _), fun name member => ?_⟩
        cases List.eq_of_mem_replicate member
      · cases read
  | cons first after =>
      obtain ⟨step, fits, later, readLater, rfl⟩ := exists_step read
      have shorter : (after.drop step.extra).length < (first :: after).length := by
        simp only [List.length_drop, List.length_cons]
        omega
      obtain ⟨room, words⟩ := fitting_lexemesFrom readLater
      have roomStep := fits.weight_le
      refine ⟨?_, hasWords_append.mpr ⟨fits.words, words⟩⟩
      rw [weight_append, List.length_cons]
      omega
termination_by rest.length

theorem length_unifyLineEnds (source : Text) :
    (unifyLineEnds source).length ≤ source.length + 1 := by
  fun_induction unifyLineEnds source with
  | case1 => exact Nat.le_refl 1
  | case2 => exact Nat.le_succ 1
  | case3 => exact Nat.le_refl 2
  | case4 => simp only [List.length_cons] at *; omega
  | case5 => simp only [List.length_cons] at *; omega
  | case6 => simp only [List.length_cons] at *; omega

/-- The lexemes of a text give no more room than it has code points and one line end. -/
theorem weight_lexemes {source : Text} {found : List Lexeme} (read : lexemes source = some found) :
    weight found ≤ source.length + 1 :=
  Nat.le_trans (fitting_lexemesFrom read).1 (length_unifyLineEnds source)

/-- The names among the lexemes of a text are words. -/
theorem hasWords_lexemes {source : Text} {found : List Lexeme}
    (read : lexemes source = some found) : HasWords found := (fitting_lexemesFrom read).2

mutual

/-- The expressions of a piece leave room for their braces in a number of code points. -/
def RawPiece.IsWithin (room : Nat) : RawPiece → Prop
  | .literal _ => True
  | .field source _ format => source.length + 2 ≤ room ∧ AreWithin room format

/-- The expressions of several pieces leave room for their braces. -/
def AreWithin (room : Nat) : List RawPiece → Prop
  | [] => True
  | first :: rest => first.IsWithin room ∧ AreWithin room rest

end

theorem areWithin_append {room : Nat} {left right : List RawPiece} :
    AreWithin room (left ++ right) ↔ AreWithin room left ∧ AreWithin room right := by
  induction left with
  | nil => simp only [List.nil_append, AreWithin, true_and]
  | cons first left ih => simp only [List.cons_append, AreWithin, ih, and_assoc]

mutual

theorem RawPiece.IsWithin.mono {room more : Nat} (le : room ≤ more) :
    ∀ {piece : RawPiece}, piece.IsWithin room → piece.IsWithin more
  | .literal _, _ => trivial
  | .field _ _ _, ⟨fits, within⟩ => ⟨Nat.le_trans fits le, within.mono le⟩

theorem AreWithin.mono {room more : Nat} (le : room ≤ more) :
    ∀ {pieces : List RawPiece}, AreWithin room pieces → AreWithin more pieces
  | [], _ => trivial
  | _ :: _, ⟨first, rest⟩ => ⟨first.mono le, rest.mono le⟩

end

theorem areWithin_literalPiece {room : Nat} {value : Text} :
    AreWithin room (literalPiece value) := by
  unfold literalPiece
  split
  · trivial
  · exact ⟨trivial, trivial⟩

/-- Behind a brace no more is left than stood there. -/
theorem length_of_meetBrace {level : Nat} {brace : CodePoint} {rest behind written : Text}
    {goesOn : Bool} (met : meetBrace level brace rest = some (written, goesOn, behind)) :
    behind.length ≤ rest.length + 1 := by
  unfold meetBrace at met
  split at met
  · split at met
    · cases met
      simp only [List.length_drop]
      omega
    · split at met <;> cases met
      exact Nat.le_refl _
  · cases met
    exact Nat.le_refl _

theorem length_of_literalRun {isRaw : Bool} {level : Nat} {inName : Bool}
    {whole behind written : Text} {goesOn : Bool}
    (found : literalRun isRaw level inName whole = some (written, goesOn, behind)) :
    behind.length ≤ whole.length := by
  fun_induction literalRun isRaw level inName whole generalizing written goesOn behind with
  | case1 => cases found; exact Nat.le_refl _
  | case2 =>
      rename_i ih
      obtain ⟨inner, deeper, same⟩ := Option.map_eq_some_iff.mp found
      obtain rfl : inner.2.2 = behind := congrArg (fun parts => parts.2.2) same
      exact Nat.le_succ_of_le (ih deeper)
  | case3 => cases found; exact Nat.zero_le _
  | case4 =>
      obtain ⟨inner, met, same⟩ := Option.map_eq_some_iff.mp found
      obtain rfl : inner.2.2 = behind := congrArg (fun parts => parts.2.2) same
      exact Nat.le_succ_of_le (length_of_meetBrace met)
  | case5 =>
      rename_i ih
      obtain ⟨inner, deeper, same⟩ := Option.map_eq_some_iff.mp found
      obtain rfl : inner.2.2 = behind := congrArg (fun parts => parts.2.2) same
      exact Nat.le_succ_of_le (Nat.le_succ_of_le (ih deeper))
  | case6 => exact length_of_meetBrace found
  | case7 =>
      rename_i ih
      obtain ⟨inner, deeper, same⟩ := Option.map_eq_some_iff.mp found
      obtain rfl : inner.2.2 = behind := congrArg (fun parts => parts.2.2) same
      exact Nat.le_succ_of_le (ih deeper)

/-- The expression of a field ends before the text does. -/
theorem length_of_fieldSource {state : FieldState} {whole source behind : Text}
    (found : fieldSource state whole = some (source, behind)) :
    source.length + behind.length = whole.length := by
  fun_induction fieldSource state whole generalizing source behind with
  | case1 => cases found
  | case2 => cases found
  | case3 => cases found; exact Nat.zero_add _
  | case4 state point rest next _ ih =>
      obtain ⟨inner, deeper, same⟩ := Option.map_eq_some_iff.mp found
      cases same
      have total := ih deeper
      simp only [List.length_cons]
      omega

theorem length_fieldEcho (source rest : Text) : (fieldEcho source rest).2.length ≤ rest.length := by
  unfold fieldEcho
  split
  · simp only [List.length_drop, List.length_cons]
    omega
  · exact Nat.le_refl _

theorem length_of_fieldConversion {rest behind : Text} {conversion : Option Conversion}
    (found : fieldConversion rest = some (conversion, behind)) :
    behind.length ≤ rest.length := by
  unfold fieldConversion at found
  split at found
  · obtain ⟨letter, -, same⟩ := Option.map_eq_some_iff.mp found
    cases same
    exact Nat.le_succ_of_le (Nat.le_succ _)
  · cases found
  · cases found
    exact Nat.le_refl _

/-- A way to cut a format into pieces leaves room for the braces of the fields in it. -/
def CutsWithin (cut : Text → Option (List RawPiece × Text)) : Prop :=
  ∀ {whole behind : Text} {pieces : List RawPiece}, cut whole = some (pieces, behind) →
    AreWithin whole.length pieces ∧ behind.length ≤ whole.length

variable {cut : Text → Option (List RawPiece × Text)}

theorem CutsWithin.fieldFormat (cuts : CutsWithin cut) {rest behind : Text}
    {format : Option (List RawPiece)} (found : fieldFormat cut rest = some (format, behind)) :
    AreWithin rest.length (format.getD []) ∧ behind.length ≤ rest.length := by
  unfold Script.fieldFormat at found
  split at found
  · cases found
  · obtain ⟨⟨pieces, inner⟩, deeper, same⟩ := Option.map_eq_some_iff.mp found
    cases same
    obtain ⟨within, shorter⟩ := cuts deeper
    exact ⟨within.mono (Nat.le_succ _), Nat.le_succ_of_le shorter⟩
  · cases found
    exact ⟨trivial, Nat.le_refl _⟩

/-- A field takes up both of its braces. -/
theorem CutsWithin.rawField (cuts : CutsWithin cut) {after behind : Text}
    {pieces : List RawPiece} (found : rawField cut after = some (pieces, behind)) :
    AreWithin (after.length + 1) pieces ∧ behind.length ≤ after.length := by
  unfold Script.rawField at found
  obtain ⟨⟨source, rest⟩, taken, found⟩ := Option.bind_eq_some_iff.mp found
  have total := length_of_fieldSource taken
  dsimp only at found
  split at found
  · cases found
  have echoed := length_fieldEcho source rest
  obtain ⟨⟨conversion, afterConversion⟩, converted, found⟩ := Option.bind_eq_some_iff.mp found
  have behindConversion := length_of_fieldConversion converted
  obtain ⟨⟨format, afterFormat⟩, formatted, found⟩ := Option.bind_eq_some_iff.mp found
  obtain ⟨within, behindFormat⟩ := cuts.fieldFormat formatted
  dsimp only at found
  split at found
  · next rest =>
      cases found
      dsimp only at behindFormat within
      rw [List.length_cons] at behindFormat
      refine ⟨areWithin_append.mpr ⟨areWithin_literalPiece, ⟨by omega, within.mono (by omega)⟩, trivial⟩,
        by omega⟩
  · cases found

/-- The fields of a format string leave room for their braces. -/
theorem cutsWithin_rawPieces (isRaw : Bool) (fuel level : Nat) :
    CutsWithin (rawPieces isRaw fuel level) := by
  intro whole behind pieces found
  induction fuel generalizing level whole pieces behind with
  | zero => cases found
  | succ fuel ih =>
      rw [rawPieces] at found
      obtain ⟨⟨written, goesOn, rest⟩, run, found⟩ := Option.bind_eq_some_iff.mp found
      have shorter := length_of_literalRun run
      obtain ⟨decoded, -, found⟩ := Option.bind_eq_some_iff.mp found
      dsimp only at found
      split at found
      · obtain ⟨⟨later, last⟩, deeper, found⟩ := Option.bind_eq_some_iff.mp found
        cases found
        obtain ⟨within, behindLater⟩ := ih level deeper
        exact ⟨areWithin_append.mpr ⟨areWithin_literalPiece, within.mono shorter⟩,
          Nat.le_trans behindLater shorter⟩
      split at found
      · rw [List.length_cons] at shorter
        split at found
        · cases found
        obtain ⟨⟨field, afterField⟩, read, found⟩ := Option.bind_eq_some_iff.mp found
        obtain ⟨⟨later, last⟩, deeper, found⟩ := Option.bind_eq_some_iff.mp found
        cases found
        obtain ⟨withinField, behindField⟩ := CutsWithin.rawField (ih (level + 1)) read
        obtain ⟨within, behindLater⟩ := ih level deeper
        dsimp only at within behindLater
        refine ⟨areWithin_append.mpr ⟨areWithin_append.mpr ⟨areWithin_literalPiece,
          withinField.mono shorter⟩, within.mono (by omega)⟩, Nat.le_trans behindLater (by omega)⟩
      · cases found
        exact ⟨areWithin_literalPiece, shorter⟩

/-- The fields of a format string are shorter than its body. -/
theorem areWithin_formatPieces {isRaw : Bool} {body : Text} {pieces : List RawPiece}
    (found : formatPieces isRaw body = some pieces) : AreWithin body.length pieces := by
  unfold formatPieces at found
  obtain ⟨⟨cutPieces, rest⟩, cutFound, found⟩ := Option.bind_eq_some_iff.mp found
  dsimp only at found
  split at found
  · cases found
    exact (cutsWithin_rawPieces isRaw _ 0 cutFound).1
  · cases found

/-- The lexemes of the rest of a program, found in a number of steps. -/
def lexemesWithin : Nat → List Column → List Symbol → Bool → Text → Option (List Lexeme)
  | _, blocks, awaited, _, [] =>
      if awaited.isEmpty then some (List.replicate (blocks.length - 1) .dedent) else none
  | 0, _, _, _, _ :: _ => none
  | count + 1, blocks, awaited, atLineStart, first :: after => do
      let step ←
        if atLineStart then stepAtLineStart blocks first after
        else stepInLine blocks awaited first after
      let later ←
        lexemesWithin count step.blocks step.awaited step.atLineStart (after.drop step.extra)
      return step.lexemes ++ later

theorem lexemesFrom_eq_within {count : Nat} {blocks : List Column} {awaited : List Symbol}
    {atLineStart : Bool} {rest : Text} (fits : rest.length ≤ count) :
    lexemesFrom blocks awaited atLineStart rest =
      lexemesWithin count blocks awaited atLineStart rest := by
  induction count generalizing blocks awaited atLineStart rest with
  | zero =>
      obtain rfl := List.eq_nil_of_length_eq_zero (Nat.le_zero.mp fits)
      rw [lexemesFrom, lexemesWithin]
  | succ count ih =>
      cases rest with
      | nil => rw [lexemesFrom, lexemesWithin]
      | cons first after =>
          rw [lexemesFrom, lexemesWithin]
          have shorter : ∀ extra, (after.drop extra).length ≤ count := by
            intro extra
            rw [List.length_cons] at fits
            rw [List.length_drop]
            omega
          simp only [ih (shorter _)]

/-- The program that a text spells, found in a number of steps. -/
def parseWithin? (source : Text) : Option Program :=
  (lexemesWithin (source.length + 1) [Column.zero] [] true (unifyLineEnds source)).bind
    (programOf? (source.length + 4))

/-- The lexemes of a text are found in as many steps as it has code points. -/
theorem lexemes_eq_within {source : Text} : lexemes source =
    lexemesWithin (source.length + 1) [Column.zero] [] true (unifyLineEnds source) :=
  lexemesFrom_eq_within (length_unifyLineEnds source)

theorem parse?_eq_parseWithin? {source : Text} : parse? source = parseWithin? source := by
  unfold parse?
  rw [lexemes_eq_within]
  rfl

theorem readProgram_of_parseWithin? {source : Text} {program : Program}
    (noSurrogate : source.findIdx? CodePoint.isSurrogate = none) (noZero : source.contains 0 = false)
    (parsed : parseWithin? source = some program) : readProgram source = .ok program := by
  unfold readProgram
  rw [noSurrogate, noZero, parse?_eq_parseWithin?, parsed]
  rfl

theorem parseWithin?_of_readProgram {source : Text} {program : Program}
    (read : readProgram source = .ok program) : parseWithin? source = some program := by
  unfold readProgram at read
  rw [parse?_eq_parseWithin?] at read
  split at read
  · cases read
  split at read
  · cases read
  split at read
  · next parsed =>
      cases read
      exact parsed
  · cases read

end Stencil.Script
