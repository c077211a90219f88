import Stencil.Proofs.Script.InsertedLine
import Stencil.Proofs.Script.Outline

/-! # A line in the text of a program

The lines of a body stand one below the other, each as deep as there are headers above it whose
blocks are open (`Stencil.Script.Stands`). Lines are scanned in front of any others, so a line that
is put somewhere behind them is put behind their lexemes (`Stencil.Script.Leads`), and a line whose
own place is known is put between the lexemes there (`Stencil.Script.exists_inserts_here`).
-/

namespace Stencil.Script

open CodePoint

variable {edit : Edit} {bound : Nat} {front next content rest : Text}
  {first start last middle opener : Lexeme} {extra openers between inner heads outer : List Lexeme}
  {inside found lexemes others : List Lexeme}

/-- Blocks that end do not change what is put behind their ends. -/
theorem Inserts.closeAll (extra : List Lexeme)
    (later : ∀ last, Inserts edit bound (some last) openers lexemes others) (first : Lexeme) :
    Inserts edit bound (some first) (extra ++ openers)
      (List.replicate extra.length .dedent ++ lexemes)
      (List.replicate extra.length .dedent ++ others) := by
  induction extra generalizing first with
  | nil => exact later first
  | cons opener extra ih => exact .closes (ih .dedent)

/-- A text stands in front of others: it is scanned whatever stands behind it, and a line that is
put somewhere behind it is put behind its lexemes. It leads from the first lexeme of the line in
front of it, and the headers of the open blocks there, to those at its end. -/
def Leads (edit : Edit) (bound : Nat) (front : Text) (first : Lexeme) (openers : List Lexeme)
    (last : Lexeme) (inner : List Lexeme) : Prop :=
  ∀ rest found, lexemesBehind openers.length (front ++ rest) = some found →
    ∃ behind, lexemesBehind inner.length rest = some behind ∧
      ∀ more longer, lexemesBehind inner.length more = some longer →
        Inserts edit bound (some last) inner behind longer →
        ∃ others, lexemesBehind openers.length (front ++ more) = some others ∧
          Inserts edit bound (some first) openers found others

namespace Leads

theorem refl : Leads edit bound [] first openers first openers :=
  fun _ found scanned => ⟨found, scanned, fun _ longer scannedMore inserts =>
    ⟨longer, scannedMore, inserts⟩⟩

theorem trans (leads : Leads edit bound front first openers middle between)
    (further : Leads edit bound next middle between last inner) :
    Leads edit bound (front ++ next) first openers last inner := by
  intro rest found scanned
  rw [List.append_assoc] at scanned
  obtain ⟨behind, scannedBehind, keeps⟩ := leads _ _ scanned
  obtain ⟨final, scannedFinal, keepsBehind⟩ := further _ _ scannedBehind
  refine ⟨final, scannedFinal, fun more longer scannedMore inserts => ?_⟩
  obtain ⟨others, scannedOthers, insertsBehind⟩ := keepsBehind _ _ scannedMore inserts
  rw [List.append_assoc]
  exact keeps _ _ scannedOthers insertsBehind

/-- Lexemes that come before those of a text behind. -/
theorem of_map (change : List Lexeme → List Lexeme)
    (scans : ∀ rest, lexemesBehind openers.length (front ++ rest) =
      (lexemesBehind inner.length rest).map change)
    (keeps : ∀ behind longer, Inserts edit bound (some last) inner behind longer →
      Inserts edit bound (some first) openers (change behind) (change longer)) :
    Leads edit bound front first openers last inner := by
  intro rest found scanned
  rw [scans] at scanned
  obtain ⟨behind, scannedBehind, rfl⟩ := Option.map_eq_some_iff.mp scanned
  refine ⟨behind, scannedBehind, fun more longer scannedMore inserts => ?_⟩
  exact ⟨change longer, by rw [scans, scannedMore]; rfl, keeps _ _ inserts⟩

/-- A line leaves the blocks that are deeper than it. -/
theorem leave (isLine : IsLogicalLine content (start :: inside)) (inline : Inline (start :: inside))
    (plain : start ≠ .symbol (.operator .matrixMultiply)) (extra : List Lexeme) :
    Leads edit bound (lineAt openers.length content) first (extra ++ openers) start openers := by
  refine of_map (fun behind => List.replicate extra.length .dedent ++
    (start :: inside ++ .lineEnd :: behind)) (fun rest => ?_) fun behind longer inserts => ?_
  · rw [List.length_append, Nat.add_comm]
    exact isLine.lexemesBehind_leave extra.length
  · exact Inserts.closeAll extra (fun _ => .line inline plain inserts) first

/-- A line below a header is the first of its block. -/
theorem enter (isLine : IsLogicalLine content (start :: inside)) (inline : Inline (start :: inside))
    (plain : start ≠ .symbol (.operator .matrixMultiply)) (noClass : first ≠ .keyword .classWord) :
    Leads edit bound (lineAt (openers.length + 1) content) first openers start (first :: openers) := by
  by_cases room : openers.length + 1 < indentLimit
  · refine of_map _ (fun rest => isLine.lexemesBehind_enter room) fun behind longer inserts => ?_
    exact .opens noClass (.line inline plain inserts)
  · intro rest found scanned
    unfold lexemesBehind at scanned
    rw [isLine.lexemesFrom_lineAt, changeBlocks_full (Nat.not_lt.mp room)] at scanned
    cases scanned

/-- A line without a lexeme leaves no trace. -/
theorem skip (skips : ∀ blocks rest,
      lexemesFrom blocks [] true (front ++ rest) = lexemesFrom blocks [] true rest) :
    Leads edit bound front first openers first openers :=
  of_map id (fun rest => by rw [Option.map_id]; exact skips _ _) fun _ _ inserts => inserts

end Leads

/-- Where a line ends, with the first lexemes of the headers of all blocks that may be open, the
innermost first: the last block may not have begun, and the lines of further blocks may stand in
front, which end there. The line in front begins with a lexeme. -/
inductive Stands (heads : List Lexeme) (first : Lexeme) : List Lexeme → Prop
  | inside (extra : List Lexeme) : Stands heads first (extra ++ heads)
  | below {outer : List Lexeme} (isHead : heads = first :: outer) : Stands heads first outer

namespace Stands

/-- When a block ends, all blocks around it have begun. -/
theorem exists_tail (stands : Stands (opener :: outer) first openers) :
    ∃ extra, openers = extra ++ outer := by
  cases stands with
  | inside extra => exact ⟨extra ++ [opener], by rw [List.append_assoc, List.singleton_append]⟩
  | below isHead =>
      obtain ⟨-, rfl⟩ := List.cons.inj isHead
      exact ⟨[], rfl⟩

/-- **A line stands in front of others**, as deep as there are headers of open blocks. -/
theorem leads (stands : Stands heads first openers)
    (noClass : ∀ head ∈ heads, head ≠ .keyword .classWord)
    (isLine : IsLogicalLine content (start :: inside)) (inline : Inline (start :: inside))
    (plain : start ≠ .symbol (.operator .matrixMultiply)) :
    Leads edit bound (lineAt heads.length content) first openers start heads := by
  cases stands with
  | inside extra => exact .leave isLine inline plain extra
  | below isHead =>
      subst isHead
      exact .enter isLine inline plain (noClass first List.mem_cons_self)

end Stands

/-- A text takes up a place between lines: it is scanned as its lexemes, behind the ends of blocks
if there are any. -/
def Gives (lexemes : List Lexeme) (depth : Nat) (front rest : Text) : Prop :=
  ∀ extra, lexemesBehind (depth + extra) (front ++ rest) =
    (lexemesBehind depth rest).map fun behind => List.replicate extra .dedent ++ (lexemes ++ behind)

theorem gives_nil {depth : Nat} (closes : ClosesTo depth rest) : Gives [] depth [] rest := closes

theorem gives_line {depth : Nat} (isLine : IsLogicalLine content found) :
    Gives (found ++ [.lineEnd]) depth (lineAt depth content) rest := by
  intro extra
  rw [isLine.lexemesBehind_leave]
  refine congrArg (Option.map · _) (funext fun behind => ?_)
  rw [List.append_assoc found]
  rfl

/-- **A line is put between lines** where all blocks have begun. -/
theorem exists_inserts_here {old row : Text} (gives : Gives edit.old (opener :: outer).length old rest)
    (givesRow : Gives (edit.row ++ [.lineEnd]) (opener :: outer).length row rest)
    (apart : ∀ behind, lexemesBehind (opener :: outer).length rest = some behind →
      ∀ next ∈ behind.head?, next.joins = false)
    (plain : opener ≠ choiceOpener) (room : outer.length + 3 ≤ bound) (extra : List Lexeme)
    (first : Lexeme)
    (scanned : lexemesBehind (extra ++ opener :: outer).length (old ++ rest) = some found) :
    ∃ others, lexemesBehind (extra ++ opener :: outer).length (row ++ rest) = some others ∧
      Inserts edit bound (some first) (extra ++ opener :: outer) found others := by
  rw [List.length_append, Nat.add_comm, gives extra.length] at scanned
  obtain ⟨behind, scannedBehind, rfl⟩ := Option.map_eq_some_iff.mp scanned
  refine ⟨List.replicate extra.length .dedent ++ (edit.row ++ .lineEnd :: behind), ?_, ?_⟩
  · rw [List.length_append, Nat.add_comm, givesRow extra.length, scannedBehind, Option.map_some,
      List.append_assoc edit.row]
    rfl
  · exact Inserts.closeAll extra (fun _ => .here plain room (apart behind scannedBehind)) first

end Stencil.Script
