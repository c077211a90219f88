import Stencil.Proofs.Script.StatementTwins

/-! # The statements of a block, one by one

The statements that a reader finds in a block are read one behind the other
(`Stencil.Script.ReadsStatements.of_statements`), and each of them takes the lexemes of a laid out
statement. So the last line of a block is a statement of its own, whatever stands in front of it
(`Stencil.Script.ReadsStatements.exists_last`), and a block is read alike by the readers of all
depths that exceed its room (`Stencil.Script.ReadsStatements.congr`).
-/

namespace Stencil.Script

open Reader

variable {inner other : Inner} {room : Nat} {lexemes behind rest : List Lexeme}
  {found body : List Stmt}

/-- A repetition has taken its steps, and then one that does not go on. -/
theorem exists_steps_of_repeatWithin {α : Type} {step : α → Reader (Option α)} {value last : α}
    {bound : List Lexeme} (read : repeatWithin step bound value lexemes = some (last, rest)) :
    ∃ count stop, Steps step count value lexemes last stop ∧
      step last stop = some (none, rest) ∧ count ≤ bound.length := by
  induction bound generalizing value lexemes with
  | nil =>
      rcases repeatWithin_eq_some.mp read with ⟨stops, rfl⟩ | ⟨_, _, _, _, split, -⟩
      · exact ⟨0, lexemes, .none, stops, Nat.le_refl _⟩
      · cases split
  | cons first bound ih =>
      rcases repeatWithin_eq_some.mp read with ⟨stops, rfl⟩ | ⟨_, _, _, _, split, goesOn, read⟩
      · exact ⟨0, lexemes, .none, stops, Nat.zero_le _⟩
      · cases split
        obtain ⟨count, stop, steps, stops, fits⟩ := ih read
        exact ⟨count + 1, stop, .more goesOn steps, stops, Nat.succ_le_succ fits⟩

/-- A step that does not go on leaves everything as it is, at the end of the block. -/
theorem eq_of_blockStep_none {earlier : List (List Stmt)}
    (stops : blockStep inner earlier lexemes = some (none, rest)) :
    rest = lexemes ∧ (rest = [] ∨ rest.head? = some .dedent) := by
  cases lexemes with
  | nil => cases stops; exact ⟨rfl, .inl rfl⟩
  | cons first lexemes =>
      cases first with
      | dedent => cases stops; exact ⟨rfl, .inr rfl⟩
      | _ =>
          obtain ⟨answer, -, differs⟩ := Option.bind_eq_some_iff.mp stops
          cases differs

theorem exists_of_blockStep_some {earlier next : List (List Stmt)}
    (goesOn : blockStep inner earlier lexemes = some (some next, behind)) :
    ∃ first tail found, lexemes = first :: tail ∧ first ≠ .dedent ∧
      statement inner lexemes = some (found, behind) ∧ next = found :: earlier := by
  cases lexemes with
  | nil => cases goesOn
  | cons first lexemes =>
      by_cases isDedent : first = .dedent
      · subst isDedent
        cases goesOn
      · obtain ⟨answer, read, same⟩ : ∃ answer, statement inner (first :: lexemes) = some answer ∧
            some (some (answer.1 :: earlier), answer.2) = some (some next, behind) := by
          refine Option.bind_eq_some_iff.mp ?_
          rw [← goesOn]
          cases first with
          | dedent => exact (isDedent rfl).elim
          | _ => rfl
        cases same
        exact ⟨first, lexemes, answer.1, rfl, isDedent, read, rfl⟩

/-- A statement takes some lexemes, the first of which ends no block. -/
theorem exists_of_statement (alike : inner.Alike room inner) (fits : weight lexemes ≤ room)
    (words : HasWords lexemes) (read : statement inner lexemes = some (found, behind)) :
    ∃ first taken, lexemes = first :: taken ++ behind ∧ first ≠ .dedent ∧ Laid (first :: taken) ∧
      Spells found ∧ weight behind ≤ room ∧ HasWords behind := by
  obtain ⟨-, answers⟩ := laidTwins_statement alike lexemes fits words
  obtain ⟨taken, rfl, spelled, laid⟩ := answers found behind read
  have wordsBehind := (hasWords_append.mp words).2
  rw [weight_append] at fits
  cases taken with
  | nil =>
      obtain ⟨front, last, none, -⟩ := laid.exists_last
      cases (List.append_eq_nil_iff.mp none.symm).2
  | cons first taken =>
      refine ⟨first, taken, rfl, ?_, laid, spelled, by omega, wordsBehind⟩
      rintro rfl
      cases laid.level_eq 0

namespace ReadsStatements

/-- Statements that follow another one. -/
theorem of_statement (alike : inner.Alike room inner) (fits : weight lexemes ≤ room)
    (words : HasWords lexemes) (read : statement inner lexemes = some (found, behind))
    (reads : ReadsStatements inner behind body rest) :
    ReadsStatements inner lexemes (found ++ body) rest := by
  obtain ⟨first, taken, rfl, noDedent, -⟩ := exists_of_statement alike fits words read
  refine .more read noDedent ?_ reads
  change behind.length ≤ (taken ++ behind).length
  rw [List.length_append]
  exact Nat.le_add_left _ _

/-- Steps of a block are statements one behind the other. -/
theorem of_steps (alike : inner.Alike room inner) {count : Nat} {earlier last : List (List Stmt)}
    (steps : Steps (blockStep inner) count earlier lexemes last rest) (fits : weight lexemes ≤ room)
    (words : HasWords lexemes) :
    ∃ found, ReadsStatements inner lexemes found rest ∧
      last.reverse.flatten = earlier.reverse.flatten ++ found := by
  induction steps with
  | none => exact ⟨[], .none, (List.append_nil _).symm⟩
  | @more count earlier next last lexemes behind rest first _ ih =>
      obtain ⟨_, _, found, -, -, read, rfl⟩ := exists_of_blockStep_some first
      obtain ⟨_, _, -, -, -, -, fitsBehind, wordsBehind⟩ :=
        exists_of_statement alike fits words read
      obtain ⟨others, reads, flat⟩ := ih fitsBehind wordsBehind
      refine ⟨found ++ others, of_statement alike fits words read reads, ?_⟩
      rw [flat, List.reverse_cons, List.flatten_append, List.flatten_singleton, List.append_assoc]

/-- **The statements of a block are read one behind the other** up to the end of the block. -/
theorem of_statements (alike : inner.Alike room inner) (fits : weight lexemes ≤ room)
    (words : HasWords lexemes) (read : statements inner lexemes = some (body, rest)) :
    ReadsStatements inner lexemes body rest ∧ (rest = [] ∨ rest.head? = some .dedent) := by
  rw [statements_apply] at read
  obtain ⟨⟨found, behind⟩, readFirst, read⟩ := Option.bind_eq_some_iff.mp read
  obtain ⟨⟨last, stop⟩, repeated, read⟩ := Option.bind_eq_some_iff.mp read
  cases read
  obtain ⟨_, _, -, -, -, -, fitsBehind, wordsBehind⟩ :=
    exists_of_statement alike fits words readFirst
  obtain ⟨count, stop, steps, stops, -⟩ := exists_steps_of_repeatWithin repeated
  obtain ⟨rfl, ends⟩ := eq_of_blockStep_none stops
  obtain ⟨others, reads, flat⟩ := of_steps alike steps fitsBehind wordsBehind
  refine ⟨?_, ends⟩
  rw [flat, List.reverse_singleton, List.flatten_singleton]
  exact of_statement alike fits words readFirst reads

/-- Statements take the lexemes of a block. -/
theorem exists_laidBlock (alike : inner.Alike room inner)
    (reads : ReadsStatements inner lexemes body rest) (fits : weight lexemes ≤ room)
    (words : HasWords lexemes) : ∃ taken, lexemes = taken ++ rest ∧ LaidBlock taken := by
  induction reads with
  | none => exact ⟨[], rfl, laidBlock_nil⟩
  | more read _ _ _ ih =>
      obtain ⟨first, taken, split, -, laid, -, fitsBehind, wordsBehind⟩ :=
        exists_of_statement alike fits words read
      obtain ⟨others, rfl, block⟩ := ih fitsBehind wordsBehind
      exact ⟨first :: taken ++ others, by rw [split, List.append_assoc], laid.laidBlock.append block⟩

/-- The readers of different depths read the same statements. -/
theorem congr (alike : inner.Alike room other) (alikeSelf : inner.Alike room inner)
    (reads : ReadsStatements inner lexemes body rest) (fits : weight lexemes ≤ room)
    (words : HasWords lexemes) : ReadsStatements other lexemes body rest := by
  induction reads with
  | none => exact .none
  | more read noDedent shorter _ ih =>
      obtain ⟨_, _, -, -, -, -, fitsBehind, wordsBehind⟩ :=
        exists_of_statement alikeSelf fits words read
      have same := (laidTwins_statement alike _ fits words).1
      exact .more (same ▸ read) noDedent shorter (ih fitsBehind wordsBehind)

/-- The names that are read in statements can be spelled. -/
theorem spells (alike : inner.Alike room inner) (reads : ReadsStatements inner lexemes body rest)
    (fits : weight lexemes ≤ room) (words : HasWords lexemes) : Spells body := by
  induction reads with
  | none => exact spells_nil
  | more read _ _ _ ih =>
      obtain ⟨_, _, -, -, -, spelled, fitsBehind, wordsBehind⟩ :=
        exists_of_statement alike fits words read
      exact spells_append.mpr ⟨spelled, ih fitsBehind wordsBehind⟩

/-- Statements leave no more lexemes than there were. -/
theorem length_le (reads : ReadsStatements inner lexemes body rest) :
    rest.length ≤ lexemes.length := by
  induction reads with
  | none => exact Nat.le_refl _
  | more _ _ shorter _ ih => exact Nat.le_succ_of_le (Nat.le_trans ih shorter)

/-- Nothing is read from no lexemes. -/
theorem eq_nil_of_length_le (reads : ReadsStatements inner lexemes body rest)
    (le : lexemes.length ≤ rest.length) : body = [] := by
  cases reads with
  | none => rfl
  | more _ _ shorter reads =>
      have behind := reads.length_le
      rw [List.length_cons] at le
      omega

/-- **The last line of a block is a statement of its own** when it begins with a word that goes on
with nothing and stands behind the end of a line or of a block. -/
theorem exists_last (alike : inner.Alike room inner)
    (reads : ReadsStatements inner lexemes body rest) (fits : weight lexemes ≤ room)
    (words : HasWords lexemes) {front inside : List Lexeme} {first : Lexeme}
    (split : lexemes = front ++ (first :: inside ++ [.lineEnd]) ++ rest)
    (inline : Inline (first :: inside)) (starts : first.continues = false)
    (ends : ∀ last ∈ front.getLast?, last.endsPart) :
    ∃ earlier last, body = earlier ++ last ∧
      statement inner (first :: inside ++ [.lineEnd] ++ rest) = some (last, rest) := by
  induction reads generalizing front with
  | @none rest =>
      have count := congrArg List.length split
      simp only [List.length_append, List.length_cons] at count
      omega
  | @more start lexemes behind rest found others read noDedent shorter reads ih =>
      obtain ⟨start, taken, splitTaken, -, laid, -, fitsBehind, wordsBehind⟩ :=
        exists_of_statement alike fits words read
      obtain ⟨more, rfl, -⟩ := exists_laidBlock alike reads fitsBehind wordsBehind
      rw [splitTaken, ← List.append_assoc, List.append_cancel_right_eq] at split
      rcases List.append_eq_append_iff.mp split with ⟨between, atFront, atMore⟩ |
        ⟨between, atTaken, atLine⟩
      · obtain ⟨earlier, last, rfl, readLast⟩ := ih fitsBehind wordsBehind (by rw [atMore])
          fun last isLast => ends last (by rw [atFront, List.getLast?_append, isLast]; rfl)
        exact ⟨found ++ earlier, last, (List.append_assoc _ _ _).symm, readLast⟩
      · rcases List.eq_nil_or_concat more with rfl | ⟨moreInner, moreLast, rfl⟩
        · -- The line is all that the statement ends with.
          rw [List.append_nil] at atLine
          obtain rfl : front = [] := laid.eq_nil_of_append_line (by rw [atTaken, atLine]) inline
            starts ends
          obtain rfl := reads.eq_nil_of_length_le (Nat.le_refl _)
          rw [splitTaken, atTaken, ← atLine] at read
          exact ⟨[], found, List.append_nil _, read⟩
        · rcases List.eq_nil_or_concat between with rfl | ⟨betweenInner, betweenLast, rfl⟩
          · have whole : moreInner.concat moreLast ++ rest =
                [] ++ (first :: inside ++ [.lineEnd]) ++ rest := by rw [atLine]; rfl
            obtain ⟨earlier, last, rfl, readLast⟩ := ih fitsBehind wordsBehind whole
              fun _ isLast => nomatch isLast
            exact ⟨found ++ earlier, last, (List.append_assoc _ _ _).symm, readLast⟩
          · -- The statement would end inside the line.
            obtain ⟨inner, last, splitLast, endsLast⟩ := laid.exists_last
            rw [List.concat_eq_append] at atTaken atLine
            rw [List.concat_eq_append, ← List.append_assoc] at atLine
            rw [atTaken, ← List.append_assoc] at splitLast
            obtain rfl : betweenLast = last :=
              (List.cons.inj (List.append_inj' splitLast rfl).2).1
            have member : betweenLast ∈ first :: inside := by
              rw [(List.append_inj' atLine rfl).1]
              exact List.mem_append_left _ (List.mem_append_right _ List.mem_cons_self)
            exact (inline.not_endsPart member endsLast).elim

end ReadsStatements

end Stencil.Script
