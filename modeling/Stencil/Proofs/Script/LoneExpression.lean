import Stencil.Proofs.Script.InlinePatterns
import Stencil.Proofs.Script.Reader

/-! # An expression that is all of a line

What is read as one expression up to the end of a line is also read as the only argument of a call
(`Stencil.Script.callArguments_of_line`): it begins with a lexeme that begins an expression
(`Stencil.Script.beginsWith_expression`), and no name stands in front of it.
-/

namespace Stencil.Script

open Reader

variable {α β : Type} {starts : Lexeme → Bool} {reader other : Reader α} {next : α → Reader β}
  {inner : Inner} {lexeme first : Lexeme} {lexemes found rest : List Lexeme} {value : Expr}

/-- A reader reads nothing that does not begin with one of certain lexemes. -/
def BeginsWith (starts : Lexeme → Bool) (reader : Reader α) : Prop :=
  ∀ lexemes, lexemes.head?.any starts = false → reader lexemes = none

namespace BeginsWith

theorem bind (begins : BeginsWith starts reader) : BeginsWith starts (reader >>= next) := by
  intro lexemes noStart
  rw [bind_apply, begins lexemes noStart, Option.bind_none]

/-- A lexeme that may come next begins what is read, or else another one does. -/
theorem accept_ite {taken left : Reader β} (isStart : starts lexeme = true)
    (begins : BeginsWith starts left) :
    BeginsWith starts (accept lexeme >>= fun found => if found = true then taken else left) := by
  intro lexemes noStart
  have differs : lexemes.head? ≠ some lexeme := by
    intro isHead
    rw [isHead, Option.any_some, isStart] at noStart
    cases noStart
  rw [bind_apply, accept_of_head differs, Option.bind_some]
  exact begins lexemes noStart

theorem nextIs_ite {taken left : Reader β} (isStart : starts lexeme = true)
    (begins : BeginsWith starts left) :
    BeginsWith starts (nextIs lexeme >>= fun found => if found = true then taken else left) := by
  intro lexemes noStart
  have differs : (lexemes.head? == some lexeme) = false := by
    rw [beq_eq_false_iff_ne]
    intro isHead
    rw [isHead, Option.any_some, isStart] at noStart
    cases noStart
  rw [bind_apply, nextIs_apply, differs, Option.bind_some]
  exact begins lexemes noStart

end BeginsWith

theorem beginsWith_atom : BeginsWith startsExpression (atom inner) := by
  intro lexemes noStart
  cases lexemes with
  | nil => rfl
  | cons first lexemes =>
      rw [List.head?_cons, Option.any_some] at noStart
      cases first with
      | name _ | number _ | string _ => cases noStart
      | keyword word =>
          cases word
          all_goals first
            | rfl
            | cases noStart
      | symbol symbol =>
          cases symbol with
          | augmented operator => cases operator <;> rfl
          | operator operator => cases operator <;> rfl
          | _ => first | rfl | cases noStart
      | _ => rfl

theorem beginsWith_primary : BeginsWith startsExpression (Degree.primary inner) := beginsWith_atom.bind

theorem beginsWith_factor : BeginsWith startsExpression (Degree.factor inner) := by
  unfold Degree.factor Degree.power
  exact .accept_ite rfl (.accept_ite rfl (.accept_ite rfl (.accept_ite rfl beginsWith_primary.bind)))

theorem beginsWith_leftAssociative {operators : List BinaryOperator} {operand : Reader Expr}
    (begins : BeginsWith starts operand) : BeginsWith starts (leftAssociative operators operand) :=
  begins.bind

theorem beginsWith_bitOr : BeginsWith startsExpression (Degree.bitOr inner) := by
  unfold Degree.bitOr Degree.bitXor Degree.bitAnd Degree.shift Degree.sum Degree.term
  iterate 6 refine beginsWith_leftAssociative ?_
  exact beginsWith_factor

theorem beginsWith_connectedBy {connective : Connective} {word : Keyword} {operand : Reader Expr}
    (begins : BeginsWith starts operand) : BeginsWith starts (connectedBy connective word operand) :=
  begins.bind

theorem beginsWith_expression : BeginsWith startsExpression (Degree.expression inner) := by
  have inversion : BeginsWith startsExpression (Degree.inversion inner) :=
    .accept_ite rfl beginsWith_bitOr.bind
  have disjunction : BeginsWith startsExpression (Degree.disjunction inner) :=
    beginsWith_connectedBy (beginsWith_connectedBy inversion)
  unfold Degree.expression
  exact .nextIs_ite rfl disjunction.bind

/-- What is one expression up to the end of the line has no mark of an assignment behind a name that
stands first. -/
theorem head?_ne_of_line {name : Name} {mark : Lexeme} {depth : Nat}
    (isMark : mark = .symbol .walrus ∨ mark = .symbol .equal)
    (read : (Inner.ofDepth (depth + 1)).expression (.name name :: (found ++ [.lineEnd])) =
      some (value, [.lineEnd])) : found.head? ≠ some mark := by
  intro isHead
  obtain ⟨rest, rfl⟩ := List.head?_eq_some_iff.mp isHead
  have ends : mark.endsExpression = true := by rcases isMark with rfl | rfl <;> rfl
  have stops : (Inner.ofDepth (depth + 1)).expression (.name name :: mark :: (rest ++ [.lineEnd])) =
      some (.name name.spelledName, mark :: (rest ++ [.lineEnd])) :=
    Degree.expression_of_primary rfl ends
      (primary_of_atom rfl (Degree.endsOperand_of_endsExpression ends))
  rw [List.cons_append, stops] at read
  have length := congrArg List.length (Prod.mk.inj (Option.some.inj read)).2
  simp only [List.length_cons, List.length_append, List.length_nil] at length
  omega

/-- **What is one expression up to the end of the line is the only argument of a call.** -/
theorem callArguments_of_line {depth : Nat}
    (read : (Inner.ofDepth (depth + 1)).expression (found ++ [.lineEnd]) = some (value, [.lineEnd]))
    (rest : List Lexeme) :
    callArguments (Inner.ofDepth (depth + 1)) (found ++ .symbol .rightParen :: rest) =
      some (([value], []), rest) := by
  rcases (Inner.isInline_ofDepth (depth + 1)).expression found with
    refuses | ⟨other, taken, behind, split, -, reads⟩
  · rw [refuses .lineEnd [] rfl] at read
    cases read
  have same := reads .lineEnd [] rfl
  rw [read] at same
  obtain ⟨rfl, isBehind⟩ := Prod.mk.inj (Option.some.inj same)
  obtain rfl : [] = behind :=
    List.append_cancel_right (isBehind : [] ++ [Lexeme.lineEnd] = behind ++ [.lineEnd])
  have closed := reads (.symbol .rightParen) rest rfl
  rw [List.nil_append] at closed
  have starts : (found ++ [Lexeme.lineEnd]).head?.any startsExpression = true := by
    cases starts : (found ++ [Lexeme.lineEnd]).head?.any startsExpression with
    | true => rfl
    | false =>
        have refused : (Inner.ofDepth (depth + 1)).expression (found ++ [.lineEnd]) = none :=
          beginsWith_expression _ starts
        rw [refused] at read
        cases read
  cases found with
  | nil => cases starts
  | cons first found =>
      rw [List.cons_append, List.head?_cons, Option.any_some] at starts
      rw [List.cons_append] at read closed ⊢
      by_cases isName : ∃ name, first = .name name
      · obtain ⟨name, rfl⟩ := isName
        have noMark : ∀ mark : Lexeme, mark = .symbol .walrus ∨ mark = .symbol .equal →
            (found ++ .symbol .rightParen :: rest).head? ≠ some mark := by
          intro mark isMark isHead
          cases found with
          | nil =>
              obtain rfl := Option.some.inj isHead
              rcases isMark with isMark | isMark <;> cases isMark
          | cons => exact head?_ne_of_line isMark read isHead
        exact callArguments_single starts (noMark _ (.inl rfl)) (noMark _ (.inr rfl)) closed
      · have unnamed : callArguments (Inner.ofDepth (depth + 1)) (first :: (found ++
            .symbol .rightParen :: rest)) = argumentsBehind (Inner.ofDepth (depth + 1)) false
              (first :: (found ++ .symbol .rightParen :: rest)) := by
          cases first with
          | name name => exact (isName ⟨name, rfl⟩).elim
          | _ => rfl
        have plain : namedExpression (Inner.ofDepth (depth + 1)) (first :: (found ++
            .symbol .rightParen :: rest)) = (Inner.ofDepth (depth + 1)).expression
              (first :: (found ++ .symbol .rightParen :: rest)) := by
          cases first with
          | name name => exact (isName ⟨name, rfl⟩).elim
          | _ => rfl
        exact unnamed.trans (argumentsBehind_single starts plain closed)

end Stencil.Script
