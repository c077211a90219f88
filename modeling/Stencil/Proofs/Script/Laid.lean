import Stencil.Proofs.Script.Twins

/-! # The layout of statements

The marks of lines and blocks among the lexemes of a statement have a certain shape
(`Stencil.Script.Laid`): every block inside it is closed again, and what stands behind the end of
a line or of a block begins with a word that goes on with a statement. So the end of a block is
found without reading what is inside (`Stencil.Script.eq_of_level_eq`), and a line that begins with
any other word is a statement of its own (`Stencil.Script.Laid.eq_nil_of_append_line`).
-/

namespace Stencil.Script

/-- A lexeme with which a further part of a statement can begin: a branch, or what decorators
stand in front of. -/
def Lexeme.continues : Lexeme → Bool
  | .keyword .elifWord | .keyword .elseWord | .keyword .exceptWord | .keyword .finallyWord
  | .keyword .asyncWord | .keyword .defWord | .keyword .classWord
  | .symbol (.operator .matrixMultiply) => true
  | _ => false

/-- The layout of one statement: a line, a header with the lines of its block, or one such part
behind another. -/
inductive Laid : List Lexeme → Prop
  | line {inside : List Lexeme} (inline : Inline inside) : Laid (inside ++ [.lineEnd])
  | block {header : List Lexeme} {parts : List (List Lexeme)} (inline : Inline header)
      (laid : ∀ part ∈ parts, Laid part) :
      Laid (header ++ .lineEnd :: .indent :: (parts.flatten ++ [.dedent]))
  | more {front behind : List Lexeme} {first : Lexeme} (laid : Laid front)
      (others : Laid (first :: behind)) (continues : first.continues = true) :
      Laid (front ++ first :: behind)

/-- The lexemes of the statements of a block. -/
def LaidBlock (lexemes : List Lexeme) : Prop :=
  ∃ parts : List (List Lexeme), lexemes = parts.flatten ∧ ∀ part ∈ parts, Laid part

variable {lexemes front behind header inside taken rest : List Lexeme} {first last : Lexeme}
  {depth : Nat}

theorem laidBlock_nil : LaidBlock [] := ⟨[], rfl, fun _ member => nomatch member⟩

theorem Laid.laidBlock (laid : Laid lexemes) : LaidBlock lexemes :=
  ⟨[lexemes], List.flatten_singleton.symm, List.forall_mem_singleton.mpr laid⟩

theorem LaidBlock.append (block : LaidBlock front) (others : LaidBlock behind) :
    LaidBlock (front ++ behind) := by
  obtain ⟨parts, rfl, laidParts⟩ := block
  obtain ⟨otherParts, rfl, laidOthers⟩ := others
  exact ⟨parts ++ otherParts, List.flatten_append.symm,
    List.forall_mem_append.mpr ⟨laidParts, laidOthers⟩⟩

/-- More lexemes inside the first line of a statement. -/
theorem Laid.prepend (laid : Laid lexemes) (inline : Inline header) : Laid (header ++ lexemes) := by
  induction laid with
  | line inlineInside =>
      rw [← List.append_assoc]
      exact .line (inline.append inlineInside)
  | block inlineHeader laidParts =>
      rw [← List.append_assoc]
      exact .block (inline.append inlineHeader) laidParts
  | more _ others continues ih _ =>
      rw [← List.append_assoc]
      exact .more ih others continues

theorem Laid.cons (laid : Laid lexemes) (inline : first.isInline = true) :
    Laid (first :: lexemes) := laid.prepend (inline_cons inline inline_nil)

/-- The level behind some lexemes that begin on a level; `none` when the outermost level is
left. -/
def level : Nat → List Lexeme → Option Nat
  | depth, [] => some depth
  | depth, .indent :: rest => level (depth + 1) rest
  | 0, .dedent :: _ => none
  | depth + 1, .dedent :: rest => level depth rest
  | depth, _ :: rest => level depth rest

theorem level_cons_of_isInline (inline : first.isInline = true) :
    level depth (first :: rest) = level depth rest := by
  cases first
  case indent => cases inline
  case dedent => cases inline
  all_goals cases depth <;> rfl

theorem level_lineEnd : level depth (.lineEnd :: rest) = level depth rest := by
  cases depth <;> rfl

theorem level_indent : level depth (.indent :: rest) = level (depth + 1) rest := by
  cases depth <;> rfl

theorem level_append : level depth (front ++ behind) = (level depth front).bind (level · behind) := by
  fun_induction level depth front with
  | case1 => rfl
  | case2 depth rest ih => rw [List.cons_append, level_indent, ih]
  | case3 => rfl
  | case4 depth rest ih => exact ih
  | case5 depth first rest notIndent noZero noSucc ih =>
      rw [List.cons_append]
      cases first
      case indent => exact (notIndent rfl).elim
      case dedent =>
        cases depth with
        | zero => exact (noZero rfl rfl).elim
        | succ depth => exact (noSucc depth rfl rfl).elim
      all_goals cases depth <;> exact ih

/-- Lexemes inside a line stay on their level. -/
theorem Inline.level_eq (inline : Inline inside) : level depth inside = some depth := by
  induction inside with
  | nil => cases depth <;> rfl
  | cons first rest ih =>
      rw [level_cons_of_isInline (inline first List.mem_cons_self)]
      exact ih fun lexeme member => inline lexeme (List.mem_cons_of_mem _ member)

theorem level_flatten {parts : List (List Lexeme)}
    (stays : ∀ part ∈ parts, ∀ depth, level depth part = some depth) :
    level depth parts.flatten = some depth := by
  induction parts with
  | nil => cases depth <;> rfl
  | cons part parts ih =>
      rw [List.flatten_cons, level_append, stays part List.mem_cons_self, Option.bind_some]
      exact ih fun other member => stays other (List.mem_cons_of_mem _ member)

/-- A statement closes the blocks that it opens. -/
theorem Laid.level_eq (laid : Laid lexemes) (depth : Nat) : level depth lexemes = some depth := by
  induction laid generalizing depth with
  | line inline =>
      rw [level_append, inline.level_eq, Option.bind_some, level_lineEnd]
      cases depth <;> rfl
  | @block header parts inline _ ih =>
      rw [level_append, inline.level_eq, Option.bind_some, level_lineEnd, level_indent,
        level_append, level_flatten ih, Option.bind_some]
      cases depth <;> rfl
  | more _ _ _ ih ihOthers => rw [level_append, ih, Option.bind_some, ihOthers]

theorem LaidBlock.level_eq (block : LaidBlock lexemes) : level depth lexemes = some depth := by
  obtain ⟨parts, rfl, laid⟩ := block
  exact level_flatten fun part member => (laid part member).level_eq

/-- The end of a block is found by counting. -/
theorem eq_of_level_eq (whole : level 0 lexemes = some 0) (part : level 0 taken = some 0)
    (split : lexemes ++ [.dedent] = taken ++ .dedent :: rest) : taken = lexemes ∧ rest = [] := by
  rcases List.append_eq_append_iff.mp split with ⟨more, atTaken, atDedent⟩ | ⟨more, atWhole, atRest⟩
  · cases more with
    | nil => exact ⟨by rw [atTaken, List.append_nil], (List.cons.inj atDedent).2.symm⟩
    | cons other more =>
        cases (List.append_eq_nil_iff.mp (List.cons.inj atDedent).2.symm).2
  · cases more with
    | nil => exact ⟨by rw [atWhole, List.append_nil], (List.cons.inj atRest).2⟩
    | cons other more =>
        -- A further lexeme of the whole would be the end of the block.
        obtain ⟨rfl, -⟩ := List.cons.inj atRest
        rw [atWhole, level_append, part, Option.bind_some] at whole
        cases whole

/-- A lexeme that ends a line or a block. -/
def Lexeme.endsPart (lexeme : Lexeme) : Prop := lexeme = .lineEnd ∨ lexeme = .dedent

theorem Inline.not_endsPart (inline : Inline inside) (member : last ∈ inside) :
    ¬ last.endsPart := by
  rintro (rfl | rfl)
  · cases inline _ member
  · cases inline _ member

/-- A statement ends with a line or a block. -/
theorem Laid.exists_last (laid : Laid lexemes) :
    ∃ front last, lexemes = front ++ [last] ∧ last.endsPart := by
  induction laid with
  | @line inside => exact ⟨inside, _, rfl, .inl rfl⟩
  | @block header parts =>
      refine ⟨header ++ .lineEnd :: .indent :: parts.flatten, _, ?_, .inr rfl⟩
      rw [List.append_assoc, List.cons_append, List.cons_append]
  | @more front _ _ _ _ _ _ ih =>
      obtain ⟨inner, last, split, ends⟩ := ih
      exact ⟨front ++ inner, last, by rw [split, List.append_assoc], ends⟩

/-- A line that begins with a word that goes on with nothing is no part of another statement. -/
theorem Laid.eq_nil_of_append_line (laid : Laid lexemes)
    (split : lexemes = front ++ (first :: inside ++ [.lineEnd])) (inline : Inline (first :: inside))
    (starts : first.continues = false) (ends : ∀ last ∈ front.getLast?, last.endsPart) :
    front = [] := by
  induction laid generalizing front with
  | @line insideLine inlineLine =>
      rw [← List.append_assoc] at split
      obtain ⟨same, -⟩ := List.append_inj' split rfl
      cases found : front.getLast? with
      | none => exact List.getLast?_eq_none_iff.mp found
      | some last =>
          have member : last ∈ insideLine :=
            same ▸ List.mem_append_left _ (List.mem_of_getLast? found)
          exact (inlineLine.not_endsPart member (ends last found)).elim
  | @block header parts =>
      rw [← List.append_assoc, ← List.cons_append, ← List.cons_append, ← List.append_assoc] at split
      cases (List.append_inj' split rfl).2
  | @more earlier behind start laidEarlier others continues _ ihOthers =>
      have differs : ∀ {left right : List Lexeme}, start :: left ≠ first :: right := by
        intro left right same
        rw [(List.cons.inj same).1, starts] at continues
        cases continues
      rcases List.append_eq_append_iff.mp split with ⟨more, atFront, atOthers⟩ | ⟨more, atEarlier, atLine⟩
      · have empty : more = [] := ihOthers atOthers fun last isLast => by
          refine ends last ?_
          rw [atFront, List.getLast?_append, isLast]
          rfl
        rw [empty] at atOthers
        exact (differs atOthers).elim
      · -- The line would reach over the end of the part in front.
        obtain ⟨inner, last, splitEarlier, endsEarlier⟩ := laidEarlier.exists_last
        rcases List.eq_nil_or_concat more with rfl | ⟨moreInner, moreLast, rfl⟩
        · exact (differs atLine.symm).elim
        · obtain ⟨behindInner, behindLast, splitBehind, -⟩ := others.exists_last
          rw [List.concat_eq_append] at atEarlier atLine
          rw [atEarlier, ← List.append_assoc] at splitEarlier
          cases (List.append_inj' splitEarlier rfl).2
          rw [splitBehind, ← List.append_assoc] at atLine
          obtain ⟨same, -⟩ := List.append_inj' atLine rfl
          have member : last ∈ first :: inside := by
            rw [same]
            exact List.mem_append_left _ (List.mem_append_right _ List.mem_cons_self)
          exact (inline.not_endsPart member endsEarlier).elim

end Stencil.Script
