import Stencil.Proofs.Script.InlineStatements

/-! # A line between lines

A line may be put behind another line or behind the end of a block, wherever statements stand
(`Stencil.Script.Inserts`): what follows must not go on with the statement in front, and the block of
a choice by shape holds cases only. Where another such line stands, the line may take its place. A
reader that reads the lexemes without the line reads them with it, and what it has read and what it
leaves behind differ by the line at most (`Stencil.Script.LineKeeps`, `Stencil.Script.StartKeeps`).
-/

namespace Stencil.Script

open Reader

/-- A lexeme that goes on with a statement in front of it: a further branch, or a block. -/
def Lexeme.joins : Lexeme → Bool
  | .keyword .elifWord | .keyword .elseWord | .keyword .exceptWord | .keyword .finallyWord
  | .indent => true
  | _ => false

/-- The word that opens a choice by shape. -/
def choiceOpener : Lexeme := .name (text "match")

/-- A line with one call: it begins with a name, and it is read as a statement of its own. -/
structure IsRow (row : List Lexeme) (value : Expr) : Prop where
  head : ∃ name behind, row = .name name :: behind
  /-- It is read by the readers of all depths but the first ones. -/
  reads : ∀ depth rest, statement (Inner.ofDepth (depth + 2)) (row ++ .lineEnd :: rest) =
    some ([.expression value], rest)

/-- What stands in the place of a line before it is put there: nothing, or another line that is no
longer. -/
inductive Stood (row : List Lexeme) : List Lexeme → List Stmt → Prop
  | nothing : Stood row [] []
  | another {other : List Lexeme} {value : Expr} (isRow : IsRow other value)
      (fits : other.length ≤ row.length) : Stood row (other ++ [.lineEnd]) [.expression value]

/-- A line that is put somewhere, with its statement. -/
structure Edit where
  old : List Lexeme
  row : List Lexeme
  former : List Stmt
  value : Expr
  isRow : IsRow row value
  stood : Stood row old former

/-- Lexemes differ by a line between two lines. The first lexeme of the line in front is known,
unless a block has just begun, and so are those of the headers of all open blocks, the innermost
first. So many blocks may be open one inside the other; the blocks of a class are left as they are. -/
inductive Inserts (edit : Edit) (depth : Nat) :
    Option Lexeme → List Lexeme → List Lexeme → List Lexeme → Prop
  | same (first : Option Lexeme) (openers lexemes : List Lexeme) :
      Inserts edit depth first openers lexemes lexemes
  | here {first opener : Lexeme} {openers lexemes : List Lexeme} (plain : opener ≠ choiceOpener)
      (room : openers.length + 3 ≤ depth) (apart : ∀ next ∈ lexemes.head?, next.joins = false) :
      Inserts edit depth (some first) (opener :: openers) (edit.old ++ lexemes)
        (edit.row ++ .lineEnd :: lexemes)
  | line {first : Option Lexeme} {start : Lexeme} {inside openers rest more : List Lexeme}
      (inline : Inline (start :: inside)) (plain : start ≠ .symbol (.operator .matrixMultiply))
      (later : Inserts edit depth (some start) openers rest more) :
      Inserts edit depth first openers (start :: inside ++ .lineEnd :: rest)
        (start :: inside ++ .lineEnd :: more)
  | opens {first : Lexeme} {openers rest more : List Lexeme} (plain : first ≠ .keyword .classWord)
      (later : Inserts edit depth none (first :: openers) rest more) :
      Inserts edit depth (some first) openers (.indent :: rest) (.indent :: more)
  | closes {first : Option Lexeme} {opener : Lexeme} {openers rest more : List Lexeme}
      (later : Inserts edit depth (some .dedent) openers rest more) :
      Inserts edit depth first (opener :: openers) (.dedent :: rest) (.dedent :: more)

/-- Lexemes differ by a line that stands behind the rest of the line that they begin with. -/
def InLine (edit : Edit) (depth : Nat) (first : Lexeme) (openers lexemes others : List Lexeme) :
    Prop :=
  lexemes = others ∨ ∃ front behind more, Inline front ∧ lexemes = front ++ .lineEnd :: behind ∧
    others = front ++ .lineEnd :: more ∧ Inserts edit depth (some first) openers behind more

variable {edit : Edit} {depth : Nat} {openers lexemes others behind rest : List Lexeme}
  {first start word : Lexeme} {front : Option Lexeme}

namespace Stood

variable {row old : List Lexeme} {former : List Stmt}

theorem length_former_le (stood : Stood row old former) : former.length ≤ 1 := by
  cases stood with
  | nothing => exact Nat.zero_le 1
  | another => exact Nat.le_refl 1

theorem length_old_le (stood : Stood row old former) :
    old.length + 1 ≤ row.length + 1 + former.length := by
  cases stood with
  | nothing => exact Nat.le_add_left _ _
  | another _ fits =>
      rw [List.length_append, List.length_singleton, List.length_singleton]
      omega

/-- What stands there, if anything, begins with a name. -/
theorem head (stood : Stood row old former) :
    old = [] ∨ ∃ name behind, old = .name name :: behind := by
  cases stood with
  | nothing => exact .inl rfl
  | another isRow _ =>
      obtain ⟨name, behind, rfl⟩ := isRow.head
      exact .inr ⟨name, behind ++ [.lineEnd], rfl⟩

end Stood

namespace Inserts

/-- The line makes the lexemes longer, unless it takes the place of another one. -/
theorem eq_or_length_lt (inserts : Inserts edit depth front openers lexemes others) :
    lexemes = others ∨ lexemes.length + 1 ≤ others.length + edit.former.length := by
  induction inserts with
  | same => exact .inl rfl
  | here =>
      right
      have room := edit.stood.length_old_le
      simp only [List.length_append, List.length_cons]
      omega
  | line _ _ _ ih =>
      rcases ih with rfl | lt
      · exact .inl rfl
      · right
        simp only [List.cons_append, List.length_cons, List.length_append]
        omega
  | opens _ _ ih | closes _ ih =>
      rcases ih with rfl | lt
      · exact .inl rfl
      · right
        simp only [List.length_cons]
        omega

theorem length_le (inserts : Inserts edit depth front openers lexemes others) :
    lexemes.length ≤ others.length := by
  have single := edit.stood.length_former_le
  rcases inserts.eq_or_length_lt with rfl | lt
  · exact Nat.le_refl _
  · omega

/-- A line that goes on with a statement keeps its place behind it. -/
theorem exists_of_joins (inserts : Inserts edit depth front openers (start :: behind) others)
    (inline : start.isInline = true) (joins : start.joins = true) :
    ∃ more, others = start :: more ∧ InLine edit depth start openers behind more := by
  generalize whole : start :: behind = lexemes at inserts
  cases inserts with
  | same => exact ⟨behind, whole.symm, .inl rfl⟩
  | here _ _ apart =>
      rcases edit.stood.head with isNil | ⟨name, tail, isName⟩
      · rw [isNil, List.nil_append] at whole
        rw [apart start (by rw [← whole]; rfl)] at joins
        cases joins
      · rw [isName] at whole
        rw [(List.cons.inj whole).1] at joins
        cases joins
  | @line _ _ inside _ rest more inlineLine _ later =>
      cases whole
      exact ⟨inside ++ .lineEnd :: more, rfl, .inr ⟨inside, rest, more,
        fun lexeme member => inlineLine lexeme (List.mem_cons_of_mem _ member), rfl, rfl, later⟩⟩
  | opens => cases whole; cases inline
  | closes => cases whole; cases inline

theorem head?_ne (inserts : Inserts edit depth front openers lexemes others)
    (noName : ∀ name, word ≠ .name name) (differs : lexemes.head? ≠ some word) :
    others.head? ≠ some word := by
  cases inserts with
  | here =>
      obtain ⟨name, behind, isName⟩ := edit.isRow.head
      rw [isName]
      exact fun same => noName name (Option.some.inj same).symm
  | _ => exact differs

/-- In the block of a choice by shape, and where a block begins, no line is put. -/
theorem exists_of_fixed (inserts : Inserts edit depth front openers lexemes others)
    (fixed : front = none ∨ openers.head? = some choiceOpener) :
    others.head? = lexemes.head? ∧
    ∀ start behind, lexemes = start :: behind → start.isInline = true →
      ∃ more, others = start :: more ∧ InLine edit depth start openers behind more := by
  cases inserts with
  | same => exact ⟨rfl, fun start behind split _ => ⟨behind, split, .inl rfl⟩⟩
  | here plain =>
      rcases fixed with isNone | isChoice
      · cases isNone
      · exact (plain (Option.some.inj isChoice)).elim
  | @line _ first inside _ rest more inlineLine _ later =>
      refine ⟨rfl, fun start behind split _ => ?_⟩
      obtain ⟨rfl, rfl⟩ := List.cons.inj split
      exact ⟨inside ++ .lineEnd :: more, rfl, .inr ⟨inside, rest, more,
        fun lexeme member => inlineLine lexeme (List.mem_cons_of_mem _ member), rfl, rfl, later⟩⟩
  | opens =>
      refine ⟨rfl, fun start behind split inline => ?_⟩
      rw [← (List.cons.inj split).1] at inline
      cases inline
  | closes =>
      refine ⟨rfl, fun start behind split inline => ?_⟩
      rw [← (List.cons.inj split).1] at inline
      cases inline

/-- A block that follows a line begins in the same way. -/
theorem exists_of_indent (inserts : Inserts edit depth (some first) openers (.indent :: rest) others) :
    ∃ more, others = .indent :: more ∧ Inserts edit depth none (first :: openers) rest more ∧
      (first = .keyword .classWord → more = rest) := by
  generalize same : Lexeme.indent :: rest = whole at inserts
  cases inserts with
  | same => exact ⟨rest, same.symm, .same _ _ _, fun _ => rfl⟩
  | here _ _ apart =>
      rcases edit.stood.head with isNil | ⟨name, tail, isName⟩
      · rw [isNil, List.nil_append] at same
        cases apart .indent (by rw [← same]; rfl)
      · rw [isName] at same
        cases same
  | @line _ start _ _ _ _ inline =>
      have isIndent := (List.cons.inj same).1
      rw [← isIndent] at inline
      cases inline .indent List.mem_cons_self
  | opens plain later =>
      cases same
      exact ⟨_, rfl, later, fun isClass => (plain isClass).elim⟩
  | closes => cases same

/-- A block that follows a line with the further line begins in the same way without it. -/
theorem exists_of_indent_right
    (inserts : Inserts edit depth (some first) openers lexemes (.indent :: rest)) :
    ∃ less, lexemes = .indent :: less ∧ Inserts edit depth none (first :: openers) less rest := by
  generalize same : Lexeme.indent :: rest = whole at inserts
  cases inserts with
  | same => exact ⟨rest, same.symm, .same _ _ _⟩
  | here =>
      obtain ⟨name, behind, isName⟩ := edit.isRow.head
      rw [isName] at same
      cases same
  | @line _ start _ _ _ _ inline =>
      have isIndent := (List.cons.inj same).1
      rw [← isIndent] at inline
      cases inline .indent List.mem_cons_self
  | opens plain later =>
      cases same
      exact ⟨_, rfl, later⟩
  | closes => cases same

/-- The end of a block keeps its place where no line is put in front of it. -/
theorem exists_of_dedent (inserts : Inserts edit depth front (start :: openers) (.dedent :: rest) others)
    (ends : others.head? = some .dedent) :
    ∃ more, others = .dedent :: more ∧ Inserts edit depth (some .dedent) openers rest more := by
  generalize same : Lexeme.dedent :: rest = whole at inserts
  cases inserts with
  | same => exact ⟨rest, same.symm, .same _ _ _⟩
  | here =>
      obtain ⟨name, behind, isName⟩ := edit.isRow.head
      rw [isName] at ends
      cases ends
  | @line _ start _ _ _ _ inline =>
      have isDedent := (List.cons.inj same).1
      rw [← isDedent] at inline
      cases inline .dedent List.mem_cons_self
  | opens => cases same
  | closes later =>
      cases same
      exact ⟨_, rfl, later⟩

end Inserts

/-- What is read inside a line stays as it is but for the line, and what is left begins a line. -/
def LineKeeps {α : Type} (edit : Edit) (depth : Nat) (first : Lexeme) (openers : List Lexeme)
    (related : α → α → Prop) (left right : Reader α) : Prop :=
  ∀ lexemes others found rest, InLine edit depth first openers lexemes others →
    left lexemes = some (found, rest) →
    ∃ other last, right others = some (other, last) ∧ related found other ∧
      ∃ front, Inserts edit depth front openers rest last

/-- What is read from the start of a line stays as it is but for the line. -/
def StartKeeps {α : Type} (edit : Edit) (depth : Nat) (openers : List Lexeme) (related : α → α → Prop)
    (left right : Reader α) : Prop :=
  ∀ front lexemes others found rest, Inserts edit depth front openers lexemes others →
    left lexemes = some (found, rest) →
    ∃ other last, right others = some (other, last) ∧ related found other ∧
      ∃ front, Inserts edit depth front openers rest last

section

variable {α β : Type} {related : α → α → Prop} {relatedNext : β → β → Prop}
  {left right : Reader α} {next nextRight : α → Reader β} {least : α → Nat}

namespace LineKeeps

theorem refuse : LineKeeps edit depth first openers related (refuse : Reader α) right :=
  fun _ _ _ _ _ read => nomatch read

/-- A part of the line is read alike. -/
theorem line_bind (inline : LineReader left)
    (follow : ∀ found, LineKeeps edit depth first openers relatedNext (next found) (nextRight found)) :
    LineKeeps edit depth first openers relatedNext (left >>= next) (left >>= nextRight) := by
  intro lexemes others found rest inLine read
  obtain ⟨⟨part, behind⟩, readPart, readNext⟩ := Option.bind_eq_some_iff.mp read
  rcases inLine with rfl | ⟨front, tail, more, inside, rfl, rfl, inserts⟩
  · obtain ⟨other, last, reads, keeps⟩ := follow part _ _ _ _ (.inl rfl) readNext
    exact ⟨other, last, Option.bind_eq_some_iff.mpr ⟨_, readPart, reads⟩, keeps⟩
  · rcases inline front with refuses | ⟨value, taken, kept, rfl, reads⟩
    · rw [refuses .lineEnd tail rfl] at readPart
      cases readPart
    · rw [reads .lineEnd tail rfl] at readPart
      cases readPart
      have insideKept : Inline kept := fun lexeme member =>
        inside lexeme (List.mem_append_right _ member)
      obtain ⟨other, last, readsNext, keeps⟩ := follow _ _ (kept ++ .lineEnd :: more) _ _
        (.inr ⟨kept, tail, more, insideKept, rfl, rfl, inserts⟩) readNext
      exact ⟨other, last, Option.bind_eq_some_iff.mpr ⟨_, reads .lineEnd more rfl, readsNext⟩, keeps⟩

theorem inline_bind (inline : InlineReader least left)
    (follow : ∀ found, LineKeeps edit depth first openers relatedNext (next found) (nextRight found)) :
    LineKeeps edit depth first openers relatedNext (left >>= next) (left >>= nextRight) :=
  line_bind inline.line follow

/-- What follows a line is read behind it. -/
theorem bind (keeps : LineKeeps edit depth first openers related left right)
    (follow : ∀ found other, related found other →
      StartKeeps edit depth openers relatedNext (next found) (nextRight other)) :
    LineKeeps edit depth first openers relatedNext (left >>= next) (right >>= nextRight) := by
  intro lexemes others found rest inLine read
  obtain ⟨⟨part, behind⟩, readPart, readNext⟩ := Option.bind_eq_some_iff.mp read
  obtain ⟨other, last, reads, relates, front, inserts⟩ := keeps _ _ _ _ inLine readPart
  obtain ⟨another, final, readsNext, keepsNext⟩ := follow _ _ relates _ _ _ _ _ inserts readNext
  exact ⟨another, final, Option.bind_eq_some_iff.mpr ⟨_, reads, readsNext⟩, keepsNext⟩

theorem ite {condition : Prop} [Decidable condition] {other otherRight : Reader α}
    (whenTrue : LineKeeps edit depth first openers related left right)
    (whenFalse : LineKeeps edit depth first openers related other otherRight) :
    LineKeeps edit depth first openers related (if condition then left else other)
      (if condition then right else otherRight) := by
  split
  · exact whenTrue
  · exact whenFalse

theorem require_bind {condition : Bool} {next nextRight : Unit → Reader β}
    (follow : LineKeeps edit depth first openers relatedNext (next ()) (nextRight ())) :
    LineKeeps edit depth first openers relatedNext (require condition >>= next)
      (require condition >>= nextRight) := by
  cases condition with
  | true => exact follow
  | false => exact refuse

theorem weaken {weaker : α → α → Prop} (keeps : LineKeeps edit depth first openers related left right)
    (weakens : ∀ found other, related found other → weaker found other) :
    LineKeeps edit depth first openers weaker left right := by
  intro lexemes others found rest inLine read
  obtain ⟨other, last, reads, relates, inserts⟩ := keeps _ _ _ _ inLine read
  exact ⟨other, last, reads, weakens _ _ relates, inserts⟩

/-- The rest of a line is taken with its end. -/
theorem of_takesLine (takes : TakesLine left) (reflexive : ∀ found, related found found) :
    LineKeeps edit depth first openers related left left := by
  intro lexemes others found rest inLine read
  rcases inLine with rfl | ⟨front, tail, more, inside, rfl, rfl, inserts⟩
  · exact ⟨found, rest, read, reflexive found, some first, .same _ _ _⟩
  · rcases takes front inside with refuses | ⟨value, reads⟩
    · rw [refuses tail] at read
      cases read
    · rw [reads tail] at read
      cases read
      exact ⟨found, more, reads more, reflexive found, some first, inserts⟩

end LineKeeps

namespace StartKeeps

theorem pure {found other : α} (relates : related found other) :
    StartKeeps edit depth openers related (pure found) (pure other) := by
  intro front lexemes others value rest inserts read
  cases read
  exact ⟨other, others, rfl, relates, front, inserts⟩

theorem refuse : StartKeeps edit depth openers related (refuse : Reader α) right :=
  fun _ _ _ _ _ _ read => nomatch read

theorem bind (keeps : StartKeeps edit depth openers related left right)
    (follow : ∀ found other, related found other →
      StartKeeps edit depth openers relatedNext (next found) (nextRight other)) :
    StartKeeps edit depth openers relatedNext (left >>= next) (right >>= nextRight) := by
  intro front lexemes others found rest inserts read
  obtain ⟨⟨part, behind⟩, readPart, readNext⟩ := Option.bind_eq_some_iff.mp read
  obtain ⟨other, last, reads, relates, front, inserts⟩ := keeps _ _ _ _ _ inserts readPart
  obtain ⟨another, final, readsNext, keepsNext⟩ := follow _ _ relates _ _ _ _ _ inserts readNext
  exact ⟨another, final, Option.bind_eq_some_iff.mpr ⟨_, reads, readsNext⟩, keepsNext⟩

theorem require_bind {condition : Bool} {next nextRight : Unit → Reader β}
    (follow : StartKeeps edit depth openers relatedNext (next ()) (nextRight ())) :
    StartKeeps edit depth openers relatedNext (require condition >>= next)
      (require condition >>= nextRight) := by
  cases condition with
  | true => exact follow
  | false => exact refuse

theorem ite {condition same : Prop} [Decidable condition] [Decidable same]
    {other otherRight : Reader α} (isSame : same ↔ condition)
    (whenTrue : StartKeeps edit depth openers related left right)
    (whenFalse : StartKeeps edit depth openers related other otherRight) :
    StartKeeps edit depth openers related (if condition then left else other)
      (if same then right else otherRight) := by
  by_cases held : condition
  · rw [if_pos held, if_pos (isSame.mpr held)]
    exact whenTrue
  · rw [if_neg held, if_neg fun holds => held (isSame.mp holds)]
    exact whenFalse

/-- A word may come next that goes on with a statement. -/
theorem acceptKeyword_bind {word : Keyword} {next nextRight : Bool → Reader β}
    (joins : (Lexeme.keyword word).joins = true)
    (taken : LineKeeps edit depth (.keyword word) openers relatedNext (next true) (nextRight true))
    (kept : StartKeeps edit depth openers relatedNext (next false) (nextRight false)) :
    StartKeeps edit depth openers relatedNext (acceptKeyword word >>= next)
      (acceptKeyword word >>= nextRight) := by
  intro front lexemes others found rest inserts read
  rw [bind_apply, acceptKeyword] at read
  by_cases isWord : lexemes.head? = some (.keyword word)
  · obtain ⟨behind, rfl⟩ := List.head?_eq_some_iff.mp isWord
    obtain ⟨more, rfl, inLine⟩ := inserts.exists_of_joins rfl joins
    rw [accept_cons_self] at read
    rw [bind_apply, acceptKeyword, accept_cons_self]
    exact taken _ _ _ _ inLine read
  · have noName : ∀ name, Lexeme.keyword word ≠ .name name := by rintro name ⟨⟩
    have differs := inserts.head?_ne noName isWord
    rw [accept_of_head isWord] at read
    rw [bind_apply, acceptKeyword, accept_of_head differs]
    exact kept _ _ _ _ _ inserts read

theorem acceptKeyword_ite {word : Keyword} {takenLeft takenRight keptLeft keptRight : Reader β}
    (joins : (Lexeme.keyword word).joins = true)
    (taken : LineKeeps edit depth (.keyword word) openers relatedNext takenLeft takenRight)
    (kept : StartKeeps edit depth openers relatedNext keptLeft keptRight) :
    StartKeeps edit depth openers relatedNext
      (acceptKeyword word >>= fun found => if found = true then takenLeft else keptLeft)
      (acceptKeyword word >>= fun found => if found = true then takenRight else keptRight) :=
  acceptKeyword_bind joins taken kept

/-- A lexeme may come next where no line is put. -/
theorem accept_bind {lexeme : Lexeme} {next nextRight : Bool → Reader β}
    (fixed : openers.head? = some choiceOpener) (inline : lexeme.isInline = true)
    (taken : LineKeeps edit depth lexeme openers relatedNext (next true) (nextRight true))
    (kept : StartKeeps edit depth openers relatedNext (next false) (nextRight false)) :
    StartKeeps edit depth openers relatedNext (accept lexeme >>= next)
      (accept lexeme >>= nextRight) := by
  intro front lexemes others found rest inserts read
  obtain ⟨sameHead, exists_more⟩ := inserts.exists_of_fixed (.inr fixed)
  rw [bind_apply] at read
  by_cases isNext : lexemes.head? = some lexeme
  · obtain ⟨behind, rfl⟩ := List.head?_eq_some_iff.mp isNext
    obtain ⟨more, rfl, inLine⟩ := exists_more lexeme behind rfl inline
    rw [accept_cons_self] at read
    rw [bind_apply, accept_cons_self]
    exact taken _ _ _ _ inLine read
  · rw [accept_of_head isNext] at read
    rw [bind_apply, accept_of_head (sameHead ▸ isNext)]
    exact kept _ _ _ _ _ inserts read

/-- A repetition takes the same steps. -/
theorem repeatWithin {step stepRight : α → Reader (Option α)}
    (steps : ∀ found other, related found other →
      StartKeeps edit depth openers (Option.Rel related) (step found) (stepRight other))
    (bound : List Lexeme) : ∀ {wider : List Lexeme} {found other : α}, bound.length ≤ wider.length →
      related found other → StartKeeps edit depth openers related (repeatWithin step bound found)
        (Reader.repeatWithin stepRight wider other) := by
  induction bound with
  | nil =>
      intro wider found other _ relates front lexemes others value rest inserts read
      rcases repeatWithin_eq_some.mp read with ⟨stops, rfl⟩ | ⟨_, _, _, _, split, -⟩
      · obtain ⟨_, last, stopsRight, isNone, keeps⟩ :=
          steps _ other relates _ _ _ _ _ inserts stops
        cases isNone
        exact ⟨other, last, repeatWithin_eq_some.mpr (.inl ⟨stopsRight, rfl⟩), relates, keeps⟩
      · cases split
  | cons first bound ih =>
      intro wider found other room relates front lexemes others value rest inserts read
      rcases repeatWithin_eq_some.mp read with
        ⟨stops, rfl⟩ | ⟨_, _, next, behind, split, goesOn, read⟩
      · obtain ⟨_, last, stopsRight, isNone, keeps⟩ :=
          steps _ other relates _ _ _ _ _ inserts stops
        cases isNone
        exact ⟨other, last, repeatWithin_eq_some.mpr (.inl ⟨stopsRight, rfl⟩), relates, keeps⟩
      · cases split
        obtain ⟨_, behindRight, goesOnRight, isSome, between, inserts⟩ :=
          steps found other relates _ _ _ _ _ inserts goesOn
        cases isSome with
        | some relatesNext =>
            cases wider with
            | nil => exact (Nat.not_succ_le_zero _ room).elim
            | cons second wider =>
                obtain ⟨final, last, reads, keeps⟩ := ih (Nat.le_of_succ_le_succ room)
                  relatesNext _ _ _ _ _ inserts read
                exact ⟨final, last, repeatWithin_eq_some.mpr
                  (.inr ⟨_, _, _, _, rfl, goesOnRight, reads⟩), keeps⟩

theorem repeatFrom {step stepRight : α → Reader (Option α)} {found other : α}
    (relates : related found other)
    (steps : ∀ found other, related found other →
      StartKeeps edit depth openers (Option.Rel related) (step found) (stepRight other)) :
    StartKeeps edit depth openers related (repeatFrom step found) (repeatFrom stepRight other) :=
  fun front lexemes others value rest inserts read =>
    repeatWithin steps lexemes inserts.length_le relates front lexemes others value rest inserts read

end StartKeeps

end

end Stencil.Script
