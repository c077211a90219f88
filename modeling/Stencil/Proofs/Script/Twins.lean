import Stencil.Proofs.Script.Reader
import Stencil.Proofs.Script.Spelled

/-! # Readers that answer alike

What a reader needs for nested parts comes from outside, so that one reader is another one with
other parts put in. Two readers are twins on lexemes with a certain room when they answer alike
there, and when their answers and the lexemes taken for them have a property
(`Stencil.Script.Reader.Twins`). Nested parts are read behind a lexeme that gives room
(`Stencil.Script.Reader.Twins.expect_bind`), so they have to be twins on less room only.
-/

namespace Stencil.Script

namespace Reader

variable {α β : Type} {room less : Nat} {lexeme : Lexeme} {left right : Reader α}
  {next nextRight : α → Reader β}

/-- Two readers answer alike on lexemes that give at most some room, and a property holds of
every answer and the lexemes taken for it. -/
def Twins (room : Nat) (post : α → List Lexeme → Prop) (left right : Reader α) : Prop :=
  ∀ rest, weight rest ≤ room → HasWords rest → left rest = right rest ∧
    ∀ value behind, left rest = some (value, behind) →
      ∃ taken, rest = taken ++ behind ∧ post value taken

variable {post : α → List Lexeme → Prop} {postNext : β → List Lexeme → Prop}

theorem Twins.mono (twins : Twins room post left right) (le : less ≤ room) :
    Twins less post left right := fun rest fits => twins rest (Nat.le_trans fits le)

theorem Twins.weaken {weaker : α → List Lexeme → Prop} (twins : Twins room post left right)
    (implies : ∀ value taken, post value taken → weaker value taken) :
    Twins room weaker left right := by
  intro rest fits words
  obtain ⟨same, answers⟩ := twins rest fits words
  refine ⟨same, fun value behind read => ?_⟩
  obtain ⟨taken, split, held⟩ := answers value behind read
  exact ⟨taken, split, implies value taken held⟩

theorem twins_pure {value : α} (held : post value []) :
    Twins room post (pure value) (pure value) := by
  intro rest _ _
  refine ⟨rfl, fun found behind read => ?_⟩
  cases read
  exact ⟨[], rfl, held⟩

theorem twins_refuse : Twins room post refuse refuse :=
  fun _ _ _ => ⟨rfl, fun _ _ read => nomatch read⟩

/-- Twins one behind the other. -/
theorem Twins.bind (twins : Twins room post left right)
    (follow : ∀ value taken, post value taken →
      Twins room (fun found behind => postNext found (taken ++ behind)) (next value)
        (nextRight value)) :
    Twins room postNext (left >>= next) (right >>= nextRight) := by
  intro rest fits words
  obtain ⟨same, answers⟩ := twins rest fits words
  rw [bind_apply, bind_apply, ← same]
  cases read : left rest with
  | none => exact ⟨rfl, fun _ _ found => nomatch found⟩
  | some answer =>
      obtain ⟨value, behind⟩ := answer
      obtain ⟨taken, rfl, held⟩ := answers value behind read
      rw [weight_append] at fits
      obtain ⟨sameNext, answersNext⟩ := follow value taken held behind (by omega)
        (hasWords_append.mp words).2
      refine ⟨sameNext, fun found last readNext => ?_⟩
      obtain ⟨more, rfl, heldNext⟩ := answersNext found last readNext
      exact ⟨taken ++ more, (List.append_assoc _ _ _).symm, heldNext⟩

/-- Twins under one condition. -/
theorem Twins.ite {condition : Prop} [Decidable condition] {other otherRight : Reader α}
    (whenTrue : condition → Twins room post left right)
    (whenFalse : ¬ condition → Twins room post other otherRight) :
    Twins room post (if condition then left else other)
      (if condition then right else otherRight) := by
  by_cases held : condition
  · rw [if_pos held, if_pos held]
    exact whenTrue held
  · rw [if_neg held, if_neg held]
    exact whenFalse held

/-- Only an option that has a value goes on. -/
theorem twins_ofOption_bind {found : Option α}
    (follow : ∀ value, found = some value → Twins room postNext (next value) (nextRight value)) :
    Twins room postNext (ofOption found >>= next) (ofOption found >>= nextRight) := by
  cases found with
  | none => exact fun _ _ _ => ⟨rfl, fun _ _ read => nomatch read⟩
  | some value => exact follow value rfl

theorem twins_require_bind {condition : Bool} {next nextRight : Unit → Reader β}
    (follow : condition = true → Twins room postNext (next ()) (nextRight ())) :
    Twins room postNext (require condition >>= next) (require condition >>= nextRight) := by
  cases condition with
  | false => exact fun _ _ _ => ⟨rfl, fun _ _ read => nomatch read⟩
  | true => exact follow rfl

/-- A name that comes next is a word. -/
def IsNamed (found : Option Lexeme) : Prop := ∀ name, found = some (.name name) → IsWord name

/-- The next lexeme is looked at. -/
theorem twins_peek_bind {next nextRight : Option Lexeme → Reader β}
    (follow : ∀ found, IsNamed found → Twins room postNext (next found) (nextRight found)) :
    Twins room postNext (peek >>= next) (peek >>= nextRight) := by
  intro rest fits words
  refine follow rest.head? (fun name isName => ?_) rest fits words
  exact words name (List.mem_of_head? isName)

theorem twins_peekSecond_bind {next nextRight : Option Lexeme → Reader β}
    (follow : ∀ found, Twins room postNext (next found) (nextRight found)) :
    Twins room postNext (peekSecond >>= next) (peekSecond >>= nextRight) :=
  fun rest fits words => follow _ rest fits words

theorem twins_nextIs_bind {next nextRight : Bool → Reader β}
    (follow : ∀ found, Twins room postNext (next found) (nextRight found)) :
    Twins room postNext (nextIs lexeme >>= next) (nextIs lexeme >>= nextRight) :=
  fun rest fits words => follow _ rest fits words

/-- A lexeme that has to come next gives its room away. -/
theorem twins_expect_bind {next nextRight : Unit → Reader β}
    (follow : ∀ less, less + lexeme.weight ≤ room →
      Twins less (fun found behind => postNext found (lexeme :: behind)) (next ()) (nextRight ())) :
    Twins room postNext (expect lexeme >>= next) (expect lexeme >>= nextRight) := by
  intro rest fits words
  rw [bind_apply, bind_apply]
  cases rest with
  | nil => exact ⟨rfl, fun _ _ read => nomatch read⟩
  | cons first rest =>
      by_cases isNext : first = lexeme
      · subst isNext
        rw [expect_cons_self]
        rw [weight_cons] at fits
        obtain ⟨same, answers⟩ := follow (weight rest) (by omega) rest (Nat.le_refl _) words.tail
        refine ⟨same, fun value behind read => ?_⟩
        obtain ⟨taken, rfl, held⟩ := answers value behind read
        exact ⟨first :: taken, rfl, held⟩
      · rw [expect, if_neg isNext]
        exact ⟨rfl, fun _ _ read => nomatch read⟩

/-- A lexeme that is taken when it comes next gives its room away then. -/
theorem twins_accept_bind {next nextRight : Bool → Reader β}
    (taken : ∀ less, less + lexeme.weight ≤ room →
      Twins less (fun found behind => postNext found (lexeme :: behind)) (next true)
        (nextRight true))
    (left : Twins room postNext (next false) (nextRight false)) :
    Twins room postNext (accept lexeme >>= next) (accept lexeme >>= nextRight) := by
  intro rest fits words
  rw [bind_apply, bind_apply]
  by_cases isNext : rest.head? = some lexeme
  · obtain ⟨behindFirst, rfl⟩ := List.head?_eq_some_iff.mp isNext
    rw [accept_cons_self]
    rw [weight_cons] at fits
    obtain ⟨same, answers⟩ :=
      taken (weight behindFirst) (by omega) behindFirst (Nat.le_refl _) words.tail
    refine ⟨same, fun value behind read => ?_⟩
    obtain ⟨others, rfl, held⟩ := answers value behind read
    exact ⟨lexeme :: others, rfl, held⟩
  · rw [accept_of_head isNext]
    exact left rest fits words

/-- A name that has to come next is a word. -/
theorem twins_expectName_bind {next nextRight : Name → Reader β}
    (follow : ∀ word, IsWord word → ∀ less, less < room →
      Twins less (fun found behind => postNext found (.name word :: behind))
        (next word.spelledName) (nextRight word.spelledName)) :
    Twins room postNext (expectName >>= next) (expectName >>= nextRight) := by
  intro rest fits words
  rw [bind_apply, bind_apply]
  cases rest with
  | nil => exact ⟨rfl, fun _ _ read => nomatch read⟩
  | cons first rest =>
      cases first with
      | name word =>
          rw [expectName_cons]
          change 1 + weight rest ≤ room at fits
          obtain ⟨same, answers⟩ :=
            follow word words.head (weight rest) (by omega) rest (Nat.le_refl _) words.tail
          refine ⟨same, fun value behind read => ?_⟩
          obtain ⟨taken, rfl, held⟩ := answers value behind read
          exact ⟨.name word :: taken, rfl, held⟩
      | _ => exact ⟨rfl, fun _ _ read => nomatch read⟩

/-- Twins are repeated: an invariant of the value and of the lexemes taken so far holds from
step to step, and the last step turns it into the property. -/
theorem Twins.repeatFrom {step stepRight : α → Reader (Option α)}
    (invariant : α → List Lexeme → Prop) {value : α} (start : invariant value [])
    (steps : ∀ value taken, invariant value taken →
      Twins room (fun found behind => match found with
        | some following => invariant following (taken ++ behind)
        | none => post value (taken ++ behind)) (step value) (stepRight value)) :
    Twins room post (repeatFrom step value) (repeatFrom stepRight value) := by
  suffices repeated : ∀ bound value taken, invariant value taken →
      Twins room (fun found behind => post found (taken ++ behind))
        (repeatWithin step bound value) (repeatWithin stepRight bound value) from
    fun rest fits words => repeated rest value [] start rest fits words
  intro bound
  induction bound with
  | nil =>
      intro value taken held
      refine (steps value taken held).bind fun found more heldNext => ?_
      cases found with
      | none => exact twins_pure (by rwa [List.append_nil])
      | some following => exact twins_refuse
  | cons first bound ih =>
      intro value taken held
      refine (steps value taken held).bind fun found more heldNext => ?_
      cases found with
      | none => exact twins_pure (by rwa [List.append_nil])
      | some following =>
          simp only [← List.append_assoc]
          exact ih following (taken ++ more) heldNext

/-- Twins behind a repetition know what its last step leaves of the invariant. -/
theorem Twins.repeatFrom_bind {step stepRight : α → Reader (Option α)}
    (invariant last : α → List Lexeme → Prop) {value : α} (start : invariant value [])
    (steps : ∀ value taken, invariant value taken →
      Twins room (fun found behind => match found with
        | some following => invariant following (taken ++ behind)
        | none => last value (taken ++ behind)) (step value) (stepRight value))
    (follow : ∀ value taken, last value taken →
      Twins room (fun found behind => postNext found (taken ++ behind)) (next value)
        (nextRight value)) :
    Twins room postNext (Reader.repeatFrom step value >>= next)
      (Reader.repeatFrom stepRight value >>= nextRight) :=
  Twins.bind (Twins.repeatFrom invariant start steps) follow

end Reader

/-- All lexemes stand inside a line. -/
def Inline (lexemes : List Lexeme) : Prop := ∀ lexeme ∈ lexemes, lexeme.isInline = true

theorem inline_nil : Inline [] := fun _ member => nomatch member

theorem inline_cons {first : Lexeme} {rest : List Lexeme} (inline : first.isInline = true)
    (behind : Inline rest) : Inline (first :: rest) := List.forall_mem_cons.mpr ⟨inline, behind⟩

theorem Inline.append {front behind : List Lexeme} (inline : Inline front)
    (others : Inline behind) : Inline (front ++ behind) := List.forall_mem_append.mpr ⟨inline, others⟩

/-- Two readers answer alike with names that can be spelled, and take only lexemes that stand
inside a line. -/
def InlineTwins {α : Type} [Spellable α] (room : Nat) (left right : Reader α) : Prop :=
  Reader.Twins room (fun value taken => Spells value ∧ Inline taken) left right

namespace InlineTwins

open Reader

variable {α β : Type} [Spellable α] [Spellable β] {room less : Nat} {lexeme : Lexeme}
  {left right : Reader α} {next nextRight : α → Reader β}

theorem mono (twins : InlineTwins room left right) (le : less ≤ room) :
    InlineTwins less left right := Twins.mono twins le

theorem pure {value : α} (spelled : Spells value) :
    InlineTwins room (pure value) (pure value) := twins_pure ⟨spelled, inline_nil⟩

theorem refuse : InlineTwins room (refuse : Reader α) refuse := twins_refuse

theorem bind (twins : InlineTwins room left right)
    (follow : ∀ value, Spells value → InlineTwins room (next value) (nextRight value)) :
    InlineTwins room (left >>= next) (right >>= nextRight) :=
  Twins.bind twins fun value _ held => (follow value held.1).weaken fun _ _ heldNext =>
    ⟨heldNext.1, held.2.append heldNext.2⟩

theorem map {change : α → β} (twins : InlineTwins room left right)
    (keeps : ∀ value, Spells value → Spells (change value)) :
    InlineTwins room (change <$> left) (change <$> right) := by
  rw [← bind_pure_comp, ← bind_pure_comp]
  exact twins.bind fun value spelled => pure (keeps value spelled)

theorem ite {condition : Prop} [Decidable condition] {other otherRight : Reader α}
    (whenTrue : InlineTwins room left right) (whenFalse : InlineTwins room other otherRight) :
    InlineTwins room (if condition then left else other)
      (if condition then right else otherRight) :=
  Twins.ite (fun _ => whenTrue) fun _ => whenFalse

theorem ofOption {found : Option α} (spelled : ∀ value, found = some value → Spells value) :
    InlineTwins room (ofOption found) (ofOption found) := by
  cases found with
  | none => exact refuse
  | some value => exact pure (spelled value rfl)

omit [Spellable α] in
theorem ofOption_bind {found : Option α} {next nextRight : α → Reader β}
    (follow : ∀ value, found = some value → InlineTwins room (next value) (nextRight value)) :
    InlineTwins room (Reader.ofOption found >>= next) (Reader.ofOption found >>= nextRight) :=
  twins_ofOption_bind follow

theorem require_bind {condition : Bool} {next nextRight : Unit → Reader β}
    (follow : InlineTwins room (next ()) (nextRight ())) :
    InlineTwins room (require condition >>= next) (require condition >>= nextRight) :=
  twins_require_bind fun _ => follow

theorem peek_bind {next nextRight : Option Lexeme → Reader β}
    (follow : ∀ found, IsNamed found → InlineTwins room (next found) (nextRight found)) :
    InlineTwins room (peek >>= next) (peek >>= nextRight) := twins_peek_bind follow

theorem peekSecond_bind {next nextRight : Option Lexeme → Reader β}
    (follow : ∀ found, InlineTwins room (next found) (nextRight found)) :
    InlineTwins room (peekSecond >>= next) (peekSecond >>= nextRight) :=
  twins_peekSecond_bind follow

theorem nextIs_bind {next nextRight : Bool → Reader β}
    (follow : ∀ found, InlineTwins room (next found) (nextRight found)) :
    InlineTwins room (nextIs lexeme >>= next) (nextIs lexeme >>= nextRight) :=
  twins_nextIs_bind follow

/-- A lexeme with room has to come next. -/
theorem expect_bind {next nextRight : Unit → Reader β} (inline : lexeme.isInline = true)
    (heavy : lexeme.weight ≠ 0)
    (follow : ∀ less, less < room → InlineTwins less (next ()) (nextRight ())) :
    InlineTwins room (expect lexeme >>= next) (expect lexeme >>= nextRight) :=
  twins_expect_bind fun less fits => (follow less (by omega)).weaken fun _ _ held =>
    ⟨held.1, inline_cons inline held.2⟩

theorem expectSymbol_bind {symbol : Symbol} {next nextRight : Unit → Reader β}
    (follow : ∀ less, less < room → InlineTwins less (next ()) (nextRight ())) :
    InlineTwins room (expectSymbol symbol >>= next) (expectSymbol symbol >>= nextRight) :=
  expect_bind rfl Nat.one_ne_zero follow

theorem expectKeyword_bind {word : Keyword} {next nextRight : Unit → Reader β}
    (follow : ∀ less, less < room → InlineTwins less (next ()) (nextRight ())) :
    InlineTwins room (expectKeyword word >>= next) (expectKeyword word >>= nextRight) :=
  expect_bind rfl Nat.one_ne_zero follow

/-- A lexeme with room may come next. -/
theorem accept_bind {next nextRight : Bool → Reader β} (inline : lexeme.isInline = true)
    (heavy : lexeme.weight ≠ 0)
    (taken : ∀ less, less < room → InlineTwins less (next true) (nextRight true))
    (left : InlineTwins room (next false) (nextRight false)) :
    InlineTwins room (accept lexeme >>= next) (accept lexeme >>= nextRight) :=
  twins_accept_bind (fun less fits => (taken less (by omega)).weaken fun _ _ held =>
    ⟨held.1, inline_cons inline held.2⟩) left

theorem acceptSymbol_bind {symbol : Symbol} {next nextRight : Bool → Reader β}
    (taken : ∀ less, less < room → InlineTwins less (next true) (nextRight true))
    (left : InlineTwins room (next false) (nextRight false)) :
    InlineTwins room (acceptSymbol symbol >>= next) (acceptSymbol symbol >>= nextRight) :=
  accept_bind rfl Nat.one_ne_zero taken left

theorem acceptKeyword_bind {word : Keyword} {next nextRight : Bool → Reader β}
    (taken : ∀ less, less < room → InlineTwins less (next true) (nextRight true))
    (left : InlineTwins room (next false) (nextRight false)) :
    InlineTwins room (acceptKeyword word >>= next) (acceptKeyword word >>= nextRight) :=
  accept_bind rfl Nat.one_ne_zero taken left

/-- A symbol that may come next decides how to go on. -/
theorem acceptSymbol_ite {symbol : Symbol} {left right other otherRight : Reader α}
    (taken : ∀ less, less < room → InlineTwins less left right)
    (notTaken : InlineTwins room other otherRight) :
    InlineTwins room (acceptSymbol symbol >>= fun found => if found = true then left else other)
      (acceptSymbol symbol >>= fun found => if found = true then right else otherRight) :=
  acceptSymbol_bind taken notTaken

/-- A keyword that may come next decides how to go on. -/
theorem acceptKeyword_ite {word : Keyword} {left right other otherRight : Reader α}
    (taken : ∀ less, less < room → InlineTwins less left right)
    (notTaken : InlineTwins room other otherRight) :
    InlineTwins room (acceptKeyword word >>= fun found => if found = true then left else other)
      (acceptKeyword word >>= fun found => if found = true then right else otherRight) :=
  acceptKeyword_bind taken notTaken

theorem expectName_bind {next nextRight : Name → Reader β}
    (follow : ∀ name, IsName name → ∀ less, less < room →
      InlineTwins less (next name) (nextRight name)) :
    InlineTwins room (expectName >>= next) (expectName >>= nextRight) :=
  twins_expectName_bind fun _ isWord less lt => (follow _ isWord.isName less lt).weaken
    fun _ _ held => ⟨held.1, inline_cons rfl held.2⟩

theorem expectName : InlineTwins room expectName expectName := by
  have whole : InlineTwins room (Reader.expectName >>= Pure.pure)
      (Reader.expectName >>= Pure.pure) :=
    expectName_bind fun name _ _ _ => pure (spells_name name)
  rwa [bind_pure] at whole

theorem repeatFrom {step stepRight : α → Reader (Option α)} {value : α} (spelled : Spells value)
    (steps : ∀ value, Spells value → InlineTwins room (step value) (stepRight value)) :
    InlineTwins room (repeatFrom step value) (repeatFrom stepRight value) := by
  refine Twins.repeatFrom (fun value taken => Spells value ∧ Inline taken)
    ⟨spelled, inline_nil⟩ fun value taken held => ?_
  refine (steps value held.1).weaken fun found behind heldNext => ?_
  cases found with
  | none => exact ⟨held.1, held.2.append heldNext.2⟩
  | some following => exact ⟨spells_some.mp heldNext.1, held.2.append heldNext.2⟩

/-- Items with commas between them. -/
theorem moreItems {item itemRight : Reader α} {starts : Lexeme → Bool} {first : α}
    (spelled : Spells first) (twins : InlineTwins room item itemRight) :
    InlineTwins room (moreItems item starts first) (moreItems itemRight starts first) := by
  unfold Reader.moreItems
  have start : Spells ([first], false, false) :=
    ⟨spells_cons.mpr ⟨spelled, spells_nil⟩, trivial, trivial⟩
  refine bind (repeatFrom start ?_) ?_
  · rintro ⟨found, hasComma, ended⟩ ⟨spelledFound, -⟩
    refine ite (pure spells_none) (acceptSymbol_ite (fun less lt => ?_) ?_)
    · refine peek_bind fun next _ => ite ?_ ?_
      · refine bind (twins.mono (Nat.le_of_lt lt)) fun value spelledValue => pure ?_
        exact spells_some.mpr ⟨spells_cons.mpr ⟨spelledValue, spelledFound⟩, trivial, trivial⟩
      · exact pure (spells_some.mpr ⟨spelledFound, trivial, trivial⟩)
    · exact pure (spells_some.mpr ⟨spelledFound, trivial, trivial⟩)
  · rintro ⟨found, hasComma, ended⟩ ⟨spelledFound, -⟩
    exact pure ⟨spells_reverse.mpr spelledFound, trivial⟩

theorem items {item itemRight : Reader α} {starts : Lexeme → Bool}
    (twins : InlineTwins room item itemRight) :
    InlineTwins room (items item starts) (items itemRight starts) :=
  bind twins fun _ spelled => moreItems spelled twins

end InlineTwins

end Stencil.Script
