import Stencil.Proofs.Script.Twins

/-! # Readers inside a line

A reader of a part of a line takes lexemes of the line only, and what stands behind the line makes
no difference to its answer (`Stencil.Script.InlineReader`). What it reads up to the end of a line it
also reads up to a closing parenthesis. The bound of a repetition does see what stands behind, but a
repetition in which every further step takes a lexeme ends before it reaches its bound
(`Stencil.Script.InlineReader.repeatFrom`).
-/

namespace Stencil.Script

open Reader

/-- A lexeme that ends a part of a line: one that stands in no line, or a closing parenthesis. -/
def Lexeme.isStop : Lexeme → Bool
  | .lineEnd | .indent | .dedent | .symbol .rightParen => true
  | _ => false

theorem Lexeme.isStop_cases {stop : Lexeme} (stops : stop.isStop = true) :
    stop = .lineEnd ∨ stop = .indent ∨ stop = .dedent ∨ stop = .symbol .rightParen := by
  unfold Lexeme.isStop at stops
  split at stops
  · exact .inl rfl
  · exact .inr (.inl rfl)
  · exact .inr (.inr (.inl rfl))
  · exact .inr (.inr (.inr rfl))
  · cases stops

/-- A line ends where no lexeme of it stands. -/
theorem Lexeme.isStop_of_isInline_eq_false {stop : Lexeme} (edge : stop.isInline = false) :
    stop.isStop = true := by
  cases stop <;> first | rfl | cases edge

/-- A reader answers alike whatever stands behind some lexemes of a line, and for a value it takes
at least so many of them. What ends the line is a lexeme that does not stand inside one. A value is
also read where a closing parenthesis ends a part of the line. -/
def InlineAt {α : Type} (least : α → Nat) (reader : Reader α) (front : List Lexeme) : Prop :=
  (∀ stop tail, stop.isInline = false → reader (front ++ stop :: tail) = none) ∨
  ∃ value taken behind, front = taken ++ behind ∧ least value ≤ taken.length ∧
    ∀ stop tail, stop.isStop = true →
      reader (front ++ stop :: tail) = some (value, behind ++ stop :: tail)

/-- A reader does not see what stands behind the line. -/
def InlineReader {α : Type} (least : α → Nat) (reader : Reader α) : Prop :=
  ∀ front, InlineAt least reader front

/-- A reader does not see what stands behind the line, but it may see what stands behind a part of
the line. -/
def LineReader {α : Type} (reader : Reader α) : Prop :=
  ∀ front, (∀ stop tail, stop.isInline = false → reader (front ++ stop :: tail) = none) ∨
    ∃ value taken behind, front = taken ++ behind ∧ ∀ stop tail, stop.isInline = false →
      reader (front ++ stop :: tail) = some (value, behind ++ stop :: tail)

/-- A step that goes on takes a lexeme. -/
def advances {α : Type} : Option α → Nat
  | none => 0
  | some _ => 1

theorem advances_le_one {α : Type} : ∀ found : Option α, advances found ≤ 1
  | none => Nat.zero_le 1
  | some _ => Nat.le_refl 1

/-- A step that goes on takes a lexeme, unless something is pending no longer. -/
def advancesFrom {α : Type} (pending : α → Nat) (value : α) : Option α → Nat
  | none => 0
  | some next => pending next + 1 - pending value

section

variable {α β : Type} {least : α → Nat} {leastNext : β → Nat} {reader other : Reader α}
  {front : List Lexeme} {first : Lexeme}

theorem InlineAt.refuses
    (refuses : ∀ stop tail, stop.isInline = false → reader (front ++ stop :: tail) = none) :
    InlineAt least reader front := .inl refuses

/-- A reader answers as another one does. -/
theorem InlineAt.congr (inline : InlineAt least other front)
    (same : ∀ stop tail, stop.isStop = true →
      reader (front ++ stop :: tail) = other (front ++ stop :: tail)) :
    InlineAt least reader front := by
  rcases inline with refuses | ⟨value, taken, behind, split, enough, reads⟩
  · exact .inl fun stop tail edge =>
      (same stop tail (Lexeme.isStop_of_isInline_eq_false edge)).trans (refuses stop tail edge)
  · exact .inr ⟨value, taken, behind, split, enough, fun stop tail stops =>
      (same stop tail stops).trans (reads stop tail stops)⟩

/-- A reader goes on as another one behind the first lexeme. -/
theorem InlineAt.cons (inline : InlineAt (fun value => least value - 1) other front)
    (same : ∀ behind, reader (first :: behind) = other behind) :
    InlineAt least reader (first :: front) := by
  rcases inline with refuses | ⟨value, taken, behind, rfl, enough, reads⟩
  · exact .inl fun stop tail stops => (same _).trans (refuses stop tail stops)
  · refine .inr ⟨value, first :: taken, behind, rfl, ?_, fun stop tail stops =>
      (same _).trans (reads stop tail stops)⟩
    dsimp only at enough
    rw [List.length_cons]
    omega

end

namespace InlineReader

variable {α β : Type} {least fewer : α → Nat} {leastNext : β → Nat} {reader : Reader α}
  {next : α → Reader β} {lexeme : Lexeme}

theorem weaken (inline : InlineReader least reader) (fewer_le : ∀ value, fewer value ≤ least value) :
    InlineReader fewer reader := by
  intro front
  rcases inline front with refuses | ⟨value, taken, behind, split, enough, reads⟩
  · exact .refuses refuses
  · exact .inr ⟨value, taken, behind, split, Nat.le_trans (fewer_le value) enough, reads⟩

theorem line (inline : InlineReader least reader) : LineReader reader := by
  intro front
  rcases inline front with refuses | ⟨value, taken, behind, split, -, reads⟩
  · exact .inl refuses
  · exact .inr ⟨value, taken, behind, split, fun stop tail edge =>
      reads stop tail (Lexeme.isStop_of_isInline_eq_false edge)⟩

theorem pure {value : α} (free : least value = 0) :
    InlineReader least (pure value : Reader α) := by
  intro front
  exact .inr ⟨value, [], front, rfl, Nat.le_of_eq free, fun _ _ _ => rfl⟩

theorem refuse : InlineReader least (refuse : Reader α) := fun _ => .refuses fun _ _ _ => rfl

theorem bind (inline : InlineReader least reader)
    (follow : ∀ value, InlineReader (fun found => leastNext found - least value) (next value)) :
    InlineReader leastNext (reader >>= next) := by
  intro front
  rcases inline front with refuses | ⟨value, taken, behind, rfl, enough, reads⟩
  · refine .refuses fun stop tail stops => ?_
    rw [bind_apply, refuses stop tail stops]
    rfl
  · rcases follow value behind with refuses | ⟨found, more, rest, rfl, enoughNext, readsNext⟩
    · refine .refuses fun stop tail edge => ?_
      rw [bind_apply, reads stop tail (Lexeme.isStop_of_isInline_eq_false edge)]
      exact refuses stop tail edge
    · refine .inr ⟨found, taken ++ more, rest, (List.append_assoc _ _ _).symm, ?_, ?_⟩
      · dsimp only at enoughNext
        rw [List.length_append]
        omega
      · intro stop tail stops
        rw [bind_apply, reads stop tail stops]
        exact readsNext stop tail stops

/-- A value that is there already is handed on. -/
theorem handed {value : α} (follow : InlineReader leastNext (next value)) :
    InlineReader leastNext ((Pure.pure value : Reader α) >>= next) := follow

/-- A reader that may take nothing, and what is read behind it. -/
theorem before (inline : InlineReader (fun _ => 0) reader)
    (follow : ∀ value, InlineReader leastNext (next value)) :
    InlineReader leastNext (reader >>= next) := inline.bind follow

theorem map {change : α → β} (inline : InlineReader (fun value => leastNext (change value)) reader) :
    InlineReader leastNext (change <$> reader) := by
  rw [← bind_pure_comp]
  exact inline.bind fun value => pure (Nat.sub_self _)

theorem ite {condition : Prop} [Decidable condition] {other : Reader α}
    (whenTrue : InlineReader least reader) (whenFalse : InlineReader least other) :
    InlineReader least (if condition then reader else other) := by
  split
  · exact whenTrue
  · exact whenFalse

theorem ofOption {found : Option α} (free : ∀ value, least value = 0) :
    InlineReader least (ofOption found) := by
  cases found with
  | none => exact refuse
  | some value => exact pure (free value)

theorem ofOption_bind {found : Option α}
    (follow : ∀ value, InlineReader leastNext (next value)) :
    InlineReader leastNext (Reader.ofOption found >>= next) := by
  cases found with
  | none => exact refuse
  | some value => exact follow value

theorem require_bind {condition : Bool} {next : Unit → Reader β}
    (follow : InlineReader leastNext (next ())) :
    InlineReader leastNext (require condition >>= next) := by
  cases condition with
  | true => exact follow
  | false => exact refuse

/-- A reader that looks at the next lexeme does not tell the end of the line from the end of
everything. -/
theorem peek_bind {next : Option Lexeme → Reader β}
    (follow : ∀ found, InlineReader leastNext (next found))
    (blind : ∀ stop : Lexeme, stop.isStop = true → next (some stop) = next none) :
    InlineReader leastNext (peek >>= next) := by
  intro front
  cases front with
  | nil =>
      refine (follow none []).congr fun stop tail stops => ?_
      exact congrFun (blind stop stops) (stop :: tail)
  | cons first front => exact follow (some first) (first :: front)

/-- A reader that has to see a lexeme of the line. -/
theorem peek_bind_refuse {next : Option Lexeme → Reader β}
    (follow : ∀ found, InlineReader leastNext (next found))
    (refuses : ∀ stop : Lexeme, stop.isInline = false → next (some stop) = Reader.refuse) :
    InlineReader leastNext (peek >>= next) := by
  intro front
  cases front with
  | nil =>
      refine .refuses fun stop tail edge => ?_
      change next (some stop) (stop :: tail) = none
      rw [refuses stop edge]
      rfl
  | cons first front => exact follow (some first) (first :: front)

theorem nextIs_bind_eq {next : Bool → Reader β} :
    nextIs lexeme >>= next = peek >>= fun found => next (found == some lexeme) := by
  unfold nextIs
  rw [bind_assoc]
  exact congrArg (peek >>= ·) (funext fun found => pure_bind _ _)

theorem nextIs_bind {next : Bool → Reader β} (goesOn : lexeme.isStop = false)
    (follow : ∀ found, InlineReader leastNext (next found)) :
    InlineReader leastNext (nextIs lexeme >>= next) := by
  rw [nextIs_bind_eq]
  refine peek_bind (fun found => follow _) fun stop stops => ?_
  have differs : (some stop == some lexeme) = false := by
    rw [beq_eq_false_iff_ne]
    rintro same
    rw [Option.some.inj same, goesOn] at stops
    cases stops
  rw [differs]
  rfl

/-- A reader that takes a lexeme refuses where the line ends. -/
theorem refuses_nil {needed : α → Nat} (inline : InlineReader needed reader)
    (takes : ∀ value, 0 < needed value) (stop : Lexeme) (tail : List Lexeme)
    (edge : stop.isInline = false) : reader (stop :: tail) = none := by
  rcases inline [] with refuses | ⟨value, taken, behind, split, enough, -⟩
  · exact refuses stop tail edge
  · obtain rfl := (List.append_eq_nil_iff.mp split.symm).1
    exact absurd (Nat.lt_of_lt_of_le (takes value) enough) (Nat.lt_irrefl 0)

/-- A lexeme that may come next ends a repetition, and otherwise the repetition takes a lexeme. -/
theorem nextIs_ite {value : α} {other : Reader α} (inline : lexeme.isInline = true)
    (free : least value = 0) (whenOther : InlineReader (fun _ => 1) other)
    (single : ∀ value, least value ≤ 1) :
    InlineReader least
      (nextIs lexeme >>= fun found => if found = true then Pure.pure value else other) := by
  rw [nextIs_bind_eq]
  intro front
  cases front with
  | nil =>
      refine .refuses fun stop tail edge => ?_
      have differs : (some stop == some lexeme) = false := by
        rw [beq_eq_false_iff_ne]
        rintro same
        rw [Option.some.inj same, inline] at edge
        cases edge
      change (if (some stop == some lexeme) = true then _ else other) (stop :: tail) = none
      rw [differs]
      exact whenOther.refuses_nil (fun _ => Nat.one_pos) stop tail edge
  | cons first front =>
      have either : InlineReader least
          (if (some first == some lexeme) = true then Pure.pure value else other) :=
        ite (pure free) (whenOther.weaken single)
      exact either (first :: front)

/-- A reader that looks at two lexemes looks at the second one only inside the line. -/
theorem peekSecond_bind {next : Option Lexeme → Option Lexeme → Reader β}
    (follow : ∀ first second, InlineReader leastNext (next first second))
    (blind : ∀ stop : Lexeme, stop.isStop = true →
      ∀ second, next (some stop) second = next none none)
    (blindSecond : ∀ stop : Lexeme, stop.isStop = true →
      ∀ first, next first (some stop) = next first none) :
    InlineReader leastNext (peek >>= fun first => peekSecond >>= next first) := by
  intro front
  match front with
  | [] =>
      refine (follow none none []).congr fun stop tail stops => ?_
      exact congrFun (blind stop stops tail.head?) (stop :: tail)
  | [first] =>
      refine (follow (some first) none [first]).congr fun stop tail stops => ?_
      exact congrFun (blindSecond stop stops (some first)) (first :: stop :: tail)
  | first :: second :: front => exact follow (some first) (some second) (first :: second :: front)

theorem expect_bind {next : Unit → Reader β} (inline : lexeme.isInline = true)
    (follow : InlineReader (fun found => leastNext found - 1) (next ())) :
    InlineReader leastNext (expect lexeme >>= next) := by
  have refuses : ∀ first behind, first ≠ lexeme →
      (expect lexeme >>= next) (first :: behind) = none := by
    intro first behind differs
    rw [bind_apply, expect, if_neg differs]
    rfl
  intro front
  cases front with
  | nil =>
      refine .refuses fun stop tail stops => refuses stop tail ?_
      rintro rfl
      rw [inline] at stops
      cases stops
  | cons first front =>
      by_cases same : first = lexeme
      · subst same
        refine (follow front).cons fun behind => ?_
        rw [bind_apply, expect_cons_self]
        rfl
      · exact .refuses fun stop tail _ => refuses first (front ++ stop :: tail) same

theorem expectSymbol_bind {symbol : Symbol} {next : Unit → Reader β}
    (follow : InlineReader (fun found => leastNext found - 1) (next ())) :
    InlineReader leastNext (expectSymbol symbol >>= next) := expect_bind rfl follow

theorem expectKeyword_bind {word : Keyword} {next : Unit → Reader β}
    (follow : InlineReader (fun found => leastNext found - 1) (next ())) :
    InlineReader leastNext (expectKeyword word >>= next) := expect_bind rfl follow

/-- A lexeme is left where another one stands. -/
theorem accept_bind_of_ne {first : Lexeme} {behind : List Lexeme} {next : Bool → Reader β}
    (differs : first ≠ lexeme) :
    (accept lexeme >>= next) (first :: behind) = next false (first :: behind) := by
  rw [bind_apply, accept, if_neg differs]
  rfl

/-- A lexeme that may come next is decided where a lexeme comes next. -/
theorem accept_bind_cons {first : Lexeme} {front : List Lexeme} {next : Bool → Reader β}
    (whenTaken : InlineReader (fun found => leastNext found - 1) (next true))
    (whenLeft : InlineReader leastNext (next false)) :
    InlineAt leastNext (accept lexeme >>= next) (first :: front) := by
  by_cases same : first = lexeme
  · subst same
    refine (whenTaken front).cons fun behind => ?_
    rw [bind_apply, accept_cons_self]
    rfl
  · exact (whenLeft (first :: front)).congr fun _ _ _ => accept_bind_of_ne same

theorem accept_bind {next : Bool → Reader β} (goesOn : lexeme.isStop = false)
    (whenTaken : InlineReader (fun found => leastNext found - 1) (next true))
    (whenLeft : InlineReader leastNext (next false)) :
    InlineReader leastNext (accept lexeme >>= next) := by
  intro front
  cases front with
  | nil =>
      refine (whenLeft []).congr fun stop tail stops => accept_bind_of_ne ?_
      rintro rfl
      rw [goesOn] at stops
      cases stops
  | cons first front => exact accept_bind_cons whenTaken whenLeft

/-- A lexeme that may come next ends a part in brackets, which otherwise goes on with a lexeme. -/
theorem accept_ite {taken left : Reader β} (inline : lexeme.isInline = true)
    (whenTaken : InlineReader (fun found => leastNext found - 1) taken)
    (whenLeft : InlineReader (fun _ => 1) left) (single : ∀ found, leastNext found ≤ 1) :
    InlineReader leastNext
      (accept lexeme >>= fun found => if found = true then taken else left) := by
  intro front
  cases front with
  | nil =>
      refine .refuses fun stop tail edge => ?_
      have differs : stop ≠ lexeme := by
        rintro rfl
        rw [inline] at edge
        cases edge
      rw [List.nil_append, accept_bind_of_ne differs]
      exact whenLeft.refuses_nil (fun _ => Nat.one_pos) stop tail edge
  | cons first front => exact accept_bind_cons whenTaken (whenLeft.weaken single)

theorem acceptSymbol_bind {symbol : Symbol} {next : Bool → Reader β}
    (goesOn : (Lexeme.symbol symbol).isStop = false)
    (whenTaken : InlineReader (fun found => leastNext found - 1) (next true))
    (whenLeft : InlineReader leastNext (next false)) :
    InlineReader leastNext (acceptSymbol symbol >>= next) := accept_bind goesOn whenTaken whenLeft

theorem acceptKeyword_bind {word : Keyword} {next : Bool → Reader β}
    (whenTaken : InlineReader (fun found => leastNext found - 1) (next true))
    (whenLeft : InlineReader leastNext (next false)) :
    InlineReader leastNext (acceptKeyword word >>= next) := accept_bind rfl whenTaken whenLeft

/-- A symbol that may come next decides how to go on. -/
theorem acceptSymbol_ite {symbol : Symbol} {taken left : Reader β}
    (goesOn : (Lexeme.symbol symbol).isStop = false)
    (whenTaken : InlineReader (fun found => leastNext found - 1) taken)
    (whenLeft : InlineReader leastNext left) :
    InlineReader leastNext
      (acceptSymbol symbol >>= fun found => if found = true then taken else left) :=
  acceptSymbol_bind goesOn whenTaken whenLeft

/-- A keyword that may come next decides how to go on. -/
theorem acceptKeyword_ite {word : Keyword} {taken left : Reader β}
    (whenTaken : InlineReader (fun found => leastNext found - 1) taken)
    (whenLeft : InlineReader leastNext left) :
    InlineReader leastNext
      (acceptKeyword word >>= fun found => if found = true then taken else left) :=
  acceptKeyword_bind whenTaken whenLeft

theorem expectName_bind {next : Name → Reader β}
    (follow : ∀ name, InlineReader (fun found => leastNext found - 1) (next name)) :
    InlineReader leastNext (expectName >>= next) := by
  have refuses : ∀ first behind, (∀ name, first ≠ .name name) →
      (expectName >>= next) (first :: behind) = none := by
    intro first behind differs
    cases first with
    | name name => exact (differs name rfl).elim
    | _ => rfl
  intro front
  cases front with
  | nil =>
      refine .refuses fun stop tail stops => refuses stop tail ?_
      rintro name rfl
      cases stops
  | cons first front =>
      by_cases isName : ∃ name, first = .name name
      · obtain ⟨name, rfl⟩ := isName
        exact (follow name.spelledName front).cons fun behind => rfl
      · exact .refuses fun stop tail _ => refuses first _ (not_exists.mp isName)

theorem expectName : InlineReader (fun _ => 1) expectName := by
  have whole : InlineReader (fun _ => 1) (Reader.expectName >>= Pure.pure) :=
    expectName_bind fun name => pure rfl
  rwa [bind_pure] at whole

/-- A repetition with enough room answers alike whatever stands behind the line and however much
room there is. -/
theorem repeatWithin_pending (pending : α → Nat) {step : α → Reader (Option α)}
    (steps : ∀ value, InlineReader (advancesFrom pending value) (step value)) (count : Nat) :
    ∀ value front, front.length + pending value = count →
      (∀ bound stop tail, stop.isInline = false → count ≤ bound.length →
        repeatWithin step bound value (front ++ stop :: tail) = none) ∨
      ∃ last taken behind, front = taken ++ behind ∧
        ∀ bound stop tail, stop.isStop = true → count ≤ bound.length →
          repeatWithin step bound value (front ++ stop :: tail) =
            some (last, behind ++ stop :: tail) := by
  induction count using Nat.strongRecOn with
  | ind count ih =>
      intro value front isCount
      rcases steps value front with refuses | ⟨found, taken, behind, rfl, enough, reads⟩
      · refine .inl fun bound stop tail stops _ => ?_
        cases bound <;>
        · rw [repeatWithin, bind_apply, refuses stop tail stops]
          rfl
      cases found with
      | none =>
          refine .inr ⟨value, taken, behind, rfl, fun bound stop tail stops _ => ?_⟩
          cases bound <;>
          · rw [repeatWithin, bind_apply, reads stop tail stops]
            rfl
      | some following =>
          change pending following + 1 - pending value ≤ taken.length at enough
          rw [List.length_append] at isCount
          have goesOn : ∀ bound stop tail, stop.isStop = true → count ≤ bound.length →
              ∃ less : List Lexeme, behind.length + pending following ≤ less.length ∧
                repeatWithin step bound value (taken ++ behind ++ stop :: tail) =
                  repeatWithin step less following (behind ++ stop :: tail) := by
            intro bound stop tail stops room
            cases bound with
            | nil =>
                rw [List.length_nil] at room
                omega
            | cons first bound =>
                rw [List.length_cons] at room
                refine ⟨bound, by omega, ?_⟩
                rw [repeatWithin, bind_apply, reads stop tail stops]
                rfl
          rcases ih _ (by omega) following behind rfl with
            refuses | ⟨last, more, rest, rfl, readsRest⟩
          · refine .inl fun bound stop tail edge room => ?_
            obtain ⟨less, roomRest, same⟩ :=
              goesOn bound stop tail (Lexeme.isStop_of_isInline_eq_false edge) room
            rw [same]
            exact refuses less stop tail edge roomRest
          · refine .inr ⟨last, taken ++ more, rest, (List.append_assoc _ _ _).symm, ?_⟩
            intro bound stop tail stops room
            obtain ⟨less, roomRest, same⟩ := goesOn bound stop tail stops room
            rw [same]
            exact readsRest less stop tail stops roomRest

/-- A repetition ends before its bound when every step that goes on takes a lexeme, up to one. -/
theorem repeatFrom_pending (pending : α → Nat) {step : α → Reader (Option α)} {value : α}
    (steps : ∀ value, InlineReader (advancesFrom pending value) (step value))
    (start : pending value ≤ 1) : InlineReader (fun _ => 0) (repeatFrom step value) := by
  intro front
  have room : ∀ (stop : Lexeme) tail,
      front.length + pending value ≤ (front ++ stop :: tail).length := by
    intro stop tail
    rw [List.length_append, List.length_cons]
    omega
  rcases repeatWithin_pending pending steps _ value front rfl with
    refuses | ⟨last, taken, behind, split, reads⟩
  · exact .refuses fun stop tail stops => refuses _ stop tail stops (room stop tail)
  · exact .inr ⟨last, taken, behind, split, Nat.zero_le _, fun stop tail stops =>
      reads _ stop tail stops (room stop tail)⟩

/-- A repetition in which every step that goes on takes a lexeme. -/
theorem repeatFrom {step : α → Reader (Option α)} {value : α}
    (steps : ∀ value, InlineReader advances (step value)) :
    InlineReader (fun _ => 0) (repeatFrom step value) := by
  refine repeatFrom_pending (fun _ => 0) (fun value => (steps value).weaken fun found => ?_)
    (Nat.zero_le 1)
  cases found <;> exact Nat.le_refl _

/-- Items with commas between them. -/
theorem moreItems {item : Reader α} {starts : Lexeme → Bool} {first : α}
    (inline : InlineReader (fun _ => 0) item)
    (blind : ∀ stop : Lexeme, stop.isStop = true → starts stop = false) :
    InlineReader (fun _ => 0) (moreItems item starts first) := by
  unfold Reader.moreItems
  -- The step behind the last item takes no lexeme.
  refine (repeatFrom_pending (fun found => if found.2.2 then 0 else 1) ?_ (Nat.le_refl 1)).bind
    fun found => pure rfl
  rintro ⟨found, hasComma, isEnded⟩
  cases isEnded with
  | true => exact pure rfl
  | false =>
      refine acceptSymbol_ite rfl (peek_bind (fun next => ite ?_ (pure rfl)) fun stop stops => ?_)
        (pure rfl)
      · exact inline.bind fun value => pure rfl
      · change (if starts stop = true then _ else _) = _
        rw [blind stop stops]
        rfl

theorem items {item : Reader α} {starts : Lexeme → Bool}
    (inline : InlineReader (fun _ => 1) item)
    (blind : ∀ stop : Lexeme, stop.isStop = true → starts stop = false) :
    InlineReader (fun _ => 1) (items item starts) :=
  inline.bind fun _ => moreItems (inline.weaken fun _ => Nat.zero_le 1) blind

/-- Items with a symbol in front of each of them. -/
theorem row {item : Reader α} {symbol : Symbol} {found : List α}
    (goesOn : (Lexeme.symbol symbol).isStop = false)
    (inline : InlineReader (fun _ => 0) item) :
    InlineReader (fun _ => 0)
      (Reader.repeatFrom (fun found => do
        if ← acceptSymbol symbol then return some ((← item) :: found) else return none) found) :=
  repeatFrom fun _ => acceptSymbol_ite goesOn (inline.bind fun _ => pure rfl) (pure rfl)

end InlineReader

end Stencil.Script
