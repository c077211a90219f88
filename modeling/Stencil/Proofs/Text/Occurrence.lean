import Stencil.Text.Basic

/-! # Occurrences of a marker

A marker occurs at a place of a text when the text behind that place begins with it. The
first occurrence at or behind a place is a property of the places alone, and it is what
`Stencil.Text.splitAt?` looks for: the text before the needle ends where the needle occurs
for the first time.
-/

namespace Stencil.Text

variable {needle whole before after : Text} {start place : Nat}

/-- A needle occurs at a place of a text. -/
def OccursAt (needle whole : Text) (place : Nat) : Prop := needle <+: whole.drop place

instance (needle whole : Text) (place : Nat) : Decidable (OccursAt needle whole place) :=
  inferInstanceAs (Decidable (_ <+: _))

/-- A needle occurs at a place, and nowhere else from a start on up to it. -/
structure IsFirstFrom (needle whole : Text) (start place : Nat) : Prop where
  start_le : start ≤ place
  occurs : OccursAt needle whole place
  absent : ∀ earlier, start ≤ earlier → earlier < place → ¬ OccursAt needle whole earlier

/-- An occurrence in the text behind a start is one of the whole text, further on. -/
theorem occursAt_drop : OccursAt needle (whole.drop start) place ↔
    OccursAt needle whole (start + place) := by
  unfold OccursAt
  rw [List.drop_drop]

@[simp] theorem occursAt_cons_succ {point : CodePoint} :
    OccursAt needle (point :: whole) (place + 1) ↔ OccursAt needle whole place := Iff.rfl

@[simp] theorem occursAt_zero : OccursAt needle whole 0 ↔ needle <+: whole := Iff.rfl

theorem OccursAt.add_length_le (held : needle ≠ []) (occurs : OccursAt needle whole place) :
    place + needle.length ≤ whole.length := by
  have fits := List.IsPrefix.length_le occurs
  have positive := List.length_pos_iff.mpr held
  rw [List.length_drop] at fits
  omega

/-- There is at most one first occurrence from a start on. -/
theorem IsFirstFrom.eq {other : Nat} (found : IsFirstFrom needle whole start place)
    (again : IsFirstFrom needle whole start other) : place = other := by
  rcases Nat.lt_trichotomy place other with before | same | behind
  · exact (again.absent place found.start_le before found.occurs).elim
  · exact same
  · exact (found.absent other again.start_le behind again.occurs).elim

theorem isFirstFrom_drop : IsFirstFrom needle (whole.drop start) 0 place ↔
    IsFirstFrom needle whole start (start + place) := by
  constructor
  · intro found
    refine ⟨Nat.le_add_right start place, occursAt_drop.mp found.occurs, ?_⟩
    intro earlier behind below occurs
    obtain ⟨distance, rfl⟩ := Nat.exists_eq_add_of_le behind
    exact found.absent distance (Nat.zero_le _) (by omega) (occursAt_drop.mpr occurs)
  · intro found
    refine ⟨Nat.zero_le _, occursAt_drop.mpr found.occurs, ?_⟩
    intro earlier _ below occurs
    exact found.absent (start + earlier) (by omega) (by omega) (occursAt_drop.mp occurs)

/-- Splitting stops at the first occurrence of the needle. -/
theorem isFirstFrom_of_splitAt? (found : splitAt? needle whole = some (before, after)) :
    IsFirstFrom needle whole 0 before.length := by
  induction whole generalizing before with
  | nil =>
      have whole_eq := eq_of_splitAt? found
      have needle_nil : needle = [] := by
        have lengths := congrArg List.length whole_eq
        simp only [List.length_nil, List.length_append] at lengths
        exact List.length_eq_zero_iff.mp (by omega)
      have before_nil : before = [] := by
        have lengths := congrArg List.length whole_eq
        simp only [List.length_nil, List.length_append] at lengths
        exact List.length_eq_zero_iff.mp (by omega)
      subst needle_nil before_nil
      exact ⟨Nat.le_refl 0, List.nil_prefix,
        by intro earlier _ below; exact absurd below (Nat.not_lt_zero _)⟩
  | cons point rest ih =>
      by_cases starts : needle.isPrefixOf (point :: rest) = true
      · simp only [splitAt?, starts, ↓reduceIte, Option.some.injEq, Prod.mk.injEq] at found
        obtain ⟨rfl, -⟩ := found
        exact ⟨Nat.le_refl 0, List.isPrefixOf_iff_prefix.mp starts,
          by intro earlier _ below; exact absurd below (Nat.not_lt_zero _)⟩
      · simp only [splitAt?, starts, Bool.false_eq_true, ↓reduceIte, Option.map_eq_some_iff,
          Prod.exists, Prod.mk.injEq] at found
        obtain ⟨inner, tail, deeper, rfl, rfl⟩ := found
        have later := ih deeper
        refine ⟨Nat.zero_le _, later.occurs, ?_⟩
        intro earlier _ below occurs
        cases earlier with
        | zero => exact starts (List.isPrefixOf_iff_prefix.mpr occurs)
        | succ earlier =>
            exact later.absent earlier (Nat.zero_le _) (Nat.lt_of_succ_lt_succ below) occurs

/-- Splitting fails exactly when the needle occurs nowhere. -/
theorem splitAt?_eq_none_iff (held : needle ≠ []) :
    splitAt? needle whole = none ↔ ∀ place, ¬ OccursAt needle whole place := by
  induction whole with
  | nil =>
      have absent : needle.isEmpty = false := List.isEmpty_eq_false_iff.mpr held
      simp only [splitAt?, absent, Bool.false_eq_true, ↓reduceIte, true_iff]
      intro place occurs
      have fits := occurs.add_length_le held
      have positive := List.length_pos_iff.mpr held
      rw [List.length_nil] at fits
      omega
  | cons point rest ih =>
      by_cases starts : needle.isPrefixOf (point :: rest) = true
      · simp only [splitAt?, starts, ↓reduceIte, reduceCtorEq, false_iff]
        intro absent
        exact absent 0 (List.isPrefixOf_iff_prefix.mp starts)
      · simp only [splitAt?, starts, Bool.false_eq_true, ↓reduceIte, Option.map_eq_none_iff, ih]
        constructor
        · intro absent place occurs
          cases place with
          | zero => exact starts (List.isPrefixOf_iff_prefix.mpr occurs)
          | succ place => exact absent place occurs
        · intro absent place occurs
          exact absent (place + 1) occurs

/-- Splitting at a needle is finding its first occurrence. -/
theorem splitAt?_eq_some_iff (held : needle ≠ []) :
    splitAt? needle whole = some (before, after) ↔
      IsFirstFrom needle whole 0 before.length ∧ whole = before ++ needle ++ after := by
  constructor
  · intro found
    exact ⟨isFirstFrom_of_splitAt? found, eq_of_splitAt? found⟩
  · rintro ⟨first, whole_eq⟩
    cases found : splitAt? needle whole with
    | none =>
        exact ((splitAt?_eq_none_iff held).mp found _ first.occurs).elim
    | some parts =>
        obtain ⟨left, right⟩ := parts
        have same := (isFirstFrom_of_splitAt? found).eq first
        have both := (eq_of_splitAt? found).symm.trans whole_eq
        rw [List.append_assoc, List.append_assoc] at both
        obtain ⟨rfl, behind⟩ := List.append_inj both same
        rw [List.append_cancel_left behind]

/-- A needle does not occur in a text that lacks one of its code points. -/
theorem splitAt?_eq_none_of_not_mem {point : CodePoint} (inNeedle : point ∈ needle)
    (absent : point ∉ whole) : splitAt? needle whole = none := by
  cases found : splitAt? needle whole with
  | none => rfl
  | some parts =>
      refine (absent ?_).elim
      rw [eq_of_splitAt? found]
      exact List.mem_append_left _ (List.mem_append_right _ inNeedle)

theorem not_isPrefixOf_of_splitAt? (found : splitAt? needle whole = some (before, after))
    (held : before ≠ []) : ¬ needle.isPrefixOf whole = true := by
  intro begins
  cases whole with
  | nil =>
      have needle_eq := List.prefix_nil.mp (List.isPrefixOf_iff_prefix.mp begins)
      rw [needle_eq] at found
      cases found
      exact held rfl
  | cons point rest =>
      simp only [splitAt?, begins, ↓reduceIte, Option.some.injEq, Prod.mk.injEq] at found
      exact held found.1.symm

/-- A needle is found in a text with another one behind it where it is found in the text. -/
theorem splitAt?_append_right (tail : Text) (held : needle ≠ [])
    (found : splitAt? needle whole = some (before, after)) :
    splitAt? needle (whole ++ tail) = some (before, after ++ tail) := by
  obtain ⟨first, whole_eq⟩ := (splitAt?_eq_some_iff held).mp found
  have fits := first.occurs.add_length_le held
  refine (splitAt?_eq_some_iff held).mpr ⟨⟨Nat.zero_le _, ?_, ?_⟩, ?_⟩
  · unfold OccursAt
    rw [List.drop_append_of_le_length (Nat.le_of_add_right_le fits)]
    exact List.IsPrefix.trans first.occurs (List.prefix_append _ _)
  · intro earlier _ below occurs
    refine first.absent earlier (Nat.zero_le _) below ?_
    unfold OccursAt at occurs
    rw [List.drop_append_of_le_length (by omega)] at occurs
    refine List.prefix_of_prefix_length_le occurs (List.prefix_append _ _) ?_
    rw [List.length_drop]
    omega
  · rw [whole_eq, List.append_assoc]

/-- A needle that does not begin in a text is found where it is found behind the text. -/
theorem splitAt?_append_left
    (absent : ∀ place < before.length, ¬ OccursAt needle (before ++ whole) place) :
    splitAt? needle (before ++ whole) =
      (splitAt? needle whole).map fun parts => (before ++ parts.1, parts.2) := by
  induction before with
  | nil =>
      rw [List.nil_append]
      cases splitAt? needle whole <;> rfl
  | cons point before ih =>
      have differs : ¬ needle.isPrefixOf (point :: (before ++ whole)) = true := fun begins =>
        absent 0 (Nat.succ_pos _) (List.isPrefixOf_iff_prefix.mp begins)
      have later := ih fun place below occurs => absent (place + 1) (Nat.succ_lt_succ below) occurs
      rw [List.cons_append, splitAt?, if_neg differs, later, Option.map_map]
      rfl

/-- A pair of different code points is found behind a text in which it does not occur. -/
theorem splitAt?_append_pair {first second : CodePoint} (differs : first ≠ second)
    (absent : splitAt? [first, second] before = none) :
    splitAt? [first, second] (before ++ ([first, second] ++ after)) = some (before, after) := by
  induction before with
  | nil => simp [splitAt?]
  | cons point rest ih =>
      rw [splitAt?] at absent
      split at absent
      · cases absent
      next noPrefix =>
        rw [Option.map_eq_none_iff] at absent
        have stays : ¬ [first, second].isPrefixOf (point :: (rest ++ ([first, second] ++ after))) =
            true := by
          cases rest with
          | nil => simp [differs.symm]
          | cons next others => simpa using noPrefix
        rw [List.cons_append, splitAt?, if_neg stays, ih absent]
        rfl

/-- The part of a text from a start to a stop; there is none when the stop comes first. -/
def slice (whole : Text) (start stop : Nat) : Text := (whole.drop start).take (stop - start)

theorem length_slice {stop : Nat} (within : stop ≤ whole.length) :
    (whole.slice start stop).length = stop - start := by
  unfold slice
  rw [List.length_take, List.length_drop]
  omega

theorem slice_append_drop {stop : Nat} (behind : start ≤ stop) :
    whole.slice start stop ++ whole.drop stop = whole.drop start := by
  unfold slice
  have split := List.take_append_drop (stop - start) (whole.drop start)
  rwa [List.drop_drop, Nat.add_sub_cancel' behind] at split

theorem OccursAt.drop_eq (occurs : OccursAt needle whole place) :
    whole.drop place = needle ++ whole.drop (place + needle.length) := by
  obtain ⟨tail, split⟩ := occurs
  rw [← List.drop_drop, ← split, List.drop_left]

/-- Splitting the text behind a start cuts at the first occurrence from there on. -/
theorem IsFirstFrom.splitAt?_drop (held : needle ≠ [])
    (first : IsFirstFrom needle whole start place) :
    splitAt? needle (whole.drop start) =
      some (whole.slice start place, whole.drop (place + needle.length)) := by
  have within := first.occurs.add_length_le held
  rw [splitAt?_eq_some_iff held, length_slice (Nat.le_of_add_right_le within)]
  constructor
  · rw [isFirstFrom_drop, Nat.add_sub_cancel' first.start_le]
    exact first
  · rw [List.append_assoc, ← first.occurs.drop_eq, slice_append_drop first.start_le]

/-- The text behind a start cannot be split when the needle occurs nowhere from there on. -/
theorem splitAt?_drop_eq_none_iff (held : needle ≠ []) :
    splitAt? needle (whole.drop start) = none ↔
      ∀ place, start ≤ place → ¬ OccursAt needle whole place := by
  rw [splitAt?_eq_none_iff held]
  constructor
  · intro absent place behind occurs
    obtain ⟨distance, rfl⟩ := Nat.exists_eq_add_of_le behind
    exact absent distance (occursAt_drop.mpr occurs)
  · intro absent place occurs
    exact absent (start + place) (Nat.le_add_right start place) (occursAt_drop.mp occurs)

/-- What splitting the text behind a start finds is the first occurrence from there on. -/
theorem isFirstFrom_of_splitAt?_drop
    (found : splitAt? needle (whole.drop start) = some (before, after)) :
    IsFirstFrom needle whole start (start + before.length) ∧
      after = whole.drop (start + before.length + needle.length) := by
  have first := isFirstFrom_drop.mp (isFirstFrom_of_splitAt? found)
  refine ⟨first, ?_⟩
  have split := eq_of_splitAt? found
  rw [Nat.add_assoc, ← List.drop_drop, split, List.drop_append_of_le_length (by simp)]
  simp

/-- An occurrence inside a part is an occurrence in the text that ends within the part. -/
theorem exists_occursAt_of_infix_slice {stop : Nat} (within : stop ≤ whole.length)
    (held : needle ≠ []) (inside : needle <:+: whole.slice start stop) :
    ∃ place, start ≤ place ∧ place < stop ∧ OccursAt needle whole place := by
  obtain ⟨left, right, split⟩ := inside
  have positive := List.length_pos_iff.mpr held
  have lengths := congrArg List.length split
  simp only [List.length_append, length_slice within] at lengths
  refine ⟨start + left.length, Nat.le_add_right _ _, by omega, occursAt_drop.mp ?_⟩
  have starts : needle <+: (whole.slice start stop).drop left.length := by
    rw [← split, List.append_assoc, List.drop_left]
    exact List.prefix_append needle right
  unfold slice at starts
  rw [List.drop_take] at starts
  exact starts.trans (List.take_prefix _ _)

end Stencil.Text
