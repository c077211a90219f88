import Mathlib.Algebra.GroupWithZero.Nat
import Mathlib.Data.List.DropRight
import Stencil.Text.Lines

/-! # Parts, lines and places of a text

A text is cut at one code point, or at any line break. Both ways of cutting go on behind a cut
(`Stencil.Text.splitOn_append_cons`, `Stencil.Text.splitLines_append`), so that what stands on the
two sides of it can be told apart. Where the lines of a text have all ended, there are as many of
them as line feeds just when line feeds are all that ends them
(`Stencil.Text.length_splitLines_eq_iff`).

A place of a text lies in a column of a line (`Stencil.Text.LiesAt`), both numbered from zero: the
line feeds in front of the place give the number of the line, and what stands behind the last of
them gives the column (`Stencil.Text.liesAt_append`). Where every line break in front of the place
is a line feed, or the carriage return in front of one, the line has the same number among the lines
that end at any line break (`Stencil.Text.getElem?_splitLines_count`); otherwise this is the number
of a line that has ended before (`Stencil.Text.exists_getElem?_splitLines_count`).
-/

namespace Stencil.Text

open CodePoint

variable {separator point stop : CodePoint} {whole front rest ending line : Text}
  {test : CodePoint → Bool}

theorem exists_splitOn (separator : CodePoint) (whole : Text) :
    ∃ part parts, splitOn separator whole = part :: parts := by
  cases whole with
  | nil => exact ⟨_, _, rfl⟩
  | cons point rest =>
      rw [splitOn]
      split
      · exact ⟨_, _, rfl⟩
      · split <;> exact ⟨_, _, rfl⟩

/-- A text is what stands between its separators, with these between the parts. -/
theorem join_splitOn (separator : CodePoint) (whole : Text) :
    join [separator] (splitOn separator whole) = whole := by
  induction whole with
  | nil => rfl
  | cons point rest ih =>
      obtain ⟨part, parts, split⟩ := exists_splitOn separator rest
      rw [splitOn]
      rw [split] at ih ⊢
      split
      · subst point
        exact congrArg (separator :: ·) ih
      · cases parts with
        | nil => exact congrArg (point :: ·) ih
        | cons next parts => exact congrArg (point :: ·) ih

/-- A text without a separator is its own only part. -/
theorem splitOn_of_not_mem (absent : separator ∉ whole) : splitOn separator whole = [whole] := by
  induction whole with
  | nil => rfl
  | cons point rest ih =>
      have differs : point ≠ separator := fun same => absent (same ▸ List.mem_cons_self)
      rw [splitOn, if_neg differs, ih fun member => absent (List.mem_cons_of_mem _ member)]

/-- **The parts of a text are those on the two sides of a separator.** -/
theorem splitOn_append_cons (separator : CodePoint) (front rest : Text) :
    splitOn separator (front ++ separator :: rest) =
      splitOn separator front ++ splitOn separator rest := by
  induction front with
  | nil => simp [splitOn]
  | cons point front ih =>
      obtain ⟨part, parts, split⟩ := exists_splitOn separator front
      rw [List.cons_append, splitOn, splitOn, ih, split]
      split <;> rfl

/-- Texts with a separator between them are cut one by one. -/
theorem splitOn_join {parts : List Text} (held : parts ≠ []) :
    splitOn separator (join [separator] parts) = parts.flatMap (splitOn separator) := by
  induction parts with
  | nil => exact (held rfl).elim
  | cons part parts ih =>
      cases parts with
      | nil => rw [join, List.flatMap_singleton]
      | cons next parts =>
          rw [join.eq_3 _ _ _ (List.cons_ne_nil _ _), List.append_assoc, List.singleton_append,
            splitOn_append_cons, ih (List.cons_ne_nil _ _)]
          rfl

/-- There is one part more than there are separators. -/
theorem length_splitOn : (splitOn separator whole).length = whole.count separator + 1 := by
  induction whole with
  | nil => rfl
  | cons point rest ih =>
      obtain ⟨part, parts, split⟩ := exists_splitOn separator rest
      rw [split] at ih
      rw [splitOn, split, List.count_cons]
      by_cases same : point = separator
      · simpa [same] using ih
      · simpa [same] using ih

/-- The first part reaches up to the first separator. -/
theorem head?_splitOn :
    (splitOn separator whole).head? = some (whole.takeWhile (· ≠ separator)) := by
  induction whole with
  | nil => rfl
  | cons point rest ih =>
      obtain ⟨part, parts, split⟩ := exists_splitOn separator rest
      rw [split, List.head?_cons, Option.some.injEq] at ih
      rw [splitOn, split, List.takeWhile_cons]
      by_cases same : point = separator <;> simp [same, ih]

/-- A text holds nothing that passes a test, or it ends behind the last point that does. -/
theorem exists_last (test : CodePoint → Bool) (whole : Text) :
    (∀ point ∈ whole, test point = false) ∨ ∃ front stop ending,
      whole = front ++ stop :: ending ∧ test stop = true ∧ ∀ point ∈ ending, test point = false := by
  induction whole with
  | nil => simp
  | cons point rest ih =>
      rcases ih with none | ⟨front, stop, ending, rfl, passes, none⟩
      · cases isStop : test point with
        | false => exact .inl (List.forall_mem_cons.mpr ⟨isStop, none⟩)
        | true => exact .inr ⟨[], point, rest, rfl, isStop, none⟩
      · exact .inr ⟨point :: front, stop, ending, rfl, passes, none⟩

/-- What stands behind the last point that fails a test. -/
theorem rtakeWhile_append_cons (fails : test stop = false)
    (passes : ∀ point ∈ ending, test point = true) :
    (front ++ stop :: ending).rtakeWhile test = ending := by
  unfold List.rtakeWhile
  rw [List.reverse_append, List.reverse_cons, List.append_assoc, List.singleton_append,
    List.takeWhile_append_of_pos fun point member => passes point (List.mem_reverse.mp member),
    List.takeWhile_cons_of_neg (by simp [fails]), List.append_nil, List.reverse_reverse]

/-- No line of a text has a line break in it. -/
theorem not_isLineBreak_of_mem_splitLines (isLine : line ∈ splitLines whole)
    (member : point ∈ line) : point.isLineBreak = false := by
  fun_induction splitLines whole generalizing line with
  | case1 => cases isLine
  | case2 rest ih =>
      rcases List.mem_cons.mp isLine with rfl | later
      · cases member
      · exact ih later member
  | case3 first rest noPair breaks ih =>
      rcases List.mem_cons.mp isLine with rfl | later
      · cases member
      · exact ih later member
  | case4 first rest noPair noBreak none ih =>
      rw [List.mem_singleton.mp isLine, List.mem_singleton] at member
      rw [member]
      exact Bool.eq_false_iff.mpr noBreak
  | case5 first rest noPair noBreak innermost lines found ih =>
      rw [found] at ih
      rcases List.mem_cons.mp isLine with rfl | later
      · rcases List.mem_cons.mp member with rfl | inside
        · exact Bool.eq_false_iff.mpr noBreak
        · exact ih List.mem_cons_self inside
      · exact ih (List.mem_cons_of_mem _ later) member

theorem splitLines_ne_nil (held : whole ≠ []) : splitLines whole ≠ [] := by
  fun_cases splitLines whole with
  | case1 => exact (held rfl).elim
  | _ => exact List.cons_ne_nil _ _

theorem eq_nil_of_splitLines (none : splitLines whole = []) : whole = [] := by
  by_contra held
  exact splitLines_ne_nil held none

theorem splitLines_of_plain (held : whole ≠ [])
    (plain : ∀ point ∈ whole, point.isLineBreak = false) : splitLines whole = [whole] := by
  induction whole with
  | nil => exact (held rfl).elim
  | cons point rest ih =>
      have plainPoint := plain point List.mem_cons_self
      have noReturn : point ≠ carriageReturn := by
        rintro rfl
        cases plainPoint
      rw [splitLines.eq_3 _ _ fun _ isReturn => (noReturn isReturn).elim, plainPoint]
      cases rest with
      | nil => rfl
      | cons next others =>
          rw [ih (List.cons_ne_nil _ _) fun other member => plain other
            (List.mem_cons_of_mem _ member)]
          rfl

/-- The first line reaches up to the first line break. -/
theorem head?_splitLines (held : whole ≠ []) :
    (splitLines whole).head? = some (whole.takeWhile fun point => !point.isLineBreak) := by
  fun_induction splitLines whole with
  | case1 => exact (held rfl).elim
  | case2 rest ih => rfl
  | case3 point rest noPair breaks ih => simp [breaks]
  | case4 point rest noPair noBreak none ih =>
      obtain rfl := eq_nil_of_splitLines none
      simp [noBreak]
  | case5 point rest noPair noBreak line lines found ih =>
      have others : rest ≠ [] := by
        rintro rfl
        cases found
      have first := ih others
      rw [found, List.head?_cons, Option.some.injEq] at first
      simp [noBreak, ← first]

/-- Every line of a text has ended. -/
def HasEnded (whole : Text) : Prop := ∀ last ∈ whole.getLast?, last.isLineBreak = true

theorem HasEnded.of_cons (ended : HasEnded (point :: rest)) : HasEnded rest := by
  intro last isLast
  apply ended
  rw [List.getLast?_cons, Option.mem_def.mp isLast]
  rfl

theorem hasEnded_concat (breaks : stop.isLineBreak = true) : HasEnded (front ++ [stop]) := by
  simp [HasEnded, breaks]

/-- **The lines of a text are those that have ended in its front and those of the rest**, unless a
carriage return is cut off from its line feed. -/
theorem splitLines_append (ended : HasEnded front) (apart : rest.head? ≠ some lineFeed) :
    splitLines (front ++ rest) = splitLines front ++ splitLines rest := by
  fun_induction splitLines front with
  | case1 => rfl
  | case2 front ih => exact congrArg ([] :: ·) (ih ended.of_cons.of_cons)
  | case3 point front noPair breaks ih =>
      have noPairBehind : ∀ others, point = carriageReturn → front ++ rest = lineFeed :: others →
          False := by
        intro others isReturn isFeed
        cases front with
        | nil =>
            apply apart
            rw [← List.nil_append rest, isFeed]
            rfl
        | cons next front =>
            rw [List.cons_append, List.cons.injEq] at isFeed
            exact noPair front isReturn (by rw [isFeed.1])
      rw [List.cons_append, splitLines.eq_3 _ _ noPairBehind, if_pos breaks, ih ended.of_cons]
      rfl
  | case4 point front noPair noBreak none ih =>
      obtain rfl := eq_nil_of_splitLines none
      exact (noBreak (ended point rfl)).elim
  | case5 point front noPair noBreak line lines found ih =>
      have noReturn : point ≠ carriageReturn := by
        rintro rfl
        exact noBreak rfl
      rw [List.cons_append, splitLines.eq_3 _ _ fun _ isReturn => (noReturn isReturn).elim,
        if_neg noBreak, ih ended.of_cons, found]
      rfl

/-- Every line break of a text is a line feed, or the carriage return in front of one. -/
def FeedsEndLines (whole : Text) : Prop :=
  ∀ point rest, point :: rest <:+ whole → point.isLineBreak = true →
    point = lineFeed ∨ point = carriageReturn ∧ rest.head? = some lineFeed

theorem feedsEndLines_nil : FeedsEndLines [] := by
  intro point rest isEnd
  cases List.suffix_nil.mp isEnd

theorem feedsEndLines_cons : FeedsEndLines (point :: rest) ↔
    (point.isLineBreak = true → point = lineFeed ∨
      point = carriageReturn ∧ rest.head? = some lineFeed) ∧ FeedsEndLines rest := by
  constructor
  · intro feeds
    exact ⟨feeds _ _ List.suffix_rfl,
      fun later behind isEnd => feeds _ _ (isEnd.trans (List.suffix_cons _ _))⟩
  · rintro ⟨first, feeds⟩ later behind isEnd
    rcases List.suffix_cons_iff.mp isEnd with same | isEnd
    · cases same
      exact first
    · exact feeds _ _ isEnd

/-- What holds no line break makes no difference. -/
theorem feedsEndLines_append (plain : ∀ point ∈ ending, point.isLineBreak = false) :
    FeedsEndLines (front ++ ending) ↔ FeedsEndLines front := by
  induction front with
  | nil =>
      refine ⟨fun _ => feedsEndLines_nil, fun _ point rest isEnd breaks => ?_⟩
      rw [plain point (isEnd.subset List.mem_cons_self)] at breaks
      cases breaks
  | cons point front ih =>
      have sameHead : (front ++ ending).head? = some lineFeed ↔ front.head? = some lineFeed := by
        cases front with
        | nil =>
            simp only [List.nil_append, List.head?_nil, reduceCtorEq, iff_false]
            intro isFeed
            cases plain lineFeed (List.mem_of_mem_head? isFeed)
        | cons next front => rfl
      rw [List.cons_append, feedsEndLines_cons, feedsEndLines_cons, ih, sameHead]

/-- At least each line feed ends a line, and where every line has ended nothing else does just when
every line break is a line feed or the carriage return in front of one. -/
theorem length_splitLines_eq_iff (ended : HasEnded whole) :
    whole.count lineFeed ≤ (splitLines whole).length ∧
      ((splitLines whole).length = whole.count lineFeed ↔ FeedsEndLines whole) := by
  fun_induction splitLines whole with
  | case1 => simp [feedsEndLines_nil]
  | case2 rest ih =>
      obtain ⟨atLeast, exact⟩ := ih ended.of_cons.of_cons
      rw [feedsEndLines_cons, feedsEndLines_cons, ← exact, List.count_cons_of_ne (by decide),
        List.count_cons_self, List.length_cons]
      simpa using atLeast
  | case3 point rest noPair breaks ih =>
      obtain ⟨atLeast, exact⟩ := ih ended.of_cons
      have noReturn : ¬ (point = carriageReturn ∧ rest.head? = some lineFeed) := by
        rintro ⟨isReturn, isFeed⟩
        obtain ⟨others, rfl⟩ := List.head?_eq_some_iff.mp isFeed
        exact noPair others isReturn rfl
      rw [feedsEndLines_cons, ← exact, List.count_cons, List.length_cons]
      by_cases isFeed : point = lineFeed
      · simpa [isFeed] using atLeast
      · simp only [isFeed, beq_iff_eq, ↓reduceIte, breaks, noReturn, or_self, forall_const,
          false_and, iff_false]
        omega
  | case4 point rest noPair noBreak none ih =>
      obtain rfl := eq_nil_of_splitLines none
      exact (noBreak (ended point rfl)).elim
  | case5 point rest noPair noBreak line lines found ih =>
      have noFeed : point ≠ lineFeed := by
        rintro rfl
        exact noBreak rfl
      have same := ih ended.of_cons
      rw [found] at same
      simpa [feedsEndLines_cons, noBreak, List.count_cons, noFeed] using same

variable {before after : Text}

/-- The place at which a line begins. -/
def lineStart (whole : Text) (line : Nat) : Nat :=
  (((splitOn lineFeed whole).take line).map fun content => content.length + 1).sum

/-- A place of a text lies in a column of a line. -/
structure LiesAt (whole : Text) (place line column : Nat) (content : Text) : Prop where
  isLine : (splitOn lineFeed whole)[line]? = some content
  place_eq : place = lineStart whole line + column
  within : column < content.length

/-- What stands on the line of the end of a text. -/
def openLine (before : Text) : Text := before.rtakeWhile (· ≠ lineFeed)

/-- Nothing in a text without a line feed ends a line. -/
theorem ne_lineFeed_of_not_mem (absent : lineFeed ∉ whole) :
    ∀ point ∈ whole, decide (point ≠ lineFeed) = true := by
  intro point member
  simpa using ne_of_mem_of_not_mem member absent

theorem openLine_of_not_mem (absent : lineFeed ∉ before) : openLine before = before :=
  List.rtakeWhile_eq_self_iff.mpr (ne_lineFeed_of_not_mem absent)

theorem openLine_append_cons (absent : lineFeed ∉ ending) :
    openLine (front ++ lineFeed :: ending) = ending :=
  rtakeWhile_append_cons rfl (ne_lineFeed_of_not_mem absent)

/-- A text holds no line feed, or it goes on behind its last one. -/
theorem exists_last_lineFeed (before : Text) : lineFeed ∉ before ∨
    ∃ front ending, before = front ++ lineFeed :: ending ∧ lineFeed ∉ ending := by
  rcases exists_last (· == lineFeed) before with none | ⟨front, stop, ending, rfl, isFeed, none⟩
  · exact .inl fun member => by simpa using none _ member
  · rw [beq_iff_eq] at isFeed
    subst isFeed
    exact .inr ⟨front, ending, rfl, fun member => by simpa using none _ member⟩

/-- The line that goes on behind the end of a text ends at the next line feed. -/
theorem head?_splitOn_append (absent : lineFeed ∉ ending) :
    (splitOn lineFeed (ending ++ after)).head? =
      some (ending ++ after.takeWhile (· ≠ lineFeed)) := by
  rw [head?_splitOn, List.takeWhile_append_of_pos (ne_lineFeed_of_not_mem absent)]

theorem sum_length_splitOn :
    ((splitOn lineFeed whole).map fun content => content.length + 1).sum = whole.length + 1 := by
  induction whole with
  | nil => rfl
  | cons point rest ih =>
      obtain ⟨part, parts, split⟩ := exists_splitOn lineFeed rest
      rw [split] at ih
      rw [splitOn, split]
      split
      · rw [List.map_cons, List.sum_cons, ih, List.length_cons, List.length_nil]
        omega
      · rw [List.map_cons, List.sum_cons] at ih ⊢
        simp only [List.length_cons]
        omega

/-- **The line feeds in front of a place number its line**, and what stands behind the last of them
gives the column. -/
theorem liesAt_append {first : CodePoint} (begins : after.head? = some first)
    (notFeed : first ≠ lineFeed) :
    LiesAt (before ++ after) before.length (before.count lineFeed) (openLine before).length
      (openLine before ++ after.takeWhile (· ≠ lineFeed)) := by
  obtain ⟨others, rfl⟩ := List.head?_eq_some_iff.mp begins
  have within : (openLine before).length <
      (openLine before ++ (first :: others).takeWhile (· ≠ lineFeed)).length := by
    rw [List.takeWhile_cons_of_pos (by simpa using notFeed)]
    simp
  rcases exists_last_lineFeed before with absent | ⟨front, ending, rfl, absent⟩
  · rw [openLine_of_not_mem absent] at within ⊢
    rw [List.count_eq_zero_of_not_mem absent]
    refine ⟨?_, ?_, within⟩
    · rw [← List.head?_eq_getElem?, head?_splitOn_append absent]
    · simp [lineStart]
  · rw [openLine_append_cons absent] at within ⊢
    have number : (front ++ lineFeed :: ending).count lineFeed = (splitOn lineFeed front).length := by
      simp [length_splitOn, List.count_eq_zero_of_not_mem absent]
    have split : splitOn lineFeed (front ++ lineFeed :: ending ++ first :: others) =
        splitOn lineFeed front ++ splitOn lineFeed (ending ++ first :: others) := by
      rw [List.append_assoc, List.cons_append, splitOn_append_cons]
    rw [number]
    refine ⟨?_, ?_, within⟩
    · rw [split, List.getElem?_append_right (Nat.le_refl _), Nat.sub_self, ← List.head?_eq_getElem?,
        head?_splitOn_append absent]
    · rw [lineStart, split, List.take_left, sum_length_splitOn]
      simp only [List.length_append, List.length_cons]
      omega

theorem lineFeed_notMem_of_plain (plain : ∀ point ∈ ending, point.isLineBreak = false) :
    lineFeed ∉ ending := fun member => nomatch plain lineFeed member

/-- What a text holds up to its first line break. -/
def beforeBreak (content : Text) : Text := content.takeWhile fun point => !point.isLineBreak

/-- A text is the lines that have ended in it, and what stands on the line of its end. -/
theorem exists_ended (before : Text) : ∃ front ending, before = front ++ ending ∧
    HasEnded front ∧ ∀ point ∈ ending, point.isLineBreak = false := by
  rcases exists_last isLineBreak before with plain | ⟨front, stop, ending, rfl, breaks, plain⟩
  · exact ⟨[], before, rfl, by simp [HasEnded], plain⟩
  · exact ⟨front ++ [stop], ending, by simp, hasEnded_concat breaks, plain⟩

variable {first : CodePoint}

/-- Behind the lines that have ended in front of a place, the line of the place goes on. -/
theorem splitLines_append_plain (begins : after.head? = some first) (notFeed : first ≠ lineFeed)
    (ended : HasEnded front) (plain : ∀ point ∈ ending, point.isLineBreak = false) :
    splitLines (front ++ ending ++ after) = splitLines front ++ splitLines (ending ++ after) := by
  rw [List.append_assoc]
  apply splitLines_append ended
  cases ending with
  | nil => simpa [begins] using notFeed
  | cons point ending =>
      intro isFeed
      exact lineFeed_notMem_of_plain plain (List.mem_of_mem_head? isFeed)

theorem count_append_plain (plain : ∀ point ∈ ending, point.isLineBreak = false) :
    (front ++ ending).count lineFeed = front.count lineFeed := by
  rw [List.count_append, List.count_eq_zero_of_not_mem (lineFeed_notMem_of_plain plain),
    Nat.add_zero]

/-- Where line feeds end all lines, the line of the end begins behind the last line break. -/
theorem openLine_append_plain (ended : HasEnded front) (feeds : FeedsEndLines front)
    (plain : ∀ point ∈ ending, point.isLineBreak = false) : openLine (front ++ ending) = ending := by
  have absent := lineFeed_notMem_of_plain plain
  rcases List.eq_nil_or_concat' front with rfl | ⟨front, last, rfl⟩
  · exact openLine_of_not_mem absent
  · have isBreak : last.isLineBreak = true := ended last (by simp)
    have isFeed : last = lineFeed := by
      simpa using feeds last [] (List.suffix_append front [last]) isBreak
    rw [isFeed, List.append_assoc, List.singleton_append, openLine_append_cons absent]

/-- Where line feeds end all lines, no line break stands on the line of the end. -/
theorem plain_openLine (feeds : FeedsEndLines before) :
    ∀ point ∈ openLine before, point.isLineBreak = false := by
  obtain ⟨front, ending, rfl, ended, plain⟩ := exists_ended before
  rwa [openLine_append_plain ended ((feedsEndLines_append plain).mp feeds) plain]

theorem beforeBreak_takeWhile : beforeBreak (after.takeWhile (· ≠ lineFeed)) = beforeBreak after := by
  unfold beforeBreak
  rw [List.takeWhile_takeWhile]
  congr 1
  funext point
  by_cases isFeed : point = lineFeed
  · subst isFeed
    rfl
  · simp [isFeed]

theorem beforeBreak_append (plain : ∀ point ∈ ending, point.isLineBreak = false) :
    beforeBreak (ending ++ after) = ending ++ beforeBreak after :=
  List.takeWhile_append_of_pos fun point member => by simpa using plain point member

/-- Where every line break in front of a place is a line feed or the carriage return in front of one,
the line of the place is the same with any line breaks, up to the first of them behind the place. -/
theorem getElem?_splitLines_count (begins : after.head? = some first) (notFeed : first ≠ lineFeed)
    (feeds : FeedsEndLines before) :
    (splitLines (before ++ after))[before.count lineFeed]? =
      some (beforeBreak (openLine before ++ after.takeWhile (· ≠ lineFeed))) := by
  obtain ⟨front, ending, rfl, ended, plain⟩ := exists_ended before
  have feedsFront := (feedsEndLines_append plain).mp feeds
  have held : ending ++ after ≠ [] := by
    obtain ⟨others, rfl⟩ := List.head?_eq_some_iff.mp begins
    simp
  rw [splitLines_append_plain begins notFeed ended plain, count_append_plain plain,
    ← (length_splitLines_eq_iff ended).2.mpr feedsFront,
    List.getElem?_append_right (Nat.le_refl _), Nat.sub_self, ← List.head?_eq_getElem?,
    head?_splitLines held, openLine_append_plain ended feedsFront plain, beforeBreak_append plain,
    beforeBreak_takeWhile, ← beforeBreak_append plain]
  rfl

/-- Where some other line break stands in front of a place, the number of its line is that of a line
that has ended before. -/
theorem exists_getElem?_splitLines_count (begins : after.head? = some first)
    (notFeed : first ≠ lineFeed) (others : ¬ FeedsEndLines before) :
    ∃ front shown, front <+: before ∧ HasEnded front ∧
      (splitLines front)[before.count lineFeed]? = some shown ∧
      (splitLines (before ++ after))[before.count lineFeed]? = some shown := by
  obtain ⟨front, ending, rfl, ended, plain⟩ := exists_ended before
  obtain ⟨atLeast, exact⟩ := length_splitLines_eq_iff ended
  have more : front.count lineFeed < (splitLines front).length := by
    refine Nat.lt_of_le_of_ne atLeast fun same => others ?_
    exact (feedsEndLines_append plain).mpr (exact.mp same.symm)
  refine ⟨front, (splitLines front)[front.count lineFeed], List.prefix_append _ _, ended, ?_, ?_⟩
  · rw [count_append_plain plain, List.getElem?_eq_getElem more]
  · rw [splitLines_append_plain begins notFeed ended plain, count_append_plain plain,
      List.getElem?_append_left more, List.getElem?_eq_getElem more]

end Stencil.Text
