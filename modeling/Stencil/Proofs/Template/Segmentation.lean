import Mathlib.Data.List.Chain
import Stencil.Proofs.Text.Occurrence
import Stencil.Template.Fault

/-! # Segmentation of a text into tokens

Independently of the scanner, a text divides into spans: a span that begins with the opening
marker ends behind the first closing marker at or after its own start, and any other span
runs up to the next opening marker or to the end of the text (`Stencil.SpanEnds`). A
segmentation is a chain of such spans through the whole text, none of them empty
(`Stencil.Segmented`). The tokens of a text are the tokens of its only segmentation, and a
text without one is refused (`Stencil.tokenize_exact`).
-/

namespace Stencil

open Text

variable {markers : Markers} {whole : Text} {start stop : Nat}

/-- A span that begins at a start ends at a stop. -/
inductive SpanEnds (markers : Markers) (whole : Text) (start : Nat) : Nat → Prop
  | directive {place : Nat} (begins : OccursAt markers.opening whole start)
      (closes : IsFirstFrom markers.closing whole start place) :
      SpanEnds markers whole start (place + markers.closing.length)
  | run {place : Nat} (differs : ¬ OccursAt markers.opening whole start)
      (opens : IsFirstFrom markers.opening whole start place) :
      SpanEnds markers whole start place
  | last (absent : ∀ place, start ≤ place → ¬ OccursAt markers.opening whole place) :
      SpanEnds markers whole start whole.length

/-- Consecutive spans, none of them empty, lead from a start to the end of a text. -/
inductive Segmented (markers : Markers) (whole : Text) : Nat → List (Nat × Nat) → Prop
  | done : Segmented markers whole whole.length []
  | span {start stop : Nat} {spans : List (Nat × Nat)} (nonempty : start < stop)
      (ends : SpanEnds markers whole start stop) (rest : Segmented markers whole stop spans) :
      Segmented markers whole start ((start, stop) :: spans)

/-- The token of a span: a span that does not begin with the opening marker is literal text,
and what stands between the markers of a directive decides what the directive is. -/
def spanToken (markers : Markers) (whole : Text) (span : Nat × Nat) : Token :=
  let between :=
    whole.slice (span.1 + markers.opening.length) (span.2 - markers.closing.length)
  if markers.opening.isPrefixOf (whole.drop span.1) then
    if markers.descriptor.isPrefixOf between then
      ⟨.expression, strip (between.drop markers.descriptor.length), span.1⟩
    else ⟨.control, between, span.1⟩
  else ⟨.literal, whole.slice span.1 span.2, span.1⟩

/-- Of two tokens not both are literal text. -/
def Token.NotBothLiteral (before behind : Token) : Prop :=
  ¬ (before.kind = .literal ∧ behind.kind = .literal)

/-- A span that is not empty ends within the text. -/
theorem SpanEnds.le_length (ends : SpanEnds markers whole start stop) :
    stop ≤ whole.length := by
  cases ends with
  | directive begins closes => exact closes.occurs.add_length_le markers.closing_ok.1
  | run differs opens =>
      exact Nat.le_of_add_right_le (opens.occurs.add_length_le markers.opening_ok.1)
  | last absent => exact Nat.le_refl _

theorem SpanEnds.eq {other : Nat} (ends : SpanEnds markers whole start stop)
    (again : SpanEnds markers whole start other) : stop = other := by
  cases ends with
  | directive begins closes =>
      cases again with
      | directive _ closesAgain => rw [closes.eq closesAgain]
      | run differs _ => exact (differs begins).elim
      | last absent => exact (absent start (Nat.le_refl _) begins).elim
  | run differs opens =>
      cases again with
      | directive begins _ => exact (differs begins).elim
      | run _ opensAgain => exact opens.eq opensAgain
      | last absent => exact (absent _ opens.start_le opens.occurs).elim
  | last absent =>
      cases again with
      | directive begins _ => exact (absent start (Nat.le_refl _) begins).elim
      | run _ opens => exact (absent _ opens.start_le opens.occurs).elim
      | last _ => rfl

/-- There is only one segmentation. -/
theorem Segmented.eq {left right : List (Nat × Nat)}
    (segmented : Segmented markers whole start left)
    (again : Segmented markers whole start right) : left = right := by
  induction segmented generalizing right with
  | done =>
      cases again with
      | done => rfl
      | span nonempty ends _ =>
          exact absurd (Nat.lt_of_lt_of_le nonempty ends.le_length) (Nat.lt_irrefl _)
  | span nonempty ends _ ih =>
      cases again with
      | done => exact absurd (Nat.lt_of_lt_of_le nonempty ends.le_length) (Nat.lt_irrefl _)
      | span _ endsAgain restAgain =>
          cases ends.eq endsAgain
          rw [ih restAgain]

namespace Token

variable {rest span after : Text} {offset : Nat}

@[simp] theorem scanFrom_nil : scanFrom markers offset [] = .ok [] := by
  rw [scanFrom]
  exact if_pos rfl

theorem ne_nil_of_opening (begins : markers.opening.isPrefixOf rest = true) : rest ≠ [] := by
  rintro rfl
  exact markers.opening_ok.1 (List.prefix_nil.mp (List.isPrefixOf_iff_prefix.mp begins))

/-- Where a token stands in front of what a scan finds, the scan has found the tokens behind it. -/
theorem exists_of_map_cons {token : Token} {found : Except Nat (List Token)} {tokens : List Token}
    (scanned : found.map (token :: ·) = .ok tokens) :
    ∃ others, found = .ok others ∧ tokens = token :: others := by
  cases found with
  | error place => cases scanned
  | ok others => exact ⟨others, rfl, (Except.ok.inj scanned).symm⟩

/-- A directive that is never closed ends the scan. -/
theorem scanFrom_unterminated (begins : markers.opening.isPrefixOf rest = true)
    (found : splitAt? markers.closing rest = none) :
    scanFrom markers offset rest = .error offset := by
  rw [scanFrom]
  simp only [ne_nil_of_opening begins, ↓reduceIte, begins, ↓reduceDIte]
  split
  · rfl
  · next closed => rw [found] at closed; cases closed

/-- A directive is followed by the tokens behind its closing marker. -/
theorem scanFrom_directive (begins : markers.opening.isPrefixOf rest = true)
    (found : splitAt? markers.closing rest = some (span, after)) :
    scanFrom markers offset rest =
      (scanFrom markers (offset + span.length + markers.closing.length) after).map
        (directiveAt markers offset (span.drop markers.opening.length) :: ·) := by
  rw [scanFrom]
  simp only [ne_nil_of_opening begins, ↓reduceIte, begins, ↓reduceDIte]
  split
  · next unclosed => rw [found] at unclosed; cases unclosed
  · next closed =>
      rw [found] at closed
      cases closed
      cases scanFrom markers (offset + span.length + markers.closing.length) after <;> rfl

theorem scanFrom_last (nonempty : rest ≠ [])
    (found : splitAt? markers.opening rest = none) :
    scanFrom markers offset rest = .ok [literalAt offset rest] := by
  have differs : ¬ markers.opening.isPrefixOf rest = true := fun begins =>
    (splitAt?_eq_none_iff markers.opening_ok.1).mp found 0 (List.isPrefixOf_iff_prefix.mp begins)
  rw [scanFrom]
  simp only [nonempty, ↓reduceIte, differs, Bool.false_eq_true, ↓reduceDIte]
  split
  · rfl
  · next opened => rw [found] at opened; cases opened

/-- Literal text is followed by the tokens from the next opening marker on. -/
theorem scanFrom_run (differs : ¬ markers.opening.isPrefixOf rest = true)
    (found : splitAt? markers.opening rest = some (span, after)) :
    scanFrom markers offset rest =
      (scanFrom markers (offset + span.length) (markers.opening ++ after)).map
        (literalAt offset span :: ·) := by
  have nonempty : rest ≠ [] := by
    rintro rfl
    have whole_eq := congrArg List.length (eq_of_splitAt? found)
    have positive := List.length_pos_iff.mpr markers.opening_ok.1
    simp only [List.length_nil, List.length_append] at whole_eq
    omega
  rw [scanFrom]
  simp only [nonempty, ↓reduceIte, differs, Bool.false_eq_true, ↓reduceDIte]
  split
  · next unopened => rw [found] at unopened; cases unopened
  · next opened =>
      rw [found] at opened
      cases opened
      cases scanFrom markers (offset + span.length) (markers.opening ++ after) <;> rfl

end Token

/-- The token of a directive's span is the directive of what stands between its markers. -/
theorem spanToken_directive {place : Nat} (begins : OccursAt markers.opening whole start) :
    spanToken markers whole (start, place + markers.closing.length) =
      Token.directiveAt markers start
        ((whole.slice start place).drop markers.opening.length) := by
  have between : (whole.slice start place).drop markers.opening.length =
      whole.slice (start + markers.opening.length) place := by
    unfold slice
    rw [List.drop_take, List.drop_drop, Nat.sub_sub]
  unfold spanToken Token.directiveAt
  simp only [List.isPrefixOf_iff_prefix.mpr begins, ↓reduceIte, Nat.add_sub_cancel, between]

theorem spanToken_literal (differs : ¬ OccursAt markers.opening whole start) :
    spanToken markers whole (start, stop) = Token.literalAt start (whole.slice start stop) := by
  have other : markers.opening.isPrefixOf (whole.drop start) = false :=
    Bool.eq_false_iff.mpr fun begins => differs (List.isPrefixOf_iff_prefix.mp begins)
  unfold spanToken Token.literalAt
  simp only [other, Bool.false_eq_true, ↓reduceIte]

/-- The scanner finds the tokens of a segmentation. -/
theorem Segmented.scanFrom_eq {spans : List (Nat × Nat)}
    (segmented : Segmented markers whole start spans) :
    Token.scanFrom markers start (whole.drop start) =
      .ok (spans.map (spanToken markers whole)) := by
  induction segmented with
  | done =>
      rw [List.drop_length]
      exact Token.scanFrom_nil
  | @span start stop spans nonempty ends rest ih =>
      rw [List.map_cons]
      cases ends with
      | @directive place begins closes =>
          rw [Token.scanFrom_directive (List.isPrefixOf_iff_prefix.mpr begins)
              (closes.splitAt?_drop markers.closing_ok.1), spanToken_directive begins,
            length_slice (Nat.le_of_add_right_le
              (closes.occurs.add_length_le markers.closing_ok.1)),
            Nat.add_sub_cancel' closes.start_le, ih]
          rfl
      | run differs opens =>
          rw [Token.scanFrom_run (fun begins => differs (List.isPrefixOf_iff_prefix.mp begins))
              (opens.splitAt?_drop markers.opening_ok.1), spanToken_literal differs,
            length_slice (Nat.le_of_add_right_le
              (opens.occurs.add_length_le markers.opening_ok.1)),
            Nat.add_sub_cancel' opens.start_le, ← opens.occurs.drop_eq, ih]
          rfl
      | last absent =>
          have remaining : whole.drop start ≠ [] := by
            intro empty
            exact absurd nonempty (Nat.not_lt_of_le (List.drop_eq_nil_iff.mp empty))
          cases rest with
          | done =>
              rw [Token.scanFrom_last remaining
                  ((splitAt?_drop_eq_none_iff markers.opening_ok.1).mpr absent),
                spanToken_literal (absent start (Nat.le_refl _))]
              unfold slice
              rw [List.take_of_length_le (List.length_drop ▸ Nat.le_refl _)]
              rfl
          | span further endsFurther _ =>
              exact absurd (Nat.lt_of_lt_of_le further endsFurther.le_length) (Nat.lt_irrefl _)

/-- A text that is scanned has a segmentation. -/
theorem exists_segmented (start : Nat) (within : start ≤ whole.length) {tokens : List Token}
    (scanned : Token.scanFrom markers start (whole.drop start) = .ok tokens) :
    ∃ spans, Segmented markers whole start spans := by
  by_cases finished : start = whole.length
  · exact ⟨[], finished ▸ .done⟩
  have remaining : start < whole.length := Nat.lt_of_le_of_ne within finished
  by_cases begins : OccursAt markers.opening whole start
  · have beginsHere := List.isPrefixOf_iff_prefix.mpr begins
    cases found : splitAt? markers.closing (whole.drop start) with
    | none =>
        rw [Token.scanFrom_unterminated beginsHere found] at scanned
        cases scanned
    | some parts =>
        obtain ⟨span, after⟩ := parts
        obtain ⟨closes, rfl⟩ := isFirstFrom_of_splitAt?_drop found
        have positive := List.length_pos_iff.mpr markers.closing_ok.1
        rw [Token.scanFrom_directive beginsHere found] at scanned
        obtain ⟨others, later, -⟩ := Token.exists_of_map_cons scanned
        obtain ⟨spans, rest⟩ := exists_segmented _
          (closes.occurs.add_length_le markers.closing_ok.1) later
        -- The closing marker is not empty, so the span is not, even where it ends inside the opening one.
        exact ⟨_, .span (by omega) (.directive begins closes) rest⟩
  · cases found : splitAt? markers.opening (whole.drop start) with
    | none =>
        exact ⟨_, .span remaining
          (.last ((splitAt?_drop_eq_none_iff markers.opening_ok.1).mp found)) .done⟩
    | some parts =>
        obtain ⟨span, after⟩ := parts
        obtain ⟨opens, rfl⟩ := isFirstFrom_of_splitAt?_drop found
        have nonempty : start < start + span.length := by
          refine Nat.lt_of_le_of_ne (Nat.le_add_right _ _) ?_
          intro same
          exact begins (same ▸ opens.occurs)
        have differs : ¬ markers.opening.isPrefixOf (whole.drop start) = true := fun starts =>
          begins (List.isPrefixOf_iff_prefix.mp starts)
        rw [Token.scanFrom_run differs found, ← opens.occurs.drop_eq] at scanned
        obtain ⟨others, later, -⟩ := Token.exists_of_map_cons scanned
        obtain ⟨spans, rest⟩ := exists_segmented _
          (Nat.le_of_add_right_le (opens.occurs.add_length_le markers.opening_ok.1)) later
        exact ⟨_, .span nonempty (.run begins opens) rest⟩
termination_by whole.length - start

/-- A span that begins with the opening marker is not literal text. -/
theorem spanToken_kind_ne (begins : OccursAt markers.opening whole start) :
    (spanToken markers whole (start, stop)).kind ≠ .literal := by
  unfold spanToken
  simp only [List.isPrefixOf_iff_prefix.mpr begins, ↓reduceIte]
  split <;> exact TokenKind.noConfusion

/-- Literal text is never followed by literal text. -/
theorem Segmented.isChain_notBothLiteral {spans : List (Nat × Nat)}
    (segmented : Segmented markers whole start spans) :
    (spans.map (spanToken markers whole)).IsChain Token.NotBothLiteral := by
  induction segmented with
  | done => exact .nil
  | @span start stop spans nonempty ends rest ih =>
      cases rest with
      | done => exact .singleton _
      | @span _ next others further endsNext _ =>
          rw [List.map_cons, List.map_cons, List.isChain_cons_cons]
          refine ⟨?_, ih⟩
          rintro ⟨literal, literalNext⟩
          cases ends with
          | directive begins _ => exact spanToken_kind_ne begins literal
          | run _ opens => exact spanToken_kind_ne opens.occurs literalNext
          | last _ =>
              exact absurd (Nat.lt_of_lt_of_le further endsNext.le_length) (Nat.lt_irrefl _)

/-- No opening marker stands inside literal text. -/
theorem Segmented.not_infix_of_literal {spans : List (Nat × Nat)}
    (segmented : Segmented markers whole start spans) {token : Token}
    (member : token ∈ spans.map (spanToken markers whole)) (literal : token.kind = .literal) :
    ¬ markers.opening <:+: token.content := by
  induction segmented with
  | done => exact (List.not_mem_nil member).elim
  | @span start stop spans nonempty ends rest ih =>
      rw [List.map_cons, List.mem_cons] at member
      rcases member with rfl | later
      · have free : ∀ place, start ≤ place → place < stop →
            ¬ OccursAt markers.opening whole place := by
          cases ends with
          | directive begins _ => exact (spanToken_kind_ne begins literal).elim
          | run _ opens => exact opens.absent
          | last absent => exact fun place behind _ => absent place behind
        rw [spanToken_literal (free start (Nat.le_refl _) nonempty)]
        intro inside
        obtain ⟨place, behind, before, occurs⟩ :=
          exists_occursAt_of_infix_slice ends.le_length markers.opening_ok.1 inside
        exact free place behind before occurs
      · exact ih later

/-- **Exact tokenization.** A text is cut into tokens exactly when it has a segmentation. The
segmentation is then the only one, the tokens are those of its spans, literal text is never
followed by literal text, and no opening marker stands inside literal text. Every other text
is refused for a directive that is never closed. -/
theorem tokenize_exact (markers : Markers) (name : Option Text) (whole : Text) :
    ((∃ tokens, tokenize markers name whole = .ok tokens) ↔
        ∃ spans, Segmented markers whole 0 spans) ∧
      (∀ left right, Segmented markers whole 0 left → Segmented markers whole 0 right →
        left = right) ∧
      (∀ spans, Segmented markers whole 0 spans →
        tokenize markers name whole = .ok (spans.map (spanToken markers whole)) ∧
          (spans.map (spanToken markers whole)).IsChain Token.NotBothLiteral ∧
          ∀ token ∈ spans.map (spanToken markers whole), token.kind = .literal →
            ¬ markers.opening <:+: token.content) ∧
      ((¬ ∃ spans, Segmented markers whole 0 spans) →
        ∃ fault : Unterminated, tokenize markers name whole = .error fault) := by
  have found : ∀ spans, Segmented markers whole 0 spans →
      tokenize markers name whole = .ok (spans.map (spanToken markers whole)) := by
    intro spans segmented
    have scanned := segmented.scanFrom_eq
    rw [List.drop_zero] at scanned
    unfold tokenize Token.scan
    rw [scanned]
    rfl
  have segmentedOf : ∀ tokens, tokenize markers name whole = .ok tokens →
      ∃ spans, Segmented markers whole 0 spans := by
    intro tokens tokenized
    unfold tokenize Token.scan at tokenized
    cases scanned : Token.scanFrom markers 0 whole with
    | error offset => rw [scanned] at tokenized; cases tokenized
    | ok tokens => exact exists_segmented 0 (Nat.zero_le _) (by rwa [List.drop_zero])
  refine ⟨⟨fun ⟨tokens, tokenized⟩ => segmentedOf tokens tokenized,
      fun ⟨spans, segmented⟩ => ⟨_, found spans segmented⟩⟩,
    fun left right segmented again => segmented.eq again, ?_, ?_⟩
  · intro spans segmented
    exact ⟨found spans segmented, segmented.isChain_notBothLiteral,
      fun token member literal => segmented.not_infix_of_literal member literal⟩
  · intro absent
    cases tokenized : tokenize markers name whole with
    | error fault => exact ⟨fault, rfl⟩
    | ok tokens => exact (absent (segmentedOf tokens tokenized)).elim

/-- Markers that overlap: the closing marker is the end of the opening one. -/
def overlappingMarkers : Markers where
  opening := text "ab"
  closing := text "b"
  descriptor := text "="
  opening_ok := by decide
  closing_ok := by decide
  descriptor_ok := Markers.standard.descriptor_ok

/-- With overlapping markers a directive ends inside its opening marker, and what follows is
literal text. -/
theorem tokenize_exact_overlapping :
    Segmented overlappingMarkers (text "xabb") 0 [(0, 1), (1, 3), (3, 4)] ∧
      tokenize overlappingMarkers none (text "xabb") =
        .ok [⟨.literal, text "x", 0⟩, ⟨.control, [], 1⟩, ⟨.literal, text "b", 3⟩] := by
  have opens : IsFirstFrom overlappingMarkers.opening (text "xabb") 0 1 := by
    refine ⟨by decide, by decide, ?_⟩
    intro earlier _ before
    obtain rfl : earlier = 0 := by omega
    decide
  have closes : IsFirstFrom overlappingMarkers.closing (text "xabb") 1 2 := by
    refine ⟨by decide, by decide, ?_⟩
    intro earlier behind before
    obtain rfl : earlier = 1 := by omega
    decide
  have absent : ∀ place, 3 ≤ place →
      ¬ OccursAt overlappingMarkers.opening (text "xabb") place := by
    intro place behind occurs
    have fits : place + 2 ≤ 4 := occurs.add_length_le overlappingMarkers.opening_ok.1
    omega
  have segmented : Segmented overlappingMarkers (text "xabb") 0 [(0, 1), (1, 3), (3, 4)] :=
    .span (by decide) (.run (by decide) opens)
      (.span (by decide) (.directive (by decide) closes) (.span (by decide) (.last absent) .done))
  exact ⟨segmented,
    ((tokenize_exact overlappingMarkers none (text "xabb")).2.2.1 _ segmented).1⟩

end Stencil
