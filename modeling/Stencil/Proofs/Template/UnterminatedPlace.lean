import Stencil.Proofs.Template.NormalScan
import Stencil.Proofs.Text.Lines

/-! # The place of an unterminated directive

Scanning a text stops at an opening marker that no closing marker follows, behind consecutive spans
that have all ended (`Stencil.StopsAt`). The scanner stops at such a place and nowhere else
(`Stencil.Token.scan_eq_error_iff`). The directive is looked for in the normal form of a template,
and reported with the line and the column at which it stands in the template itself
(`Stencil.tokenize_unterminated_place`).
-/

namespace Stencil

open Text CodePoint

variable {markers : Markers} {name : Option Text} {whole raw before after : Text}
  {start place : Nat} {fault : Unterminated}

/-- Consecutive spans, none of them empty, lead from a start to a place of a text. -/
inductive Passes (markers : Markers) (whole : Text) : Nat → Nat → Prop
  | here {place : Nat} : Passes markers whole place place
  | span {start stop place : Nat} (nonempty : start < stop)
      (ends : SpanEnds markers whole start stop) (rest : Passes markers whole stop place) :
      Passes markers whole start place

/-- The scan of a text, from a start on, stops at a place. -/
structure StopsAt (markers : Markers) (whole : Text) (start place : Nat) : Prop where
  passes : Passes markers whole start place
  opens : OccursAt markers.opening whole place
  unclosed : ∀ later, place ≤ later → ¬ OccursAt markers.closing whole later

theorem Passes.le (passes : Passes markers whole start place) : start ≤ place := by
  induction passes with
  | here => exact Nat.le_refl _
  | span nonempty _ _ ih => exact Nat.le_trans (Nat.le_of_lt nonempty) ih

namespace Token

/-- Where the scan of a text stops, the scanner gives up. -/
theorem scanFrom_of_passes (passes : Passes markers whole start place)
    (opens : OccursAt markers.opening whole place)
    (unclosed : ∀ later, place ≤ later → ¬ OccursAt markers.closing whole later) :
    scanFrom markers start (whole.drop start) = .error place := by
  induction passes with
  | here =>
      exact scanFrom_unterminated (List.isPrefixOf_iff_prefix.mpr opens)
        ((splitAt?_drop_eq_none_iff markers.closing_ok.1).mpr unclosed)
  | @span start stop place nonempty ends rest ih =>
      cases ends with
      | directive begins closes =>
          rw [scanFrom_directive (List.isPrefixOf_iff_prefix.mpr begins)
              (closes.splitAt?_drop markers.closing_ok.1),
            length_slice (Nat.le_of_add_right_le
              (closes.occurs.add_length_le markers.closing_ok.1)),
            Nat.add_sub_cancel' closes.start_le, ih opens unclosed]
          rfl
      | run differs next =>
          rw [scanFrom_run (fun begins => differs (List.isPrefixOf_iff_prefix.mp begins))
              (next.splitAt?_drop markers.opening_ok.1),
            length_slice (Nat.le_of_add_right_le
              (next.occurs.add_length_le markers.opening_ok.1)),
            Nat.add_sub_cancel' next.start_le, ← next.occurs.drop_eq, ih opens unclosed]
          rfl
      -- Literal text to the end of the text has no opening marker behind it.
      | last absent => exact (absent _ ((Nat.le_of_lt nonempty).trans rest.le) opens).elim

/-- Where the scanner gives up, the scan of the text stops. -/
theorem stopsAt_of_scanFrom (start : Nat) (within : start ≤ whole.length)
    (scanned : scanFrom markers start (whole.drop start) = .error place) :
    StopsAt markers whole start place := by
  by_cases ended : whole.drop start = []
  · rw [ended, scanFrom_nil] at scanned
    cases scanned
  by_cases begins : OccursAt markers.opening whole start
  · have beginsHere := List.isPrefixOf_iff_prefix.mpr begins
    cases found : splitAt? markers.closing (whole.drop start) with
    | none =>
        rw [scanFrom_unterminated beginsHere found] at scanned
        cases scanned
        exact ⟨.here, begins, (splitAt?_drop_eq_none_iff markers.closing_ok.1).mp found⟩
    | some parts =>
        obtain ⟨span, after⟩ := parts
        obtain ⟨closes, rfl⟩ := isFirstFrom_of_splitAt?_drop found
        have positive := List.length_pos_iff.mpr markers.closing_ok.1
        have fits := closes.occurs.add_length_le markers.closing_ok.1
        rw [scanFrom_directive beginsHere found] at scanned
        cases later : scanFrom markers (start + span.length + markers.closing.length)
            (whole.drop (start + span.length + markers.closing.length)) with
        | ok tokens => rw [later] at scanned; cases scanned
        | error stop =>
            rw [later] at scanned
            cases scanned
            have stops := stopsAt_of_scanFrom _ fits later
            exact ⟨.span (by omega) (.directive begins closes) stops.passes, stops.opens,
              stops.unclosed⟩
  · have differs : ¬ markers.opening.isPrefixOf (whole.drop start) = true := fun starts =>
      begins (List.isPrefixOf_iff_prefix.mp starts)
    cases found : splitAt? markers.opening (whole.drop start) with
    | none =>
        rw [scanFrom_last ended found] at scanned
        cases scanned
    | some parts =>
        obtain ⟨span, after⟩ := parts
        obtain ⟨opens, rfl⟩ := isFirstFrom_of_splitAt?_drop found
        have fits := opens.occurs.add_length_le markers.opening_ok.1
        have nonempty : start < start + span.length := by
          refine Nat.lt_of_le_of_ne (Nat.le_add_right _ _) fun same => ?_
          exact begins (same ▸ opens.occurs)
        rw [scanFrom_run differs found, ← opens.occurs.drop_eq] at scanned
        cases later : scanFrom markers (start + span.length)
            (whole.drop (start + span.length)) with
        | ok tokens => rw [later] at scanned; cases scanned
        | error stop =>
            rw [later] at scanned
            cases scanned
            have stops := stopsAt_of_scanFrom _ (Nat.le_of_add_right_le fits) later
            exact ⟨.span nonempty (.run begins opens) stops.passes, stops.opens, stops.unclosed⟩
termination_by whole.length - start

/-- **The scanner gives up where the scan of the text stops**, and nowhere else. -/
theorem scan_eq_error_iff : scan markers whole = .error place ↔ StopsAt markers whole 0 place := by
  have scanned := @scanFrom_of_passes markers whole 0 place
  rw [List.drop_zero] at scanned
  constructor
  · intro refused
    exact stopsAt_of_scanFrom 0 (Nat.zero_le _) (by rwa [List.drop_zero])
  · intro stops
    exact scanned stops.passes stops.opens stops.unclosed

end Token

theorem Text.IsMarker.lineFeed_notMem {marker : Text} (held : marker.IsMarker) :
    lineFeed ∉ marker := by
  intro member
  have escaped : marker.any isEscaped = true := List.any_eq_true.mpr ⟨lineFeed, member, rfl⟩
  exact Bool.noConfusion (held.2.symm.trans escaped)

/-- What begins with a marker begins with no line feed. -/
theorem Text.IsMarker.exists_head? {marker : Text} (held : marker.IsMarker)
    (begins : marker <+: after) : ∃ first, after.head? = some first ∧ first ≠ lineFeed := by
  obtain ⟨first, others, rfl⟩ := List.exists_cons_of_ne_nil held.1
  obtain ⟨rest, rfl⟩ := begins
  refine ⟨first, rfl, ?_⟩
  rintro rfl
  exact held.lineFeed_notMem List.mem_cons_self

/-- A marker stands on one line. -/
theorem Text.IsMarker.prefix_takeWhile {marker : Text} (held : marker.IsMarker)
    (begins : marker <+: after) : marker <+: after.takeWhile (· ≠ lineFeed) := by
  obtain ⟨rest, rfl⟩ := begins
  rw [List.takeWhile_append_of_pos (ne_lineFeed_of_not_mem held.lineFeed_notMem)]
  exact List.prefix_append _ _

/-- The place that stands for the end of a part of the text is reported with the line and the column
at which the part ends. -/
theorem Unterminated.ofOffset_normalize :
    ofOffset markers name (normalize (before ++ after)) (normalize before).length =
      ⟨markers.closing, some (before.count lineFeed + 1), name, some (before ++ after),
        some (openLine before).length⟩ := by
  unfold ofOffset openLine List.rtakeWhile
  rw [normalize_append, List.take_left, ← normalize_append, restore_normalize, restore_normalize,
    List.length_reverse]

/-- What is reported of a template that is refused belongs to the place at which the scan of the
template stops. -/
theorem exists_stopsAt_of_tokenize (openingFree : ¬ markers.opening.BeginsLikeEscape)
    (closingFree : ¬ markers.closing.BeginsLikeEscape)
    (refused : tokenize markers name (normalize raw) = .error fault) :
    ∃ before after, raw = before ++ after ∧ StopsAt markers raw 0 before.length ∧
      markers.opening <+: after ∧
      fault = ⟨markers.closing, some (before.count lineFeed + 1), name, some raw,
        some (openLine before).length⟩ := by
  have twins := scanTwins_scanFrom openingFree closingFree raw 0
  rw [List.take_zero, List.drop_zero, normalize_nil, List.length_nil] at twins
  unfold tokenize Token.scan at refused
  generalize Token.scanFrom markers 0 (normalize raw) = scannedNormal at twins refused
  generalize scanned : Token.scanFrom markers 0 raw = scannedPlain at twins
  cases twins with
  | ok twins => cases refused
  | error place =>
      have stops := Token.scan_eq_error_iff.mp scanned
      have within : place ≤ raw.length :=
        Nat.le_of_add_right_le (stops.opens.add_length_le markers.opening_ok.1)
      refine ⟨raw.take place, raw.drop place, (List.take_append_drop place raw).symm, ?_,
        stops.opens, ?_⟩
      · rwa [List.length_take_of_le within]
      · have reported := @Unterminated.ofOffset_normalize markers name (raw.take place)
          (raw.drop place)
        rw [List.take_append_drop] at reported
        rw [← reported]
        exact (Except.error.inj refused).symm

/-- **The place of an unterminated directive is exact.** When neither marker begins like the second
half of a pair, a template that is refused is reported as it is, with the name it was given and with
a line and a column of it. There stands the opening marker at which the scan of the template stops:
every span in front of it has ended, and no closing marker follows it. -/
theorem tokenize_unterminated_place (markers : Markers) (name : Option Text) (raw : Text)
    (openingFree : ¬ markers.opening.BeginsLikeEscape)
    (closingFree : ¬ markers.closing.BeginsLikeEscape) {fault : Unterminated}
    (refused : tokenize markers name (normalize raw) = .error fault) :
    fault.place.source = some raw ∧ fault.place.name = name ∧
      ∃ line column place : Nat, ∃ content,
        fault.place.line = some (line + 1) ∧ fault.place.column = some column ∧
        LiesAt raw place line column content ∧ OccursAt markers.opening content column ∧
        StopsAt markers raw 0 place := by
  obtain ⟨before, after, rfl, stops, begins, rfl⟩ :=
    exists_stopsAt_of_tokenize openingFree closingFree refused
  obtain ⟨first, isFirst, notFeed⟩ := markers.opening_ok.exists_head? begins
  refine ⟨rfl, rfl, _, _, _, _, rfl, rfl, liesAt_append isFirst notFeed, ?_, stops⟩
  unfold OccursAt
  rw [List.drop_left]
  exact markers.opening_ok.prefix_takeWhile begins

/-- A directive on the third line, behind a backslash, two ways to end a line and a directive that is
closed. -/
theorem tokenize_unterminated_place_third_line :
    tokenize .standard (some (text "t")) (normalize (text "\\\r\n<% a %>\nb <% c")) =
        .error ⟨text "%>", some 3, some (text "t"), some (text "\\\r\n<% a %>\nb <% c"), some 2⟩ ∧
      LiesAt (text "\\\r\n<% a %>\nb <% c") 13 2 2 (text "b <% c") ∧
      StopsAt .standard (text "\\\r\n<% a %>\nb <% c") 0 13 := by
  have refused : tokenize .standard (some (text "t")) (normalize (text "\\\r\n<% a %>\nb <% c")) =
      .error ⟨text "%>", some 3, some (text "t"), some (text "\\\r\n<% a %>\nb <% c"), some 2⟩ := by
    cbv
  obtain ⟨-, -, line, column, place, content, isLine, isColumn, lies, -, stops⟩ :=
    tokenize_unterminated_place .standard _ _ (by decide) (by decide) refused
  have lineIs : (3 : Int) = line + 1 := Option.some.inj isLine
  have columnIs : (2 : Int) = column := Option.some.inj isColumn
  obtain rfl : line = 2 := by omega
  obtain rfl : column = 2 := by omega
  obtain rfl : place = 13 := lies.place_eq
  obtain rfl : content = text "b <% c" := Option.some.inj lies.isLine.symm
  exact ⟨refused, lies, stops⟩

end Stencil
