import Mathlib.Data.List.Forall2
import Stencil.Proofs.Template.Segmentation
import Stencil.Proofs.Text.Strip

/-! # Scanning the normal form

Templates are scanned in their normal form, and the offsets and contents of the tokens belong
to it. As long as no marker begins inside a pair, scanning the raw text finds the same tokens
at the places that stand for the same code points (`Stencil.tokenize_normalize`). So the pieces of
a template that do not run into each other are its tokens, one by one
(`Stencil.Piece.exists_tokenize`).
-/

namespace Stencil

open Text

variable {markers : Markers} {raw rest span after left right : Text} {start : Nat}

/-- A token of the normal form and the token of the raw text that it stands for: they have the
same kind and start at the same code point, and the raw content in normal form is the content
of literal text and of statements, while expressions agree once the pairs have been read. -/
structure NormalTwin (raw : Text) (normal plain : Token) : Prop where
  kind_eq : normal.kind = plain.kind
  offset_eq : normal.offset = (normalize (raw.take plain.offset)).length
  content_eq : plain.kind ≠ .expression → normal.content = normalize plain.content
  /-- An expression is the raw one once its pairs have been read. -/
  expression_eq : plain.kind = .expression → strip (restore normal.content) = plain.content

/-- Two scans end alike: both with tokens that stand for each other or both at the same
unterminated directive. -/
inductive ScanTwins (raw : Text) :
    Except Nat (List Token) → Except Nat (List Token) → Prop
  | error (offset : Nat) :
      ScanTwins raw (.error (normalize (raw.take offset)).length) (.error offset)
  | ok {normal plain : List Token} (twins : List.Forall₂ (NormalTwin raw) normal plain) :
      ScanTwins raw (.ok normal) (.ok plain)

theorem ScanTwins.map_cons {normal plain : Except Nat (List Token)} {first second : Token}
    (twin : NormalTwin raw first second) (twins : ScanTwins raw normal plain) :
    ScanTwins raw (normal.map (first :: ·)) (plain.map (second :: ·)) := by
  cases twins with
  | error offset => exact .error offset
  | ok twins => exact .ok (.cons twin twins)

theorem take_drop_of_drop_eq (split : raw.drop start = left ++ right) :
    raw.take (start + left.length) = raw.take start ++ left ∧
      raw.drop (start + left.length) = right := by
  constructor
  · rw [List.take_add, split, List.take_left]
  · rw [← List.drop_drop, split, List.drop_left]

/-- The normal place of the end of a part is behind the normal form of the part. -/
theorem length_normalize_take_add (split : raw.drop start = left ++ right) :
    (normalize (raw.take (start + left.length))).length =
      (normalize (raw.take start)).length + (normalize left).length := by
  rw [(take_drop_of_drop_eq split).1, normalize_append, List.length_append]

/-- What is behind the opening marker of a directive in normal form is the normal form of what
is behind it, also when the closing marker ends it inside the opening one. -/
theorem drop_normalize_of_opening (begins : markers.opening.isPrefixOf rest = true)
    (found : splitAt? markers.closing rest = some (span, after)) :
    (normalize span).drop markers.opening.length =
      normalize (span.drop markers.opening.length) := by
  have spanPrefix : span <+: rest := by
    rw [eq_of_splitAt? found, List.append_assoc]
    exact List.prefix_append _ _
  rcases List.prefix_or_prefix_of_prefix (List.isPrefixOf_iff_prefix.mp begins)
    spanPrefix with ⟨body, rfl⟩ | inside
  · rw [normalize_append, normalize_of_not_escaped markers.opening_ok.2, List.drop_left,
      List.drop_left]
  · have plain : span.any CodePoint.isEscaped = false := by
      obtain ⟨others, whole⟩ := inside
      have openingPlain := markers.opening_ok.2
      rw [← whole, List.any_append, Bool.or_eq_false_iff] at openingPlain
      exact openingPlain.1
    rw [normalize_of_not_escaped plain, List.drop_eq_nil_of_le inside.length_le]
    rfl

/-- Literal text in normal form stands for the literal text. -/
theorem normalTwin_literalAt : NormalTwin raw
    (.literalAt (normalize (raw.take start)).length (normalize span)) (.literalAt start span) where
  kind_eq := rfl
  offset_eq := rfl
  content_eq _ := rfl
  expression_eq isExpression := nomatch isExpression

theorem normalTwin_directiveAt {body : Text} : NormalTwin raw
    (.directiveAt markers (normalize (raw.take start)).length (normalize body))
    (.directiveAt markers start body) := by
  unfold Token.directiveAt
  rw [isPrefixOf_normalize markers.descriptor_ok.2]
  by_cases described : markers.descriptor.isPrefixOf body = true
  · obtain ⟨source, rfl⟩ := List.isPrefixOf_iff_prefix.mp described
    rw [if_pos described, if_pos described, normalize_append,
      normalize_of_not_escaped markers.descriptor_ok.2, List.drop_left, List.drop_left]
    exact ⟨rfl, rfl, fun other => (other rfl).elim, fun _ => strip_restore_strip_normalize⟩
  · rw [if_neg described, if_neg described]
    exact ⟨rfl, rfl, fun _ => rfl, fun isExpression => nomatch isExpression⟩

/-- From corresponding places on, scanning the normal form and scanning the raw text end
alike. -/
theorem scanTwins_scanFrom (openingFree : ¬ markers.opening.BeginsLikeEscape)
    (closingFree : ¬ markers.closing.BeginsLikeEscape) (raw : Text) (start : Nat) :
    ScanTwins raw
      (Token.scanFrom markers (normalize (raw.take start)).length (normalize (raw.drop start)))
      (Token.scanFrom markers start (raw.drop start)) := by
  by_cases ended : raw.drop start = []
  · rw [ended, normalize_nil, Token.scanFrom_nil, Token.scanFrom_nil]
    exact .ok .nil
  by_cases begins : markers.opening.isPrefixOf (raw.drop start) = true
  -- A directive: both scans look for the closing marker from the start of the opening one.
  · have beginsNormal := begins
    rw [← isPrefixOf_normalize markers.opening_ok.2] at beginsNormal
    have foundNormal := splitAt?_normalize markers.closing_ok closingFree (raw.drop start)
    cases found : splitAt? markers.closing (raw.drop start) with
    | none =>
        rw [found] at foundNormal
        rw [Token.scanFrom_unterminated begins found,
          Token.scanFrom_unterminated beginsNormal foundNormal]
        exact .error start
    | some parts =>
        obtain ⟨span, after⟩ := parts
        rw [found] at foundNormal
        have split := eq_of_splitAt? found
        have advances := length_splitAt?_lt markers.closing_ok.1 found
        have further := scanTwins_scanFrom openingFree closingFree raw
          (start + (span ++ markers.closing).length)
        rw [length_normalize_take_add split, (take_drop_of_drop_eq split).2, normalize_append,
          normalize_of_not_escaped markers.closing_ok.2, List.length_append,
          List.length_append, ← Nat.add_assoc, ← Nat.add_assoc] at further
        rw [Token.scanFrom_directive begins found,
          Token.scanFrom_directive beginsNormal foundNormal,
          drop_normalize_of_opening begins found]
        exact further.map_cons normalTwin_directiveAt
  -- Literal text: both scans look for the next opening marker.
  · have differsNormal := begins
    rw [← isPrefixOf_normalize markers.opening_ok.2] at differsNormal
    have foundNormal := splitAt?_normalize markers.opening_ok openingFree (raw.drop start)
    cases found : splitAt? markers.opening (raw.drop start) with
    | none =>
        rw [found] at foundNormal
        have endedNormal : normalize (raw.drop start) ≠ [] := by
          intro empty
          have restored : restore (normalize (raw.drop start)) = raw.drop start :=
            restore_normalize
          rw [empty] at restored
          exact ended restored.symm
        rw [Token.scanFrom_last ended found, Token.scanFrom_last endedNormal foundNormal]
        exact .ok (.cons normalTwin_literalAt .nil)
    | some parts =>
        obtain ⟨span, after⟩ := parts
        rw [found] at foundNormal
        have split := eq_of_splitAt? found
        rw [List.append_assoc] at split
        have advances := List.length_pos_iff.mpr
          (before_ne_nil_of_splitAt? (Bool.eq_false_iff.mpr begins) found)
        have further := scanTwins_scanFrom openingFree closingFree raw (start + span.length)
        rw [length_normalize_take_add split, (take_drop_of_drop_eq split).2, normalize_append,
          normalize_of_not_escaped markers.opening_ok.2] at further
        rw [Token.scanFrom_run begins found, Token.scanFrom_run differsNormal foundNormal]
        exact further.map_cons normalTwin_literalAt
termination_by raw.length - start
decreasing_by
  all_goals
    have remains := List.length_pos_iff.mpr ended
    rw [List.length_drop] at remains
  · have positive := List.length_pos_iff.mpr markers.closing_ok.1
    rw [List.length_append]
    omega
  · omega

/-- **Normalization commutes with scanning.** When neither the opening nor the closing marker
begins like the second half of a pair, the normal form of a text is refused exactly when the
text itself is, and otherwise the tokens of the two stand for each other one by one. -/
theorem tokenize_normalize (markers : Markers) (name : Option Text) (raw : Text)
    (openingFree : ¬ markers.opening.BeginsLikeEscape)
    (closingFree : ¬ markers.closing.BeginsLikeEscape) :
    ((∃ fault, tokenize markers name (normalize raw) = .error fault) ↔
      ∃ fault, tokenize markers name raw = .error fault) ∧
    ∀ normal plain, tokenize markers name (normalize raw) = .ok normal →
      tokenize markers name raw = .ok plain → List.Forall₂ (NormalTwin raw) normal plain := by
  have twins := scanTwins_scanFrom openingFree closingFree raw 0
  rw [List.take_zero, List.drop_zero, normalize_nil, List.length_nil] at twins
  unfold tokenize Token.scan
  generalize Token.scanFrom markers 0 (normalize raw) = scannedNormal at twins
  generalize Token.scanFrom markers 0 raw = scannedPlain at twins
  cases twins with
  | error offset =>
      refine ⟨⟨fun _ => ⟨_, rfl⟩, fun _ => ⟨_, rfl⟩⟩, ?_⟩
      intro normal plain tokenized
      cases tokenized
  | ok twins =>
      refine ⟨⟨?_, ?_⟩, ?_⟩
      · rintro ⟨fault, refused⟩
        cases refused
      · rintro ⟨fault, refused⟩
        cases refused
      intro normal plain tokenizedNormal tokenizedPlain
      cases tokenizedNormal
      cases tokenizedPlain
      exact twins

/-- Literal text and a directive behind it at the end of a text are the two tokens of it. -/
theorem tokenize_run_directive {name : Option Text} {whole : Text} (span after body : Text)
    (differs : ¬ markers.opening.isPrefixOf whole = true)
    (begins : markers.opening.isPrefixOf (markers.opening ++ after) = true)
    (opened : splitAt? markers.opening whole = some (span, after))
    (closed : splitAt? markers.closing (markers.opening ++ after) = some (body, [])) :
    tokenize markers name whole = .ok [.literalAt 0 span,
      .directiveAt markers span.length (body.drop markers.opening.length)] := by
  unfold tokenize Token.scan
  rw [Token.scanFrom_run differs opened, Token.scanFrom_directive begins closed,
    Token.scanFrom_nil, Nat.zero_add]
  rfl

/-- A line break stands in literal text and in an expression. -/
theorem tokenize_normalize_lines :
    ¬ Markers.standard.opening.BeginsLikeEscape ∧ ¬ Markers.standard.closing.BeginsLikeEscape ∧
      List.Forall₂ (NormalTwin (text "\n<%=\nx%>"))
        [⟨.literal, text "\\n", 0⟩, ⟨.expression, text "\\nx", 2⟩]
        [⟨.literal, text "\n", 0⟩, ⟨.expression, text "x", 1⟩] := by
  have openingFree : ¬ Markers.standard.opening.BeginsLikeEscape := by decide
  have closingFree : ¬ Markers.standard.closing.BeginsLikeEscape := by decide
  have scannedNormal : tokenize .standard none (normalize (text "\n<%=\nx%>")) =
      .ok [.literalAt 0 (text "\\n"), .directiveAt .standard 2 (text "=\\nx")] :=
    tokenize_run_directive (text "\\n") (text "=\\nx%>") (text "<%=\\nx") (by decide) (by decide)
      (by decide) (by decide)
  have scannedPlain : tokenize .standard none (text "\n<%=\nx%>") =
      .ok [.literalAt 0 (text "\n"), .directiveAt .standard 1 (text "=\nx")] :=
    tokenize_run_directive (text "\n") (text "=\nx%>") (text "<%=\nx") (by decide) (by decide)
      (by decide) (by decide)
  have twins := (tokenize_normalize .standard none _ openingFree closingFree).2 _ _
    scannedNormal scannedPlain
  have directiveNormal : Token.directiveAt .standard 2 (text "=\\nx") =
      ⟨.expression, text "\\nx", 2⟩ := by decide
  have directivePlain : Token.directiveAt .standard 1 (text "=\nx") =
      ⟨.expression, text "x", 1⟩ := by decide
  rw [directiveNormal, directivePlain] at twins
  exact ⟨openingFree, closingFree, twins⟩

/-- A piece of a template: literal text, or the text of a directive between its markers. -/
inductive Piece where
  | literal (content : Text)
  | directive (body : Text)

namespace Piece

/-- A piece as it stands in a template with the usual markers. -/
def source : Piece → Text
  | .literal content => content
  | .directive body => Markers.standard.opening ++ (body ++ Markers.standard.closing)

/-- The piece is literal text. -/
def isLiteral : Piece → Bool
  | .literal _ => true
  | .directive _ => false

/-- The token of a piece at an offset. -/
def token (offset : Nat) : Piece → Token
  | .literal content => .literalAt offset content
  | .directive body => .directiveAt .standard offset body

/-- Literal text holds something but no opening marker, and a directive holds no closing marker. -/
def IsPlain : Piece → Prop
  | .literal content => content ≠ [] ∧ splitAt? Markers.standard.opening content = none
  | .directive body => splitAt? Markers.standard.closing (Markers.standard.opening ++ body) = none

instance : (piece : Piece) → Decidable piece.IsPlain
  | .literal _ => inferInstanceAs (Decidable (_ ∧ _))
  | .directive _ => inferInstanceAs (Decidable (_ = _))

variable {pieces : List Piece}

/-- The pieces of a template, none of which runs into the next one, are its tokens. -/
theorem exists_scanFrom (offset : Nat) (plain : ∀ piece ∈ pieces, piece.IsPlain)
    (apart : pieces.IsChain fun before after =>
      ¬(before.isLiteral = true ∧ after.isLiteral = true)) :
    ∃ tokens, Token.scanFrom .standard offset (pieces.flatMap source) = .ok tokens ∧
      List.Forall₂ (fun piece token => ∃ place, token = piece.token place) pieces tokens := by
  induction pieces generalizing offset with
  | nil => exact ⟨[], Token.scanFrom_nil, .nil⟩
  | cons piece rest ih =>
      obtain ⟨held, plainRest⟩ := List.forall_mem_cons.mp plain
      have apartRest := apart.tail
      cases piece with
      | directive body =>
          have closed : splitAt? Markers.standard.closing
              ((Piece.directive body :: rest).flatMap source) =
                some (Markers.standard.opening ++ body, rest.flatMap source) := by
            rw [List.flatMap_cons, source, ← List.append_assoc,
              List.append_assoc _ Markers.standard.closing]
            exact splitAt?_append_pair (by decide) held
          have begins : Markers.standard.opening.isPrefixOf
              ((Piece.directive body :: rest).flatMap source) = true := by
            rw [List.flatMap_cons, source, List.append_assoc]
            exact List.isPrefixOf_iff_prefix.mpr (List.prefix_append _ _)
          obtain ⟨tokens, scanned, spelled⟩ := ih (offset + (Markers.standard.opening ++
            body).length + Markers.standard.closing.length) plainRest apartRest
          refine ⟨.directiveAt .standard offset body :: tokens, ?_, .cons ⟨offset, rfl⟩ spelled⟩
          rw [Token.scanFrom_directive begins closed, scanned, List.drop_left]
          rfl
      | literal content =>
          obtain ⟨nonempty, absent⟩ := held
          cases rest with
          | nil =>
              refine ⟨[.literalAt offset content], ?_, .cons ⟨offset, rfl⟩ .nil⟩
              rw [List.flatMap_singleton]
              exact Token.scanFrom_last nonempty absent
          | cons next others =>
              cases next with
              | literal other =>
                  rw [List.isChain_cons_cons] at apart
                  exact (apart.1 ⟨rfl, rfl⟩).elim
              | directive body =>
                  obtain ⟨tokens, scanned, spelled⟩ :=
                    ih (offset + content.length) plainRest apartRest
                  refine ⟨.literalAt offset content :: tokens, ?_, .cons ⟨offset, rfl⟩ spelled⟩
                  rw [List.flatMap_cons, source] at scanned
                  rw [List.flatMap_cons, List.flatMap_cons, source, source]
                  rw [List.append_assoc Markers.standard.opening] at scanned ⊢
                  have found : splitAt? Markers.standard.opening (content ++
                      (Markers.standard.opening ++ (body ++ Markers.standard.closing ++
                        others.flatMap source))) = some (content,
                          body ++ Markers.standard.closing ++ others.flatMap source) :=
                    splitAt?_append_pair (by decide) absent
                  rw [Token.scanFrom_run (not_isPrefixOf_of_splitAt? found nonempty) found, scanned]
                  rfl

/-- **The pieces of a template are the tokens of its normal form.** -/
theorem exists_tokenize (plain : ∀ piece ∈ pieces, piece.IsPlain)
    (apart : pieces.IsChain fun before after =>
      ¬(before.isLiteral = true ∧ after.isLiteral = true)) (name : Option Text) :
    ∃ tokens, tokenize .standard name (normalize (pieces.flatMap source)) = .ok tokens ∧
      List.Forall₂ (fun piece token => ∃ place,
        NormalTwin (pieces.flatMap source) token (piece.token place)) pieces tokens := by
  obtain ⟨tokens, scanned, spelled⟩ := exists_scanFrom 0 plain apart
  have openingFree : ¬ Markers.standard.opening.BeginsLikeEscape := by decide
  have closingFree : ¬ Markers.standard.closing.BeginsLikeEscape := by decide
  have twins := scanTwins_scanFrom openingFree closingFree (pieces.flatMap source) 0
  rw [List.take_zero, List.drop_zero, normalize_nil, List.length_nil, scanned] at twins
  generalize found : Token.scanFrom .standard 0 (normalize (pieces.flatMap source)) = result
    at twins
  cases twins with
  | @ok normal _ twins =>
      refine ⟨normal, ?_, ?_⟩
      · rw [tokenize, Token.scan, found]
        rfl
      · clear plain apart found scanned
        generalize pieces.flatMap source = raw at twins
        induction spelled generalizing normal with
        | nil =>
            cases twins
            exact .nil
        | cons first _ ih =>
            obtain ⟨place, rfl⟩ := first
            cases twins with
            | cons twin others => exact .cons ⟨place, twin⟩ (ih others)

/-- The piece is a directive that shows a value. -/
def isExpression : Piece → Bool
  | .literal _ => false
  | .directive body => Markers.standard.descriptor.isPrefixOf body

/-- The token of literal text or of a statement in the normal form. -/
def normalToken (offset : Nat) : Piece → Token
  | .literal content => ⟨.literal, normalize content, offset⟩
  | .directive body => ⟨.control, normalize body, offset⟩

/-- The token of a statement has the text between its markers, in normal form. -/
theorem eq_normalToken_of_twin {raw : Text} {piece : Piece} {token : Token} {place : Nat}
    (statement : piece.isExpression = false) (twin : NormalTwin raw token (piece.token place)) :
    token = piece.normalToken token.offset := by
  obtain ⟨kind, written, offset⟩ := token
  obtain ⟨kind_eq, -, content_eq, -⟩ := twin
  cases piece with
  | literal content =>
      dsimp only [Piece.token, Token.literalAt] at kind_eq content_eq
      rw [kind_eq, content_eq nofun]
      rfl
  | directive body =>
      have isStatement : (directive body).token place = ⟨.control, body, place⟩ :=
        if_neg (Bool.eq_false_iff.mp statement)
      rw [isStatement] at kind_eq content_eq
      dsimp only at kind_eq content_eq
      rw [kind_eq, content_eq nofun]
      rfl

/-- Literal text and statements are the tokens of the normal form with their texts. -/
theorem exists_tokenize_statements (plain : ∀ piece ∈ pieces, piece.IsPlain)
    (apart : pieces.IsChain fun before after =>
      ¬(before.isLiteral = true ∧ after.isLiteral = true))
    (statements : ∀ piece ∈ pieces, piece.isExpression = false) (name : Option Text) :
    ∃ tokens, tokenize .standard name (normalize (pieces.flatMap source)) = .ok tokens ∧
      List.Forall₂ (fun piece token => ∃ offset, token = piece.normalToken offset) pieces tokens := by
  obtain ⟨tokens, tokenized, twins⟩ := exists_tokenize plain apart name
  refine ⟨tokens, tokenized, ?_⟩
  clear plain apart tokenized
  generalize pieces.flatMap source = raw at twins
  induction twins with
  | nil => exact .nil
  | cons first _ ih =>
      obtain ⟨statement, others⟩ := List.forall_mem_cons.mp statements
      obtain ⟨_, twin⟩ := first
      exact .cons ⟨_, eq_normalToken_of_twin statement twin⟩ (ih others)

end Piece

end Stencil
