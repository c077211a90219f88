import Stencil.Proofs.Template.LiteralPlaces
import Stencil.Proofs.Template.NormalScan

/-! # The seam between two texts

Two texts meet at a seam, and a marker may straddle it. Such a marker begins behind every marker that
ends in the text in front, so no search in that text finds another place
(`Stencil.Text.splitAt?_append_right`), and a text that ends with a directive is closed: what stands
behind it is scanned as it is by itself (`Stencil.Token.isClosed_of_scanFrom`). The tokens of the two
texts are then those of the first, and behind them those of the second, further on
(`Stencil.tokenize_append`).
-/

namespace Stencil

open Text

variable {markers : Markers} {name : Option Text} {offset place : Nat} {front rest whole : Text}
  {tokens others : List Token}

namespace Token

/-- A text with some tokens is closed: whatever stands behind it has the tokens that it has by itself. -/
def IsClosed (markers : Markers) (offset : Nat) (front : Text) (tokens : List Token) : Prop :=
  ∀ back, scanFrom markers offset (front ++ back) =
    (scanFrom markers (offset + front.length) back).map (tokens ++ ·)

/-- A token in front of a closed text leaves it closed. -/
theorem IsClosed.cons {token : Token} (isClosed : IsClosed markers place rest others)
    (ends : place + rest.length = offset + front.length)
    (scans : ∀ back, scanFrom markers offset (front ++ back) =
      (scanFrom markers place (rest ++ back)).map (token :: ·)) :
    IsClosed markers offset front (token :: others) := by
  intro back
  rw [scans, isClosed, ends]
  cases scanFrom markers (offset + front.length) back <;> rfl

/-- **A text is closed when no literal text is its last token.** -/
theorem isClosed_of_scanFrom (scanned : scanFrom markers offset front = .ok tokens)
    (directive : ∀ last ∈ tokens.getLast?, last.kind ≠ .literal) :
    IsClosed markers offset front tokens := by
  induction offset, front using scanFrom.induct markers generalizing tokens with
  | case1 offset =>
      rw [scanFrom_nil] at scanned
      cases scanned
      intro back
      cases found : scanFrom markers offset back <;> exact found
  | case2 offset front _ begins unclosed =>
      rw [scanFrom_unterminated begins unclosed] at scanned
      cases scanned
  | case3 offset front _ begins span after closed ih =>
      rw [scanFrom_directive begins closed] at scanned
      obtain ⟨others, later, rfl⟩ := exists_of_map_cons scanned
      have isClosed := ih later fun last isLast => directive last (List.mem_getLast?_cons isLast)
      have lengths := congrArg List.length (eq_of_splitAt? closed)
      simp only [List.length_append] at lengths
      refine isClosed.cons (by omega) fun back => ?_
      refine scanFrom_directive ?_ (splitAt?_append_right back markers.closing_ok.1 closed)
      exact List.isPrefixOf_iff_prefix.mpr
        ((List.isPrefixOf_iff_prefix.mp begins).trans (List.prefix_append _ _))
  | case4 offset front nonempty _ unopened =>
      -- Literal text without an opening marker behind it is the last token.
      rw [scanFrom_last nonempty unopened] at scanned
      cases scanned
      exact (directive _ rfl rfl).elim
  | case5 offset front _ differs run after opened ih =>
      rw [scanFrom_run differs opened] at scanned
      obtain ⟨others, later, rfl⟩ := exists_of_map_cons scanned
      have isClosed := ih later fun last isLast => directive last (List.mem_getLast?_cons isLast)
      have lengths := congrArg List.length (eq_of_splitAt? opened)
      simp only [List.length_append] at lengths
      refine isClosed.cons (by rw [List.length_append]; omega) fun back => ?_
      have held := before_ne_nil_of_splitAt? (Bool.eq_false_iff.mpr differs) opened
      have further := splitAt?_append_right back markers.opening_ok.1 opened
      rw [scanFrom_run (not_isPrefixOf_of_splitAt? further held) further, List.append_assoc]

/-- Behind a closed text, the tokens of another one, or its open directive, are found further on. -/
theorem IsClosed.scan_append (isClosed : IsClosed markers 0 front tokens) (back : Text) :
    scan markers (front ++ back) =
      ((scan markers back).map (tokens ++ ·.map (shift front.length))).mapError
        (· + front.length) := by
  unfold scan
  rw [isClosed, scanFrom_further]
  cases scanFrom markers 0 back <;> rfl

end Token

theorem tokenize_eq_ok_iff :
    tokenize markers name whole = .ok tokens ↔ Token.scan markers whole = .ok tokens := by
  unfold tokenize
  cases Token.scan markers whole <;> simp only [Except.mapError, reduceCtorEq, Except.ok.injEq]

/-- **Behind a directive another template may begin.** A text that is empty or ends with a directive
goes on with any other text: the whole falls into tokens exactly when the other text does, and its
tokens are then those of the first text, and behind them those of the other one, each as much further
on as the first text is long. -/
theorem tokenize_append (markers : Markers) (name : Option Text) {front : Text}
    {tokens : List Token} (tokenized : tokenize markers name front = .ok tokens)
    (ends : front = [] ∨ ∃ last, tokens.getLast? = some last ∧ last.kind ≠ .literal)
    (back : Text) :
    ((∃ found, tokenize markers name (front ++ back) = .ok found) ↔
        ∃ others, tokenize markers name back = .ok others) ∧
      ∀ others, tokenize markers name back = .ok others →
        tokenize markers name (front ++ back) =
          .ok (tokens ++ others.map (Token.shift front.length)) := by
  simp only [tokenize_eq_ok_iff] at tokenized ⊢
  have directive : ∀ last ∈ tokens.getLast?, last.kind ≠ .literal := by
    rcases ends with rfl | ⟨last, isLast, directive⟩
    · rw [Token.scan, Token.scanFrom_nil] at tokenized
      cases tokenized
      rintro _ ⟨⟩
    · rintro other isOther
      cases isLast.symm.trans isOther
      exact directive
  have scanned := (Token.isClosed_of_scanFrom tokenized directive).scan_append back
  rw [scanned]
  cases Token.scan markers back with
  | error place =>
      refine ⟨⟨?_, ?_⟩, ?_⟩
      · rintro ⟨_, ⟨⟩⟩
      · rintro ⟨_, ⟨⟩⟩
      · rintro _ ⟨⟩
  | ok others =>
      refine ⟨⟨fun _ => ⟨others, rfl⟩, fun _ => ⟨_, rfl⟩⟩, ?_⟩
      rintro _ ⟨⟩
      rfl

/-- Markers that are the same text. -/
def barMarkers : Markers where
  opening := text "||"
  closing := text "||"
  descriptor := text "="
  opening_ok := by decide
  closing_ok := by decide
  descriptor_ok := Markers.standard.descriptor_ok

/-- Two bars that straddle the seam are no marker. -/
theorem tokenize_append_straddling :
    tokenize barMarkers none (text "a||") = .ok [⟨.literal, text "a", 0⟩, ⟨.control, [], 1⟩] ∧
      tokenize barMarkers none (text "|b||") =
        .ok [⟨.literal, text "|b", 0⟩, ⟨.control, [], 2⟩] ∧
      tokenize barMarkers none (text "a||" ++ text "|b||") =
        .ok [⟨.literal, text "a", 0⟩, ⟨.control, [], 1⟩, ⟨.literal, text "|b", 3⟩,
          ⟨.control, [], 5⟩] := by
  have front : tokenize barMarkers none (text "a||") =
      .ok [.literalAt 0 (text "a"), .directiveAt barMarkers 1 []] :=
    tokenize_run_directive (text "a") [] [] (by decide) (by decide) (by decide) (by decide)
  have back : tokenize barMarkers none (text "|b||") =
      .ok [.literalAt 0 (text "|b"), .directiveAt barMarkers 2 []] :=
    tokenize_run_directive (text "|b") [] [] (by decide) (by decide) (by decide) (by decide)
  have isDirective : (Token.directiveAt barMarkers 1 []).kind ≠ .literal := by decide
  have joined := tokenize_append barMarkers none front (.inr ⟨_, rfl, isDirective⟩) (text "|b||")
  exact ⟨front, back, joined.2 _ back⟩

end Stencil
