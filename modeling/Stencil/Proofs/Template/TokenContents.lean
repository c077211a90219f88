import Stencil.Proofs.Source.LiteralText
import Stencil.Proofs.Template.NormalScan
import Stencil.Proofs.Text.Normal

/-! # Token contents in normal form

Cutting the normal form of a text at its markers keeps the parts in normal form as long as no
marker is found inside a pair. Hence the opening marker alone decides whether literal text stays
in normal form, and the closing marker whether statements do
(`Stencil.tokenize_respectsPairs`): an opening marker that begins with n or r is found inside a
pair and leaves a single backslash as literal text (`Stencil.tokenize_inside_pair`).
-/

namespace Stencil

open Text

/-- A text is read as one string with a value, whatever stands behind it. -/
def IsStringOf (written value : Text) : Prop :=
  ∃ body, (∀ tail, Script.readLexeme (written ++ tail) =
      some (.string ⟨false, false, false, body⟩, written.length)) ∧
    Script.decodeText false body = some value

/-- The string that quotes a nonempty text in normal form has the text as its value. -/
theorem isStringOf_quoteLiteral {content : Text} (nonempty : content ≠ []) :
    IsStringOf (Source.quoteLiteral (normalize content)) content :=
  ⟨_, fun _ => Source.readLexeme_quoteLiteral fun empty => (nonempty empty).elim,
    Source.decodeText_quoted⟩

variable {markers : Markers} {raw before rest span after : Text} {offset : Nat}
  {tokens : List Token}

/-- A token of the normal form of a text respects the pairs: unless the opening marker begins
like the second half of a pair, the token starts between two pairs and literal text is the
normal form of some text, and unless the closing marker does, a statement is one. -/
structure Token.RespectsPairs (markers : Markers) (raw : Text) (token : Token) : Prop where
  starts : ¬ markers.opening.BeginsLikeEscape →
    ∃ before behind, raw = before ++ behind ∧ token.offset = (normalize before).length
  literal : ¬ markers.opening.BeginsLikeEscape → token.kind = .literal →
    ∃ content, token.content = normalize content ∧
      IsStringOf (Source.quoteLiteral token.content) content
  control : ¬ markers.closing.BeginsLikeEscape → token.kind = .control →
    ∃ content, token.content = normalize content

namespace Token

/-- A place between two pairs of the normal form is the normal form of a place of the text. -/
theorem exists_place (split : normalize raw = before ++ rest) (normalBefore : IsNormal before)
    (normalRest : IsNormal rest) :
    ∃ front behind, raw = front ++ behind ∧ before.length = (normalize front).length := by
  obtain ⟨front, rfl⟩ := normalBefore.exists_eq_normalize
  obtain ⟨behind, rfl⟩ := normalRest.exists_eq_normalize
  refine ⟨front, behind, ?_, rfl⟩
  have restored : restore (normalize raw) = raw := restore_normalize
  rw [split, ← normalize_append, restore_normalize] at restored
  exact restored.symm

theorem respectsPairs_literalAt (split : normalize raw = before ++ rest)
    (normalBefore : ¬ markers.opening.BeginsLikeEscape → IsNormal before)
    (normalRest : IsNormal rest) (nonempty : span ≠ [])
    (normalSpan : ¬ markers.opening.BeginsLikeEscape → IsNormal span) :
    (literalAt before.length span).RespectsPairs markers raw where
  starts free := exists_place split (normalBefore free) normalRest
  literal free _ := by
    obtain ⟨content, same⟩ := (normalSpan free).exists_eq_normalize
    refine ⟨content, same, ?_⟩
    change IsStringOf (Source.quoteLiteral span) content
    rw [same]
    refine isStringOf_quoteLiteral ?_
    rintro rfl
    exact nonempty same
  control _ isControl := nomatch isControl

theorem respectsPairs_directiveAt {body : Text} (split : normalize raw = before ++ rest)
    (normalBefore : ¬ markers.opening.BeginsLikeEscape → IsNormal before)
    (normalRest : IsNormal rest)
    (normalBody : ¬ markers.closing.BeginsLikeEscape → IsNormal body) :
    (directiveAt markers before.length body).RespectsPairs markers raw := by
  unfold directiveAt
  split
  · exact ⟨fun free => exists_place split (normalBefore free) normalRest,
      fun _ isLiteral => (nomatch isLiteral), fun _ isControl => (nomatch isControl)⟩
  · exact ⟨fun free => exists_place split (normalBefore free) normalRest,
      fun _ isLiteral => (nomatch isLiteral),
      fun free _ => (normalBody free).exists_eq_normalize⟩

/-- What stands between the markers of a directive is in normal form. -/
theorem isNormal_drop_opening (begins : markers.opening.isPrefixOf rest = true)
    (found : splitAt? markers.closing rest = some (span, after)) (normalSpan : IsNormal span) :
    IsNormal (span.drop markers.opening.length) := by
  have spanPrefix : span <+: rest := by
    rw [eq_of_splitAt? found, List.append_assoc]
    exact List.prefix_append _ _
  rcases List.prefix_or_prefix_of_prefix (List.isPrefixOf_iff_prefix.mp begins)
    spanPrefix with ⟨body, rfl⟩ | inside
  · rw [List.drop_left]
    exact normalSpan.of_append markers.opening_ok.2
  · rw [List.drop_eq_nil_of_le inside.length_le]
    exact .nil

/-- Scanning what is left in normal form gives tokens that respect the pairs. What is left
begins between two pairs of the whole, or inside one where an opening marker was found there. -/
theorem respectsPairs_of_scanFrom {before rest : Text} {tokens : List Token}
    (split : normalize raw = before ++ rest)
    (normalBefore : ¬ markers.opening.BeginsLikeEscape → IsNormal before)
    (normalRest : IsNormal rest) (scanned : scanFrom markers before.length rest = .ok tokens) :
    ∀ token ∈ tokens, token.RespectsPairs markers raw := by
  by_cases ended : rest = []
  · rw [ended, scanFrom_nil] at scanned
    cases scanned
    exact fun token member => nomatch member
  by_cases begins : markers.opening.isPrefixOf rest = true
  · cases found : splitAt? markers.closing rest with
    | none =>
        rw [scanFrom_unterminated begins found] at scanned
        cases scanned
    | some parts =>
        obtain ⟨span, after⟩ := parts
        obtain ⟨normalAfter, normalClosed, normalSpan⟩ :=
          normalRest.of_splitAt? markers.closing_ok found
        have advances := length_splitAt?_lt markers.closing_ok.1 found
        have whole := eq_of_splitAt? found
        have stops : before.length + span.length + markers.closing.length =
            (before ++ (span ++ markers.closing)).length := by
          simp only [List.length_append, Nat.add_assoc]
        rw [scanFrom_directive begins found, stops] at scanned
        obtain ⟨others, later, rfl⟩ := exists_of_map_cons scanned
        refine List.forall_mem_cons.mpr ⟨respectsPairs_directiveAt split normalBefore normalRest
          fun free => isNormal_drop_opening begins found (normalSpan free), ?_⟩
        exact respectsPairs_of_scanFrom (by rw [split, whole]; simp only [List.append_assoc])
          (fun free => (normalBefore free).append normalClosed) normalAfter later
  · cases found : splitAt? markers.opening rest with
    | none =>
        rw [scanFrom_last ended found] at scanned
        cases scanned
        exact List.forall_mem_singleton.mpr (respectsPairs_literalAt split normalBefore normalRest
          ended fun _ => normalRest)
    | some parts =>
        obtain ⟨span, after⟩ := parts
        obtain ⟨normalAfter, -, normalSpan⟩ := normalRest.of_splitAt? markers.opening_ok found
        have nonempty := before_ne_nil_of_splitAt? (Bool.eq_false_iff.mpr begins) found
        have advances := List.length_pos_iff.mpr nonempty
        have whole := eq_of_splitAt? found
        rw [scanFrom_run begins found, ← List.length_append] at scanned
        obtain ⟨others, later, rfl⟩ := exists_of_map_cons scanned
        refine List.forall_mem_cons.mpr ⟨respectsPairs_literalAt split normalBefore normalRest
          nonempty normalSpan, ?_⟩
        exact respectsPairs_of_scanFrom (by rw [split, whole]; simp only [List.append_assoc])
          (fun free => (normalBefore free).append (normalSpan free))
          ((IsNormal.of_not_escaped markers.opening_ok.2).append normalAfter) later
termination_by rest.length
decreasing_by
  · exact advances
  · rw [whole]
    simp only [List.length_append]
    omega

end Token

/-- **Token contents stay in normal form.** When the normal form of a text falls into tokens,
the opening marker alone decides about the starts of the tokens and about literal text, and the
closing marker about statements: a marker that begins neither with n nor with r is never found
inside a pair. -/
theorem tokenize_respectsPairs (markers : Markers) (name : Option Text) (raw : Text)
    {tokens : List Token} (tokenized : tokenize markers name (normalize raw) = .ok tokens) :
    ∀ token ∈ tokens, token.RespectsPairs markers raw := by
  unfold tokenize Token.scan at tokenized
  cases scanned : Token.scanFrom markers 0 (normalize raw) with
  | error offset => rw [scanned] at tokenized; cases tokenized
  | ok found =>
      rw [scanned] at tokenized
      cases tokenized
      exact Token.respectsPairs_of_scanFrom (List.nil_append _).symm (fun _ => .nil)
        (.normalize raw) scanned

/-- A backslash and a line break in front of a statement are literal text that is read back. -/
theorem tokenize_respectsPairs_lines :
    tokenize .standard none (normalize (text "\\\n<%\nx%>")) =
        .ok [⟨.literal, text "\\\\\\n", 0⟩, ⟨.control, text "\\nx", 4⟩] ∧
      ∀ token ∈ [Token.mk .literal (text "\\\\\\n") 0, Token.mk .control (text "\\nx") 4],
        token.RespectsPairs .standard (text "\\\n<%\nx%>") := by
  have tokenized : tokenize .standard none (normalize (text "\\\n<%\nx%>")) =
      .ok [.literalAt 0 (text "\\\\\\n"), .directiveAt .standard 4 (text "\\nx")] :=
    tokenize_run_directive (text "\\\\\\n") (text "\\nx%>") (text "<%\\nx") (by decide) (by decide)
      (by decide) (by decide)
  exact ⟨tokenized, tokenize_respectsPairs .standard none _ tokenized⟩

/-- An opening marker that is the second half of a pair. -/
def letterMarkers : Markers where
  opening := text "n"
  closing := text "%>"
  descriptor := text "="
  opening_ok := by decide
  closing_ok := Markers.standard.closing_ok
  descriptor_ok := Markers.standard.descriptor_ok

/-- An opening marker that begins with n is found inside the pair of a line break, and half of
the pair becomes literal text that is the normal form of no text; its quotation is no string. -/
theorem tokenize_inside_pair :
    tokenize letterMarkers none (normalize (text "\n%>")) =
        .ok [⟨.literal, text "\\", 0⟩, ⟨.control, [], 1⟩] ∧
      (¬ ∃ content, text "\\" = normalize content) ∧
      Script.readLexeme (Source.quoteLiteral (text "\\")) = none := by
  refine ⟨?_, ?_, by decide⟩
  · exact tokenize_run_directive (text "\\") (text "%>") (text "n") (by decide) (by decide)
      (by decide) (by decide)
  · rw [← IsNormal.iff_exists]
    intro normal
    cases normal with
    | plain plain _ => cases plain

end Stencil
