import Stencil.Proofs.Source.InsertedLiteral
import Stencil.Proofs.Template.Compilation
import Stencil.Proofs.Template.Segmentation

/-! # Literal text between tokens

Literal text may be put between any two tokens of a template, where it becomes one with literal text
beside it (`Stencil.exists_tokens_literal`).
-/

namespace Stencil

open Script Source CodePoint Text

variable {markers : Markers} {name : Option Text} {offset distance : Nat}
  {rest left gap right run tail : Text} {tokens front back : List Token}

namespace Token

/-- A token that starts further on. -/
def shift (distance : Nat) (token : Token) : Token := { token with offset := token.offset + distance }

theorem directiveAt_add {body : Text} :
    directiveAt markers (offset + distance) body = (directiveAt markers offset body).shift distance := by
  unfold directiveAt
  split <;> rfl

/-- Further on, a text falls into the same tokens further on, or has the same open directive there. -/
theorem scanFrom_further (distance offset : Nat) (rest : Text) :
    scanFrom markers (offset + distance) rest =
      ((scanFrom markers offset rest).map (List.map (shift distance))).mapError (· + distance) := by
  induction offset, rest using scanFrom.induct markers with
  | case1 offset =>
      rw [scanFrom_nil, scanFrom_nil]
      rfl
  | case2 offset rest _ begins unclosed =>
      rw [scanFrom_unterminated begins unclosed, scanFrom_unterminated begins unclosed]
      rfl
  | case3 offset rest _ begins span after closed ih =>
      have place : offset + distance + span.length + markers.closing.length =
          offset + span.length + markers.closing.length + distance := by omega
      rw [scanFrom_directive begins closed, scanFrom_directive begins closed, place, ih,
        directiveAt_add]
      cases scanFrom markers (offset + span.length + markers.closing.length) after <;> rfl
  | case4 offset rest nonempty _ unopened =>
      rw [scanFrom_last nonempty unopened, scanFrom_last nonempty unopened]
      rfl
  | case5 offset rest _ differs run after opened ih =>
      have place : offset + distance + run.length = offset + run.length + distance := by omega
      rw [scanFrom_run differs opened, scanFrom_run differs opened, place, ih]
      cases scanFrom markers (offset + run.length) (markers.opening ++ after) <;> rfl

/-- The same tokens are found further on. -/
theorem scanFrom_add (distance : Nat) {offset : Nat} {rest : Text} {tokens : List Token}
    (scanned : scanFrom markers offset rest = .ok tokens) :
    scanFrom markers (offset + distance) rest = .ok (tokens.map (shift distance)) := by
  rw [scanFrom_further, scanned]
  rfl

/-- Where a token starts makes no difference to its fragment. -/
theorem emitAll_shift {generator : Generator} :
    generator.emitAll (tokens.map (shift distance)) = generator.emitAll tokens := by
  induction tokens generalizing generator with
  | nil => rfl
  | cons token tokens ih =>
      have first : generator.emit (token.shift distance) = generator.emit token := rfl
      rw [List.map_cons, Generator.emitAll, Generator.emitAll, first]
      simp only [ih]

/-- The token of literal text, if there is any. -/
def literalTokens (offset : Nat) (content : Text) : List Token :=
  if content = [] then [] else [literalAt offset content]

@[simp] theorem literalTokens_nil : literalTokens offset [] = [] := if_pos rfl

theorem literalTokens_of_ne_nil {content : Text} (held : content ≠ []) :
    literalTokens offset content = [literalAt offset content] := if_neg held

theorem literalAt_ne_directiveAt {content body : Text} {other : Nat} :
    literalAt other content ≠ directiveAt markers offset body := by
  intro same
  have kind := congrArg Token.kind same
  unfold directiveAt at kind
  split at kind <;> cases kind

/-- Literal text at the start of a text ends with the text or at an opening marker. -/
theorem exists_of_scanFrom_literalAt {whole content : Text}
    (scanned : scanFrom markers offset whole = .ok (literalAt offset content :: back)) :
    ∃ rest, whole = content ++ rest ∧ (rest = [] ∨ markers.opening.isPrefixOf rest = true) ∧
      scanFrom markers (offset + content.length) rest = .ok back := by
  by_cases ended : whole = []
  · rw [ended, scanFrom_nil] at scanned
    cases scanned
  by_cases begins : markers.opening.isPrefixOf whole = true
  · cases found : splitAt? markers.closing whole with
    | none =>
        rw [scanFrom_unterminated begins found] at scanned
        cases scanned
    | some parts =>
        obtain ⟨span, after⟩ := parts
        rw [scanFrom_directive begins found] at scanned
        obtain ⟨others, later, same⟩ := exists_of_map_cons scanned
        exact (literalAt_ne_directiveAt (List.cons.inj same).1).elim
  · cases found : splitAt? markers.opening whole with
    | none =>
        rw [scanFrom_last ended found] at scanned
        cases scanned
        exact ⟨[], (List.append_nil _).symm, .inl rfl, scanFrom_nil⟩
    | some parts =>
        obtain ⟨run, after⟩ := parts
        rw [scanFrom_run begins found] at scanned
        obtain ⟨others, later, same⟩ := exists_of_map_cons scanned
        cases same
        refine ⟨markers.opening ++ after, ?_, .inr ?_, later⟩
        · rw [eq_of_splitAt? found, List.append_assoc]
        · exact List.isPrefixOf_iff_prefix.mpr (List.prefix_append _ _)

/-- Literal text in front of a text becomes one with the literal text that the text begins with, and
the tokens behind it are the same further on. -/
theorem exists_scanFrom_append (scanned : scanFrom markers offset rest = .ok back) :
    ∃ run others, back = literalTokens offset run ++ others ∧
      (rest = [] ∨ markers.opening.isPrefixOf rest = true → run = []) ∧
      ∀ start distance literal, literal ≠ [] → start + literal.length = offset + distance →
        (∀ place < literal.length, ¬ OccursAt markers.opening (literal ++ rest) place) →
        scanFrom markers start (literal ++ rest) =
          .ok (literalAt start (literal ++ run) :: others.map (shift distance)) := by
  have held {literal : Text} (literalHeld : literal ≠ []) : literal ++ rest ≠ [] :=
    List.append_ne_nil_of_left_ne_nil literalHeld rest
  have differs {literal : Text} (literalHeld : literal ≠ [])
      (absent : ∀ place < literal.length, ¬ OccursAt markers.opening (literal ++ rest) place) :
      ¬ markers.opening.isPrefixOf (literal ++ rest) = true := fun begins =>
    absent 0 (List.length_pos_iff.mpr literalHeld) (List.isPrefixOf_iff_prefix.mp begins)
  by_cases ended : rest = []
  · subst ended
    rw [scanFrom_nil] at scanned
    cases scanned
    refine ⟨[], [], rfl, fun _ => rfl, fun start distance literal literalHeld _ absent => ?_⟩
    have found := splitAt?_append_left absent
    have none : splitAt? markers.opening [] = none := by
      rw [splitAt?, if_neg fun isEmpty => markers.opening_ok.1 (List.isEmpty_iff.mp isEmpty)]
    rw [none, Option.map_none] at found
    rw [scanFrom_last (held literalHeld) found]
    rfl
  by_cases begins : markers.opening.isPrefixOf rest = true
  · refine ⟨[], back, rfl, fun _ => rfl, fun start distance literal literalHeld place absent => ?_⟩
    obtain ⟨after, rfl⟩ := List.isPrefixOf_iff_prefix.mp begins
    have here : splitAt? markers.opening (markers.opening ++ after) = some ([], after) :=
      (splitAt?_eq_some_iff markers.opening_ok.1).mpr ⟨⟨Nat.le_refl _, List.prefix_append _ _,
        fun _ _ below => absurd below (Nat.not_lt_zero _)⟩, rfl⟩
    have found := splitAt?_append_left absent
    rw [here, Option.map_some, List.append_nil] at found
    rw [scanFrom_run (differs literalHeld absent) found, place, scanFrom_add distance scanned,
      List.append_nil]
    rfl
  · cases opened : splitAt? markers.opening rest with
    | none =>
        rw [scanFrom_last ended opened] at scanned
        cases scanned
        refine ⟨rest, [], ?_, fun atEdge => (atEdge.elim ended begins).elim,
          fun start distance literal literalHeld _ absent => ?_⟩
        · rw [literalTokens_of_ne_nil ended]
          rfl
        have found := splitAt?_append_left absent
        rw [opened, Option.map_none] at found
        rw [scanFrom_last (held literalHeld) found]
        rfl
    | some parts =>
        obtain ⟨run, after⟩ := parts
        have runHeld := before_ne_nil_of_splitAt? (Bool.eq_false_iff.mpr begins) opened
        rw [scanFrom_run begins opened] at scanned
        obtain ⟨others, later, rfl⟩ := exists_of_map_cons scanned
        refine ⟨run, others, ?_, fun atEdge => (atEdge.elim ended begins).elim,
          fun start distance literal literalHeld place absent => ?_⟩
        · rw [literalTokens_of_ne_nil runHeld]
          rfl
        have found := splitAt?_append_left absent
        rw [opened, Option.map_some] at found
        have further : start + (literal ++ run).length = offset + run.length + distance := by
          rw [List.length_append]
          omega
        rw [scanFrom_run (differs literalHeld absent) found, further,
          scanFrom_add distance later]
        rfl

/-- The tokens of a text stay the same in front of others, but for literal text at its end. -/
def Endures (markers : Markers) (offset : Nat) (left : Text) (front : List Token) : Prop :=
  ∃ earlier start tail, front = earlier ++ literalTokens start tail ∧
    ∀ behind, scanFrom markers offset (left ++ behind) =
      (scanFrom markers start (tail ++ behind)).map (earlier ++ ·)

/-- A token comes first. -/
theorem Endures.cons {token : Token} {others : List Token} {place : Nat}
    (endures : Endures markers place rest others)
    (scans : ∀ behind, scanFrom markers offset (left ++ behind) =
      (scanFrom markers place (rest ++ behind)).map (token :: ·)) :
    Endures markers offset left (token :: others) := by
  obtain ⟨earlier, start, tail, rfl, same⟩ := endures
  refine ⟨token :: earlier, start, tail, rfl, fun behind => ?_⟩
  rw [scans, same]
  cases scanFrom markers start (tail ++ behind) <;> rfl

theorem endures_of_scanFrom {offset : Nat} {left : Text} {front : List Token}
    (scanned : scanFrom markers offset left = .ok front) : Endures markers offset left front := by
  by_cases ended : left = []
  · subst ended
    rw [scanFrom_nil] at scanned
    cases scanned
    refine ⟨[], offset, [], rfl, fun behind => ?_⟩
    cases scanFrom markers offset ([] ++ behind) <;> rfl
  by_cases begins : markers.opening.isPrefixOf left = true
  · cases found : splitAt? markers.closing left with
    | none =>
        rw [scanFrom_unterminated begins found] at scanned
        cases scanned
    | some parts =>
        obtain ⟨span, after⟩ := parts
        have advances := length_splitAt?_lt markers.closing_ok.1 found
        rw [scanFrom_directive begins found] at scanned
        obtain ⟨others, later, rfl⟩ := exists_of_map_cons scanned
        refine (endures_of_scanFrom later).cons fun behind => ?_
        refine scanFrom_directive ?_ (splitAt?_append_right behind markers.closing_ok.1 found)
        exact List.isPrefixOf_iff_prefix.mpr
          ((List.isPrefixOf_iff_prefix.mp begins).trans (List.prefix_append _ _))
  · cases found : splitAt? markers.opening left with
    | none =>
        rw [scanFrom_last ended found] at scanned
        cases scanned
        refine ⟨[], offset, left, ?_, fun behind => ?_⟩
        · rw [literalTokens_of_ne_nil ended]
          rfl
        · cases scanFrom markers offset (left ++ behind) <;> rfl
    | some parts =>
        obtain ⟨run, after⟩ := parts
        have whole := eq_of_splitAt? found
        have held := before_ne_nil_of_splitAt? (Bool.eq_false_iff.mpr begins) found
        have advances := List.length_pos_iff.mpr held
        rw [scanFrom_run begins found] at scanned
        obtain ⟨others, later, rfl⟩ := exists_of_map_cons scanned
        refine (endures_of_scanFrom later).cons fun behind => ?_
        have further := splitAt?_append_right behind markers.opening_ok.1 found
        rw [scanFrom_run (not_isPrefixOf_of_splitAt? further held) further, List.append_assoc]
termination_by left.length
decreasing_by
  · exact advances
  · rw [whole]
    simp only [List.length_append]
    omega

end Token

/-- The literal text that some tokens end with. -/
def literalEnd (tokens : List Token) : Text :=
  match tokens.getLast? with
  | some ⟨.literal, content, _⟩ => content
  | _ => []

/-- A text that is put behind some tokens is literal text: no opening marker begins in it, nor in the
literal text in front of it. -/
def StaysLiteral (markers : Markers) (front : List Token) (gap right : Text) : Prop :=
  ∀ place < (literalEnd front ++ gap).length,
    ¬ OccursAt markers.opening (literalEnd front ++ gap ++ right) place

instance : Decidable (StaysLiteral markers front gap right) :=
  inferInstanceAs (Decidable (∀ place < _, _))

theorem exists_literalEnd {earlier : List Token} :
    ∃ before, literalEnd (earlier ++ Token.literalTokens offset tail) = before ++ tail := by
  by_cases held : tail = []
  · exact ⟨_, by rw [held, List.append_nil]⟩
  · refine ⟨[], ?_⟩
    unfold literalEnd
    rw [Token.literalTokens_of_ne_nil held, List.getLast?_concat]
    rfl

/-- **Literal text between two tokens** becomes one with literal text beside it, and all other tokens
stay as they are. -/
theorem exists_tokens_literal (scannedLeft : Token.scanFrom markers 0 left = .ok front)
    (scanned : Token.scanFrom markers 0 (left ++ right) = .ok (front ++ back)) (held : gap ≠ [])
    (stays : StaysLiteral markers front gap right) :
    ∃ earlier start tail run others, front = earlier ++ Token.literalTokens start tail ∧
      front ++ back = earlier ++ (Token.literalTokens start (tail ++ run) ++ others) ∧
      (tail = [] ∨ run = []) ∧
      Token.scanFrom markers 0 (left ++ gap ++ right) =
        .ok (earlier ++ .literalAt start (tail ++ (gap ++ run)) ::
          others.map (Token.shift gap.length)) := by
  obtain ⟨earlier, start, tail, rfl, scans⟩ := Token.endures_of_scanFrom scannedLeft
  have scannedTail : Token.scanFrom markers start (tail ++ right) =
      .ok (Token.literalTokens start tail ++ back) := by
    rw [scans] at scanned
    cases found : Token.scanFrom markers start (tail ++ right) with
    | error fault => rw [found] at scanned; cases scanned
    | ok others =>
        rw [found] at scanned
        have same := Except.ok.inj scanned
        rw [List.append_assoc] at same
        rw [List.append_cancel_left same]
  have absent : ∀ place < (tail ++ gap).length,
      ¬ OccursAt markers.opening (tail ++ gap ++ right) place := by
    intro place below occurs
    obtain ⟨before, isEnd⟩ := @exists_literalEnd start tail earlier
    rw [StaysLiteral, isEnd] at stays
    refine stays (before.length + place) ?_ (occursAt_drop.mp ?_)
    · simp only [List.length_append] at below ⊢
      omega
    · rw [List.append_assoc, List.append_assoc, List.drop_left, ← List.append_assoc]
      exact occurs
  have whole : tail ++ gap ≠ [] := List.append_ne_nil_of_right_ne_nil tail held
  by_cases none : tail = []
  · subst none
    rw [List.nil_append] at scannedTail
    obtain ⟨run, others, rfl, -, further⟩ := Token.exists_scanFrom_append scannedTail
    refine ⟨earlier, start, [], run, others, rfl, ?_, .inl rfl, ?_⟩
    · rw [Token.literalTokens_nil, List.append_nil, List.nil_append]
    · have scannedGap := further start gap.length gap held rfl absent
      rw [List.append_assoc, scans, List.nil_append, scannedGap]
      rfl
  · rw [Token.literalTokens_of_ne_nil none] at scannedTail
    obtain ⟨rest, split, atEdge, scannedRight⟩ := Token.exists_of_scanFrom_literalAt scannedTail
    obtain rfl := List.append_cancel_left split
    obtain ⟨run, others, rfl, noRun, further⟩ := Token.exists_scanFrom_append scannedRight
    obtain rfl := noRun atEdge
    refine ⟨earlier, start, tail, [], others, rfl, ?_, .inr rfl, ?_⟩
    · rw [Token.literalTokens_nil, List.append_nil, List.append_assoc]
      rfl
    · have scannedGap := further start gap.length (tail ++ gap) whole
        (by rw [List.length_append, Nat.add_assoc]) absent
      rw [List.append_assoc, scans, ← List.append_assoc tail, scannedGap, List.append_nil,
        List.append_nil]
      rfl

end Stencil
