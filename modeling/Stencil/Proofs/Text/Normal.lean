import Stencil.Template.Markers
import Stencil.Text.Normal

/-! # The normal form

Three replacements of whole texts make the normal form, and together they act on each code
point by itself (`Stencil.Text.normalize_eq_flatMap`): a code point that is escaped becomes a
pair behind a backslash, every other one stays. Reading the pairs from the left undoes this,
whatever text follows (`Stencil.Text.restore_normalize_append`).

A text is in normal form when it is read from the left as code points that are not escaped and
as complete pairs (`Stencil.Text.IsNormal`). Finding a marker keeps the normal form behind the
marker, and in front of it as long as the marker does not begin like the second half of a pair
(`Stencil.Text.IsNormal.of_splitAt?`). The normal forms are just the texts that fall into such
pieces, normalizing and reading undo each other between them and all texts, and both go on part
by part (`Stencil.Text.normalize_restore_inverse`).
-/

namespace Stencil.Text

open CodePoint

variable {raw left right marker : Text} {point letter : CodePoint}

/-- A code point in the normal form. -/
def normalPoint (point : CodePoint) : Text :=
  if point = backslash then [backslash, backslash]
  else if point = carriageReturn then [backslash, 114]
  else if point = lineFeed then [backslash, 110]
  else [point]

/-- The normal form is that of the code points, one after the other. -/
theorem normalize_eq_flatMap : normalize raw = raw.flatMap normalPoint := by
  unfold normalize substitute
  rw [List.flatMap_assoc, List.flatMap_assoc]
  congr 1
  funext point
  unfold normalPoint
  by_cases isBackslash : point = backslash
  · subst isBackslash
    rfl
  · by_cases isReturn : point = carriageReturn
    · subst isReturn
      rfl
    · simp only [isBackslash, isReturn, ↓reduceIte, List.flatMap_cons, List.flatMap_nil,
        List.append_nil]
      rfl

@[simp] theorem normalize_nil : normalize [] = [] := rfl

theorem normalize_cons : normalize (point :: raw) = normalPoint point ++ normalize raw := by
  simp only [normalize_eq_flatMap, List.flatMap_cons]

theorem normalize_append : normalize (left ++ right) = normalize left ++ normalize right := by
  simp only [normalize_eq_flatMap, List.flatMap_append]

theorem normalPoint_of_not_escaped (plain : point.isEscaped = false) :
    normalPoint point = [point] := by
  simp only [isEscaped, Bool.or_eq_false_iff, beq_eq_false_iff_ne, ne_eq] at plain
  simp only [normalPoint, plain, ↓reduceIte]

/-- A code point that is escaped becomes a pair that stands for it. -/
theorem exists_pair_of_escaped (escaped : point.isEscaped = true) :
    ∃ letter, normalPoint point = [backslash, letter] ∧ unescape? letter = some point := by
  simp only [isEscaped, Bool.or_eq_true, beq_iff_eq] at escaped
  rcases escaped with (rfl | rfl) | rfl
  · exact ⟨backslash, rfl, rfl⟩
  · exact ⟨114, rfl, rfl⟩
  · exact ⟨110, rfl, rfl⟩

/-- The second half of a pair is a backslash or one of two letters. -/
theorem eq_of_unescape? (meant : unescape? letter = some point) :
    letter = backslash ∨ letter = 114 ∨ letter = 110 := by
  unfold unescape? at meant
  split at meant
  · exact Or.inl ‹_›
  · split at meant
    · exact Or.inr (Or.inl ‹_›)
    · split at meant
      · exact Or.inr (Or.inr ‹_›)
      · cases meant

theorem normalize_of_not_escaped (plain : raw.any isEscaped = false) : normalize raw = raw := by
  induction raw with
  | nil => rfl
  | cons point raw ih =>
      simp only [List.any_cons, Bool.or_eq_false_iff] at plain
      rw [normalize_cons, normalPoint_of_not_escaped plain.1, ih plain.2]
      rfl

/-- A pair is read as the code point that it stands for. -/
theorem restore_pair (meant : unescape? letter = some point) :
    restore (backslash :: letter :: raw) = point :: restore raw := by
  simp only [restore, ↓reduceIte, meant]

theorem restore_cons_of_ne (differs : point ≠ backslash) :
    restore (point :: raw) = point :: restore raw := by
  cases raw with
  | nil => rfl
  | cons next rest => simp only [restore, differs, ↓reduceIte]

/-- Reading the normal form of a text gives the text back, whatever follows it. -/
theorem restore_normalize_append : restore (normalize left ++ right) = left ++ restore right := by
  induction left with
  | nil => rfl
  | cons point left ih =>
      rw [normalize_cons, List.append_assoc, List.cons_append]
      cases escaped : point.isEscaped with
      | false =>
          have differs : point ≠ backslash := by
            rintro rfl
            cases escaped
          rw [normalPoint_of_not_escaped escaped, List.singleton_append,
            restore_cons_of_ne differs, ih]
      | true =>
          obtain ⟨letter, pair, meant⟩ := exists_pair_of_escaped escaped
          rw [pair, List.cons_append, List.singleton_append, restore_pair meant, ih]

@[simp] theorem restore_normalize : restore (normalize raw) = raw := by
  have whole : restore (normalize raw ++ []) = raw ++ restore [] := restore_normalize_append
  rwa [List.append_nil, restore, List.append_nil] at whole

/-- A text begins like the second half of a pair whose first half is a backslash. -/
def BeginsLikeEscape (marker : Text) : Prop := marker.head? = some 110 ∨ marker.head? = some 114

instance (marker : Text) : Decidable marker.BeginsLikeEscape :=
  inferInstanceAs (Decidable (_ ∨ _))

/-- The normal form begins with a marker when the text does. -/
theorem isPrefixOf_normalize (plain : marker.any isEscaped = false) :
    marker.isPrefixOf (normalize raw) = marker.isPrefixOf raw := by
  induction marker generalizing raw with
  | nil => simp
  | cons first marker ih =>
      simp only [List.any_cons, Bool.or_eq_false_iff] at plain
      cases raw with
      | nil => rfl
      | cons point raw =>
          rw [normalize_cons]
          cases escaped : point.isEscaped with
          | false =>
              rw [normalPoint_of_not_escaped escaped, List.singleton_append,
                List.isPrefixOf, List.isPrefixOf, ih plain.2]
          | true =>
              obtain ⟨letter, pair, -⟩ := exists_pair_of_escaped escaped
              have notPoint : (first == point) = false := by
                rw [beq_eq_false_iff_ne]
                rintro rfl
                rw [escaped] at plain
                cases plain.1
              have notBackslash : (first == backslash) = false := by
                rw [beq_eq_false_iff_ne]
                rintro rfl
                cases plain.1
              rw [pair, List.cons_append, List.isPrefixOf, List.isPrefixOf, notPoint,
                notBackslash, Bool.false_and, Bool.false_and]

/-- A marker does not begin at the second half of a pair. -/
theorem not_isPrefixOf_letter (held : marker.IsMarker) (free : ¬ marker.BeginsLikeEscape)
    (meant : unescape? letter = some point) : marker.isPrefixOf (letter :: raw) = false := by
  cases marker with
  | nil => exact (held.1 rfl).elim
  | cons first marker =>
      have differs : (first == letter) = false := by
        rw [beq_eq_false_iff_ne]
        rintro rfl
        rcases eq_of_unescape? meant with rfl | rfl | rfl
        · have plain := held.2
          simp only [List.any_cons, Bool.or_eq_false_iff] at plain
          cases plain.1
        · exact free (Or.inr rfl)
        · exact free (Or.inl rfl)
      rw [List.isPrefixOf, differs, Bool.false_and]

/-- Splitting the normal form at a marker is splitting the text at it: no occurrence of the
marker begins inside a pair. -/
theorem splitAt?_normalize (held : marker.IsMarker) (free : ¬ marker.BeginsLikeEscape)
    (raw : Text) :
    splitAt? marker (normalize raw) =
      (splitAt? marker raw).map fun parts => (normalize parts.1, normalize parts.2) := by
  induction raw with
  | nil =>
      have absent : marker.isEmpty = false := List.isEmpty_eq_false_iff.mpr held.1
      simp [splitAt?, absent]
  | cons point raw ih =>
      by_cases begins : marker.isPrefixOf (point :: raw) = true
      · obtain ⟨tail, split⟩ := List.isPrefixOf_iff_prefix.mp begins
        have beginsNormal := begins
        rw [← isPrefixOf_normalize held.2] at beginsNormal
        have normal : normalize (point :: raw) = marker ++ normalize tail := by
          rw [← split, normalize_append, normalize_of_not_escaped held.2]
        have splitNormal : splitAt? marker (normalize (point :: raw)) =
            some ([], (normalize (point :: raw)).drop marker.length) := by
          cases whole : normalize (point :: raw) with
          | nil =>
              rw [whole] at beginsNormal
              exact (held.1 (List.prefix_nil.mp
                (List.isPrefixOf_iff_prefix.mp beginsNormal))).elim
          | cons first others =>
              rw [whole] at beginsNormal
              simp only [splitAt?, beginsNormal, ↓reduceIte]
        rw [splitNormal, normal, List.drop_left]
        simp only [splitAt?, begins, ↓reduceIte, Option.map_some, normalize_nil]
        rw [← split, List.drop_left]
      · have differs : marker.isPrefixOf (normalize (point :: raw)) = false := by
          rw [isPrefixOf_normalize held.2]
          exact Bool.eq_false_iff.mpr begins
        rw [normalize_cons] at differs ⊢
        simp only [splitAt?, begins, Bool.false_eq_true, ↓reduceIte]
        cases escaped : point.isEscaped with
        | false =>
            rw [normalPoint_of_not_escaped escaped, List.singleton_append] at differs ⊢
            simp only [splitAt?, differs, Bool.false_eq_true, ↓reduceIte, ih, Option.map_map]
            congr 1
            funext parts
            simp only [Function.comp_apply, normalize_cons,
              normalPoint_of_not_escaped escaped, List.singleton_append]
        -- The pair adds a place at which the marker could begin, but its second half is no start of it.
        | true =>
            obtain ⟨letter, pair, meant⟩ := exists_pair_of_escaped escaped
            rw [pair, List.cons_append, List.singleton_append] at differs ⊢
            simp only [splitAt?, differs, not_isPrefixOf_letter held free meant,
              Bool.false_eq_true, ↓reduceIte, ih, Option.map_map]
            congr 1
            funext parts
            simp only [Function.comp_apply, normalize_cons, pair, List.cons_append,
              List.nil_append]

variable {whole before after piece : Text}

/-- A text is made of code points that are not escaped and of complete pairs. -/
inductive IsNormal : Text → Prop
  | nil : IsNormal []
  | plain {point : CodePoint} {rest : Text} (plain : point.isEscaped = false)
      (behind : IsNormal rest) : IsNormal (point :: rest)
  | pair {letter point : CodePoint} {rest : Text} (meant : unescape? letter = some point)
      (behind : IsNormal rest) : IsNormal (backslash :: letter :: rest)

namespace IsNormal

theorem append (normal : IsNormal left) (behind : IsNormal right) : IsNormal (left ++ right) := by
  induction normal with
  | nil => exact behind
  | plain plain _ ih => exact .plain plain ih
  | pair meant _ ih => exact .pair meant ih

theorem of_not_escaped (plain : whole.any isEscaped = false) : IsNormal whole := by
  induction whole with
  | nil => exact .nil
  | cons point rest ih =>
      rw [List.any_cons, Bool.or_eq_false_iff] at plain
      exact .plain plain.1 (ih plain.2)

theorem normalize (raw : Text) : IsNormal (normalize raw) := by
  induction raw with
  | nil => exact .nil
  | cons point raw ih =>
      rw [normalize_cons]
      cases escaped : point.isEscaped with
      | false =>
          rw [normalPoint_of_not_escaped escaped]
          exact .plain escaped ih
      | true =>
          obtain ⟨letter, pair, meant⟩ := exists_pair_of_escaped escaped
          rw [pair]
          exact .pair meant ih

/-- A pair is the normal form of the code point that it stands for. -/
theorem normalPoint_of_unescape? (meant : unescape? letter = some point) :
    normalPoint point = [backslash, letter] := by
  rcases eq_of_unescape? meant with rfl | rfl | rfl <;>
  · cases meant
    rfl

theorem exists_eq_normalize (normal : IsNormal whole) : ∃ raw, whole = Text.normalize raw := by
  induction normal with
  | nil => exact ⟨[], rfl⟩
  | @plain point _ plain _ ih =>
      obtain ⟨raw, rfl⟩ := ih
      exact ⟨point :: raw, by rw [normalize_cons, normalPoint_of_not_escaped plain]; rfl⟩
  | @pair _ point _ meant _ ih =>
      obtain ⟨raw, rfl⟩ := ih
      exact ⟨point :: raw, by rw [normalize_cons, normalPoint_of_unescape? meant]; rfl⟩

/-- The texts in normal form are those that normalization gives. -/
theorem iff_exists : IsNormal whole ↔ ∃ raw, whole = Text.normalize raw :=
  ⟨exists_eq_normalize, fun ⟨raw, same⟩ => same ▸ normalize raw⟩

/-- Behind code points that are not escaped the normal form goes on. -/
theorem of_append (plain : left.any isEscaped = false) (normal : IsNormal (left ++ right)) :
    IsNormal right := by
  induction left with
  | nil => exact normal
  | cons point left ih =>
      rw [List.any_cons, Bool.or_eq_false_iff] at plain
      rw [List.cons_append] at normal
      generalize behindPoint : left ++ right = others at normal
      cases normal with
      | plain _ behind => exact ih plain.2 (behindPoint ▸ behind)
      | pair _ _ => cases plain.1

/-- The first code point of a marker that stands at the second half of a pair. -/
theorem letter_not_escaped {rest : Text} (held : marker.IsMarker)
    (begins : marker.isPrefixOf (letter :: rest) = true) : letter.isEscaped = false := by
  obtain ⟨nonempty, plain⟩ := held
  cases marker with
  | nil => exact (nonempty rfl).elim
  | cons first others =>
      rw [List.isPrefixOf, Bool.and_eq_true, beq_iff_eq] at begins
      rw [List.any_cons, Bool.or_eq_false_iff] at plain
      exact begins.1 ▸ plain.1

/-- Behind a marker that is found in a text in normal form the normal form goes on. Up to the
end of the marker it is complete, and in front of the marker it is unless the marker begins
like the second half of a pair. -/
theorem of_splitAt? (held : marker.IsMarker) (normal : IsNormal whole)
    (found : splitAt? marker whole = some (before, after)) :
    IsNormal after ∧ IsNormal (before ++ marker) ∧
      (¬ marker.BeginsLikeEscape → IsNormal before) := by
  induction normal generalizing before with
  | nil =>
      rw [splitAt?, if_neg (by rw [List.isEmpty_iff]; exact held.1)] at found
      cases found
  | @plain point rest plain behind ih =>
      rw [splitAt?] at found
      split at found
      · next begins =>
          obtain ⟨tail, split⟩ := List.isPrefixOf_iff_prefix.mp begins
          rw [← split, List.drop_left] at found
          cases found
          refine ⟨of_append held.2 (split ▸ .plain plain behind), .of_not_escaped held.2, fun _ => .nil⟩
      · obtain ⟨⟨inner, others⟩, deeper, same⟩ := Option.map_eq_some_iff.mp found
        cases same
        obtain ⟨afterNormal, markerNormal, beforeNormal⟩ := ih deeper
        exact ⟨afterNormal, .plain plain markerNormal, fun free => .plain plain (beforeNormal free)⟩
  | @pair letter point rest meant behind ih =>
      have notHere : ¬ marker.isPrefixOf (backslash :: letter :: rest) = true := fun begins =>
        Bool.noConfusion (letter_not_escaped held begins)
      rw [splitAt?, if_neg notHere, splitAt?] at found
      obtain ⟨⟨inner, others⟩, deeper, same⟩ := Option.map_eq_some_iff.mp found
      cases same
      split at deeper
      -- The marker takes the second half of the pair.
      · next begins =>
          have letterPlain := letter_not_escaped held begins
          have notFree : ¬ ¬ marker.BeginsLikeEscape := fun free =>
            Bool.noConfusion ((not_isPrefixOf_letter held free meant).symm.trans begins)
          obtain ⟨tail, split⟩ := List.isPrefixOf_iff_prefix.mp begins
          rw [← split, List.drop_left] at deeper
          cases deeper
          refine ⟨of_append held.2 (split ▸ .plain letterPlain behind), ?_, fun free => (notFree free).elim⟩
          obtain ⟨first, more, rfl⟩ := List.exists_cons_of_ne_nil held.1
          have sameLetter : first = letter := by
            rw [List.cons_append] at split
            exact (List.cons.inj split).1
          have plain := held.2
          rw [List.any_cons, Bool.or_eq_false_iff] at plain
          exact .pair (sameLetter ▸ meant) (.of_not_escaped plain.2)
      · obtain ⟨⟨further, others⟩, deepest, same⟩ := Option.map_eq_some_iff.mp deeper
        cases same
        obtain ⟨afterNormal, markerNormal, beforeNormal⟩ := ih deepest
        exact ⟨afterNormal, .pair meant markerNormal, fun free => .pair meant (beforeNormal free)⟩

end IsNormal

/-- A piece of a text in normal form: a code point that is no backslash, no carriage return and no
line feed, or one of the three pairs behind a backslash. -/
inductive IsPiece : Text → Prop
  | plain {point : CodePoint} (noBackslash : point ≠ backslash) (noReturn : point ≠ carriageReturn)
      (noFeed : point ≠ lineFeed) : IsPiece [point]
  | backslash : IsPiece (text "\\\\")
  | carriageReturn : IsPiece (text "\\r")
  | lineFeed : IsPiece (text "\\n")

/-- A text is some pieces one behind the other. -/
def FallsIntoPieces (whole : Text) : Prop :=
  ∃ pieces : List Text, (∀ piece ∈ pieces, IsPiece piece) ∧ pieces.flatten = whole

theorem isPiece_of_not_escaped (plain : point.isEscaped = false) : IsPiece [point] := by
  simp only [isEscaped, Bool.or_eq_false_iff, beq_eq_false_iff_ne] at plain
  exact .plain plain.1.1 plain.1.2 plain.2

theorem isPiece_pair (meant : unescape? letter = some point) : IsPiece [backslash, letter] := by
  rcases eq_of_unescape? meant with rfl | rfl | rfl
  · exact .backslash
  · exact .carriageReturn
  · exact .lineFeed

theorem IsPiece.isNormal (isPiece : IsPiece piece) : IsNormal piece := by
  cases isPiece with
  | plain noBackslash noReturn noFeed =>
      exact .plain (by simp [isEscaped, noBackslash, noReturn, noFeed]) .nil
  | backslash =>
      have meant : unescape? CodePoint.backslash = some CodePoint.backslash := rfl
      exact .pair meant .nil
  | carriageReturn =>
      have meant : unescape? 114 = some CodePoint.carriageReturn := rfl
      exact .pair meant .nil
  | lineFeed =>
      have meant : unescape? 110 = some CodePoint.lineFeed := rfl
      exact .pair meant .nil

/-- The texts in normal form are those that fall into pieces. -/
theorem isNormal_iff_fallsIntoPieces : IsNormal whole ↔ FallsIntoPieces whole := by
  constructor
  · intro normal
    induction normal with
    | nil => exact ⟨[], by simp, rfl⟩
    | plain plain _ ih =>
        obtain ⟨pieces, each, rfl⟩ := ih
        exact ⟨_ :: pieces, List.forall_mem_cons.mpr ⟨isPiece_of_not_escaped plain, each⟩, rfl⟩
    | pair meant _ ih =>
        obtain ⟨pieces, each, rfl⟩ := ih
        exact ⟨_ :: pieces, List.forall_mem_cons.mpr ⟨isPiece_pair meant, each⟩, rfl⟩
  · rintro ⟨pieces, each, rfl⟩
    induction pieces with
    | nil => exact .nil
    | cons piece pieces ih =>
        obtain ⟨isPiece, each⟩ := List.forall_mem_cons.mp each
        exact isPiece.isNormal.append (ih each)

theorem IsNormal.normalize_restore (normal : IsNormal whole) :
    Text.normalize (restore whole) = whole := by
  obtain ⟨raw, rfl⟩ := normal.exists_eq_normalize
  rw [restore_normalize]

/-- No pair goes on behind a text in normal form. -/
theorem IsNormal.restore_append (normal : IsNormal left) :
    restore (left ++ right) = restore left ++ restore right := by
  obtain ⟨raw, rfl⟩ := normal.exists_eq_normalize
  rw [restore_normalize_append, restore_normalize]

/-- **Normalizing and reading undo each other.** Reading the normal form of any text gives the text
back, and the normal form is made part by part. The normal forms are just the texts that fall into
pieces; normalizing what such a text reads as gives it back, and whatever stands behind it is read
by itself. -/
theorem normalize_restore_inverse :
    (∀ raw, restore (normalize raw) = raw) ∧
      (∀ left right, normalize (left ++ right) = normalize left ++ normalize right) ∧
      (∀ whole, (∃ raw, normalize raw = whole) ↔ FallsIntoPieces whole) ∧
      ∀ whole, FallsIntoPieces whole → normalize (restore whole) = whole ∧
        ∀ rest, restore (whole ++ rest) = restore whole ++ restore rest := by
  refine ⟨fun _ => restore_normalize, fun _ _ => normalize_append, fun whole => ?_,
    fun whole pieced => ?_⟩
  · rw [← isNormal_iff_fallsIntoPieces, IsNormal.iff_exists]
    simp only [eq_comm]
  · have normal := isNormal_iff_fallsIntoPieces.mpr pieced
    exact ⟨normal.normalize_restore, fun _ => normal.restore_append⟩

/-- A doubled backslash in front of an n stays apart from the n, and a pair from what follows. -/
theorem normalize_restore_inverse_pairs :
    FallsIntoPieces (text "\\\\n\\n") ∧
      normalize (restore (text "\\\\n\\n")) = text "\\\\n\\n" ∧
      restore (text "\\\\n\\n" ++ text "\\r") = restore (text "\\\\n\\n") ++ restore (text "\\r") := by
  have pieced : FallsIntoPieces (text "\\\\n\\n") := by
    refine ⟨[text "\\\\", text "n", text "\\n"], ?_, rfl⟩
    intro piece member
    simp only [List.mem_cons, List.not_mem_nil, or_false] at member
    rcases member with rfl | rfl | rfl
    · exact .backslash
    · exact .plain (by decide) (by decide) (by decide)
    · exact .lineFeed
  have inverse := normalize_restore_inverse.2.2.2 _ pieced
  exact ⟨pieced, inverse.1, inverse.2 _⟩

end Stencil.Text
