import Stencil.Proofs.Script.ExpressionTwins
import Stencil.Script.Grammar.Pattern

/-! # Readers of patterns as twins

The readers of patterns answer alike when those of their nested parts do, like the readers of
expressions. A pattern reads the names of the values that it compares with, and the names that
it binds are none of them.
-/

namespace Stencil.Script

open Reader

variable {room : Nat} {left right : Inner}

theorem inlineTwins_captureName : InlineTwins room captureName captureName := by
  unfold captureName
  refine .expectName_bind fun name _ less _ => .require_bind (.peek_bind fun next _ => ?_)
  split
  all_goals first
    | exact .refuse
    | exact .pure (spells_name name)

theorem spells_of_realNumber? {isNegative : Bool} {literal : NumberLiteral} {value : Expr}
    (found : realNumber? isNegative literal = some value) : Spells value := by
  unfold realNumber? at found
  split at found
  · cases found
  · cases found
    split <;> exact AllSpelled.nil

/-- A number of a pattern, with or without a sign in front. -/
theorem inlineTwins_patternNumber : InlineTwins room patternNumber patternNumber := by
  unfold patternNumber
  refine .acceptSymbol_bind (fun less _ => ?_) ?_
  all_goals
    refine .peek_bind fun next _ => ?_
    split
    · refine .expect_bind rfl Nat.one_ne_zero fun lower _ => .peek_bind fun behind _ => ?_
      split
      case h_3 => exact .pure AllSpelled.nil
      all_goals
        refine .expectSymbol_bind fun _ _ => .peek_bind fun imaginary _ => ?_
        split
        · refine .expect_bind rfl Nat.one_ne_zero fun _ _ => .ofOption_bind fun real found => ?_
          exact .pure (AllSpelled.append.mpr ⟨spells_of_realNumber? found, AllSpelled.nil⟩)
        · exact .refuse
    · exact .refuse

theorem inlineTwins_patternLiteral (below : left.NearBelow room right) :
    InlineTwins room (patternLiteral left) (patternLiteral right) := by
  unfold patternLiteral
  refine .peek_bind fun next _ => ?_
  split
  · exact inlineTwins_atom below
  · exact .ofOption_bind fun constant _ => .expectKeyword_bind fun _ _ => .pure AllSpelled.nil
  · exact inlineTwins_patternNumber

theorem spells_literalPattern {value : Expr} (spelled : Spells value) :
    Spells (literalPattern value) := by
  unfold literalPattern
  split
  · exact AllSpelled.nil
  · exact AllSpelled.nil
  · exact spelled

theorem inlineTwins_dottedExpression :
    InlineTwins room dottedExpression dottedExpression := by
  unfold dottedExpression
  refine .expectName_bind fun first isWord less _ => ?_
  have start : Spells (Expr.name first, false) :=
    ⟨AllSpelled.cons_read.mpr ⟨isWord, AllSpelled.nil⟩, trivial⟩
  refine .repeatFrom start fun found spelled => ?_
  refine .acceptSymbol_ite (fun lower _ => ?_) (.pure spells_none)
  exact .expectName_bind fun name _ _ _ => .pure (spells_some.mpr ⟨spelled.1, trivial⟩)

theorem inlineTwins_sequenceItem (near : left.Near room right) :
    InlineTwins room (sequenceItem left) (sequenceItem right) := by
  unfold sequenceItem
  refine .acceptSymbol_ite (fun less _ => ?_) near.pattern
  refine .accept_bind rfl Nat.one_ne_zero (fun _ _ => .pure AllSpelled.nil) ?_
  exact inlineTwins_captureName.bind fun name _ => .pure (AllSpelled.bindOption _)

/-- A single pattern stands for itself, and several make a sequence. -/
theorem spells_sequence {found : List Pattern × Bool} (spelled : Spells found) :
    Spells (Pattern.sequence found.1) := allSpelled_patterns.mpr spelled.1

theorem inlineTwins_groupedPattern (near : left.Near room right) :
    InlineTwins room (groupedPattern left) (groupedPattern right) := by
  unfold groupedPattern
  refine .acceptSymbol_ite (fun _ _ => .pure (allSpelled_patterns.mpr spells_nil)) ?_
  refine (inlineTwins_sequenceItem near).items.bind fun found spelled => ?_
  refine .expectSymbol_bind fun less lt => ?_
  split
  · exact .refuse
  · exact .pure (spells_cons.mp spelled.1).1
  · exact .pure (spells_sequence spelled)

theorem inlineTwins_listPattern (near : left.Near room right) :
    InlineTwins room (listPattern left) (listPattern right) := by
  unfold listPattern
  refine .acceptSymbol_ite (fun _ _ => .pure (allSpelled_patterns.mpr spells_nil)) ?_
  refine (inlineTwins_sequenceItem near).items.bind fun found spelled => ?_
  exact .expectSymbol_bind fun less lt => .pure (spells_sequence spelled)

instance : Spellable MappingState := ⟨fun state => Spells state.keys ∧ Spells state.patterns⟩

theorem inlineTwins_mappingKey (below : left.NearBelow room right) :
    InlineTwins room (mappingKey left) (mappingKey right) := by
  unfold mappingKey
  refine .peek_bind fun next _ => .ite (inlineTwins_patternLiteral below) ?_
  exact inlineTwins_dottedExpression.bind fun found spelled => .require_bind (.pure spelled.1)

theorem inlineTwins_mappingPattern (near : left.Near room right) :
    InlineTwins room (mappingPattern left) (mappingPattern right) := by
  have start : Spells (MappingState.mk [] [] none false) := ⟨spells_nil, spells_nil⟩
  unfold mappingPattern
  refine .bind (.repeatFrom start fun state spelled => ?_) fun state spelled => .pure ?_
  · refine .acceptSymbol_ite (fun _ _ => .pure spells_none) (.ite .refuse
      (.acceptSymbol_ite (fun less lt => ?_) ?_))
    · refine inlineTwins_captureName.bind fun name _ => ?_
      exact .acceptSymbol_bind (fun _ _ => .pure (spells_some.mpr spelled))
        (.pure (spells_some.mpr spelled))
    · refine (inlineTwins_mappingKey near.below).bind fun key spelledKey => ?_
      refine .expectSymbol_bind fun less lt => ?_
      refine (near.below less lt).pattern.bind fun pattern spelledPattern => ?_
      have more : ∀ isEnded, Spells (some (MappingState.mk (key :: state.keys)
          (pattern :: state.patterns) state.rest isEnded)) := fun _ =>
        spells_some.mpr ⟨spells_cons.mpr ⟨spelledKey, spelled.1⟩,
          spells_cons.mpr ⟨spelledPattern, spelled.2⟩⟩
      exact .acceptSymbol_bind (fun _ _ => .pure (more _)) (.pure (more _))
  · exact AllSpelled.append.mpr ⟨AllSpelled.append.mpr
      ⟨allSpelled_exprs.mpr (spells_reverse.mpr spelled.1),
        allSpelled_patterns.mpr (spells_reverse.mpr spelled.2)⟩, AllSpelled.bindOption _⟩

instance : Spellable ClassState := ⟨fun state => Spells state.positional ∧ Spells state.named⟩

theorem inlineTwins_classPattern (near : left.Near room right) {cls : Expr}
    (spelledClass : Spells cls) :
    InlineTwins room (classPattern left cls) (classPattern right cls) := by
  have start : Spells (ClassState.mk [] [] [] false) := ⟨spells_nil, spells_nil⟩
  unfold classPattern
  refine .bind (.repeatFrom start fun state spelled => ?_) fun state spelled => .pure ?_
  · refine .acceptSymbol_ite (fun _ _ => .pure spells_none) (.ite .refuse
      (.peek_bind fun next _ => .peekSecond_bind fun second => ?_))
    split
    · refine .require_bind (.expectName_bind fun name _ less lt =>
        .expectSymbol_bind fun lower lowerLt => ?_)
      refine (near.mono (by omega)).pattern.bind fun pattern spelledPattern => ?_
      have more : Spells (pattern :: state.named) := spells_cons.mpr ⟨spelledPattern, spelled.2⟩
      exact .acceptSymbol_bind (fun _ _ => .pure (spells_some.mpr ⟨spelled.1, more⟩))
        (.pure (spells_some.mpr ⟨spelled.1, more⟩))
    · refine .require_bind (near.pattern.bind fun pattern spelledPattern => ?_)
      have more : Spells (pattern :: state.positional) :=
        spells_cons.mpr ⟨spelledPattern, spelled.1⟩
      exact .acceptSymbol_bind (fun _ _ => .pure (spells_some.mpr ⟨more, spelled.2⟩))
        (.pure (spells_some.mpr ⟨more, spelled.2⟩))
  · exact AllSpelled.append.mpr ⟨AllSpelled.append.mpr ⟨spelledClass,
      allSpelled_patterns.mpr (spells_reverse.mpr spelled.1)⟩,
      allSpelled_patterns.mpr (spells_reverse.mpr spelled.2)⟩

theorem inlineTwins_closedPattern (below : left.NearBelow room right) :
    InlineTwins room (closedPattern left) (closedPattern right) := by
  unfold closedPattern
  refine .peek_bind fun next _ => ?_
  split
  · refine .ite (.expectName_bind fun _ _ _ _ => .pure AllSpelled.nil) ?_
    refine inlineTwins_dottedExpression.bind fun found spelled => .acceptSymbol_ite
      (fun less lt => inlineTwins_classPattern (below less lt) spelled.1)
      (.nextIs_bind fun _ => .require_bind (.pure ?_))
    split
    · exact spelled.1
    · exact AllSpelled.bindOption _
  · exact .expectSymbol_bind fun less lt => inlineTwins_groupedPattern (below less lt)
  · exact .expectSymbol_bind fun less lt => inlineTwins_listPattern (below less lt)
  · exact .expectSymbol_bind fun less lt => inlineTwins_mappingPattern (below less lt)
  · exact (inlineTwins_patternLiteral below).bind fun value spelled =>
      .pure (spells_literalPattern spelled)

theorem inlineTwins_readPattern (below : left.NearBelow room right) :
    InlineTwins room (readPattern left) (readPattern right) := by
  unfold readPattern
  refine (inlineTwins_closedPattern below).bind fun first spelled => ?_
  have single : Spells [first] := spells_cons.mpr ⟨spelled, spells_nil⟩
  refine .bind (.repeatFrom single fun found spelledFound => ?_) fun found spelledFound => ?_
  · refine .acceptSymbol_ite (fun less lt => ?_) (.pure spells_none)
    exact (inlineTwins_closedPattern (below.mono (Nat.le_of_lt lt))).bind
      fun other spelledOther => .pure (spells_some.mpr (spells_cons.mpr ⟨spelledOther, spelledFound⟩))
  · have reversed : Spells found.reverse := spells_reverse.mpr spelledFound
    have bound : ∀ pattern : Pattern, Spells pattern → InlineTwins room
        (do if ← acceptKeyword .asWord then return Pattern.bound pattern (← captureName)
            else return pattern)
        (do if ← acceptKeyword .asWord then return Pattern.bound pattern (← captureName)
            else return pattern) := fun pattern spelledPattern =>
      .acceptKeyword_ite (fun _ _ => inlineTwins_captureName.bind fun name _ =>
        .pure (AllSpelled.cons_bind.mpr spelledPattern)) (.pure spelledPattern)
    split
    · next same =>
        rw [same] at reversed
        exact .bind (.pure (spells_cons.mp reversed).1) bound
    · exact .bind (.pure (allSpelled_patterns.mpr reversed)) bound

theorem inlineTwins_casePattern (near : left.Near room right) :
    InlineTwins room (casePattern left) (casePattern right) := by
  unfold casePattern
  refine (inlineTwins_sequenceItem near).items.bind fun found spelled => ?_
  split
  · exact .refuse
  · exact .pure (spells_cons.mp spelled.1).1
  · exact .pure (spells_sequence spelled)

end Stencil.Script
