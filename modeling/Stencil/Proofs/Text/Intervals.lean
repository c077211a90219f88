import Stencil.Text.Identifier
import Stencil.Text.Quoted

/-! # Sets of code points that share nothing

Intervals in ascending order are compared with others in one pass along both lists
(`Stencil.Intervals.areApart`). Every code point of an identifier is printable
(`Stencil.CodePoint.isPrintable_of_isIdentifierPart`).
-/

namespace Stencil

namespace Intervals

variable {floor point : Nat} {left right : Intervals}

/-- The intervals lie one behind the other above a floor. -/
def ascend (floor : Nat) : Intervals → Bool
  | [] => true
  | (first, last) :: rest =>
      Nat.blt floor first && Nat.ble first last && ascend last rest

/-- No interval of one list meets one of another; both ascend, and the pass along them ends
within a number of steps. -/
def areApart : Nat → Intervals → Intervals → Bool
  | _, [], _ => true
  | _, _ :: _, [] => true
  | 0, _ :: _, _ :: _ => false
  | steps + 1, (start, last) :: firsts, (first, stop) :: seconds =>
      if Nat.blt last first then areApart steps firsts ((first, stop) :: seconds)
      else Nat.blt stop start && areApart steps ((start, last) :: firsts) seconds

theorem has_cons {first last : Nat} :
    has ((first, last) :: left) point = true ↔
      (first ≤ point ∧ point ≤ last) ∨ has left point = true := by
  simp only [has, List.any_cons, Bool.or_eq_true, Bool.and_eq_true, decide_eq_true_eq]

theorem ascend_cons {first last : Nat} :
    ascend floor ((first, last) :: left) = true ↔
      (floor < first ∧ first ≤ last) ∧ ascend last left = true := by
  rw [ascend, Bool.and_eq_true, Bool.and_eq_true, Nat.blt_eq, Nat.ble_eq]

theorem lt_of_has (ascends : ascend floor left = true) (inside : has left point = true) :
    floor < point := by
  induction left generalizing floor with
  | nil => cases inside
  | cons interval rest ih =>
      obtain ⟨first, last⟩ := interval
      obtain ⟨here, behind⟩ := ascend_cons.mp ascends
      rcases has_cons.mp inside with found | later
      · exact Nat.lt_of_lt_of_le here.1 found.1
      · exact Nat.lt_trans (Nat.lt_of_lt_of_le here.1 here.2) (ih behind later)

/-- Lists that are apart share no code point. -/
theorem not_has_of_areApart {steps lower : Nat} (ascendsLeft : ascend floor left = true)
    (ascendsRight : ascend lower right = true) (apart : areApart steps left right = true)
    (inside : has left point = true) : has right point ≠ true := by
  induction steps generalizing floor lower left right with
  | zero =>
      cases left with
      | nil => cases inside
      | cons first firsts =>
          cases right with
          | nil => exact Bool.false_ne_true
          | cons second seconds => cases apart
  | succ steps ih =>
      obtain _ | ⟨⟨start, last⟩, firsts⟩ := left
      · cases inside
      obtain _ | ⟨⟨first, stop⟩, seconds⟩ := right
      · exact Bool.false_ne_true
      have behindLeft := (ascend_cons.mp ascendsLeft).2
      have behindRight := (ascend_cons.mp ascendsRight).2
      rw [areApart] at apart
      split at apart
      · next before =>
          rcases has_cons.mp inside with here | later
          · -- The first interval ends before all of the other list.
            intro meets
            have ends := Nat.lt_of_le_of_lt here.2 (Nat.blt_eq.mp before)
            rcases has_cons.mp meets with same | behind
            · exact Nat.not_le_of_lt ends same.1
            · have above := lt_of_has behindRight behind
              have ordered := (ascend_cons.mp ascendsRight).1.2
              exact Nat.lt_asymm (Nat.lt_of_lt_of_le ends ordered) above
          · exact ih behindLeft ascendsRight apart later
      · obtain ⟨before, apart⟩ := Bool.and_eq_true_iff.mp apart
        intro meets
        rcases has_cons.mp meets with same | later
        · have ends := Nat.lt_of_le_of_lt same.2 (Nat.blt_eq.mp before)
          rcases has_cons.mp inside with here | beyond
          · exact Nat.not_le_of_lt ends here.1
          · have above := lt_of_has behindLeft beyond
            have ordered := (ascend_cons.mp ascendsLeft).1.2
            exact Nat.lt_asymm (Nat.lt_of_lt_of_le ends ordered) above
        · exact ih ascendsLeft behindRight apart inside later

end Intervals

namespace CodePoint

/-- A code point above ASCII of a set that shares nothing with the unprintable ones. -/
theorem isPrintable_of_has {point : CodePoint} {intervals : Intervals}
    (large : ¬point < 128) (ascends : intervals.ascend 127 = true)
    (apart : Intervals.areApart 1500 intervals unprintableIntervals = true)
    (inside : intervals.has point = true) : point.isPrintable = true := by
  have others : Intervals.ascend 127 unprintableIntervals = true := by decide +kernel
  rw [isPrintable, if_neg large, Bool.not_eq_true', Bool.eq_false_iff]
  exact Intervals.not_has_of_areApart ascends others apart inside

theorem isPrintable_of_isIdentifierPart {point : CodePoint}
    (isPart : point.isIdentifierPart = true) : point.isPrintable = true := by
  unfold isIdentifierPart at isPart
  split at isPart
  · next small =>
      have range : ∀ number : Nat,
          ((97 ≤ number ∧ number ≤ 122 ∨ 65 ≤ number ∧ number ≤ 90) ∨
            48 ≤ number ∧ number ≤ 57) ∨ number = 95 → 32 ≤ number ∧ number < 127 := by
        omega
      simp only [isLetter, isSmallLetter, isCapitalLetter, isDigit, Bool.or_eq_true,
        Bool.and_eq_true, decide_eq_true_eq, beq_iff_eq] at isPart
      rw [isPrintable, if_pos small, Bool.and_eq_true, decide_eq_true_eq, decide_eq_true_eq]
      exact range _ isPart
  · next large =>
      exact isPrintable_of_has large (by decide +kernel) (by decide +kernel) isPart

theorem isPrintable_of_isIdentifierStart {point : CodePoint}
    (isStart : point.isIdentifierStart = true) : point.isPrintable = true := by
  unfold isIdentifierStart at isStart
  split at isStart
  · next small =>
      apply isPrintable_of_isIdentifierPart
      rw [Bool.or_eq_true] at isStart
      rw [isIdentifierPart, if_pos small, Bool.or_eq_true, Bool.or_eq_true]
      exact isStart.imp_left .inl
  · next large =>
      exact isPrintable_of_has large (by decide +kernel) (by decide +kernel) isStart

end CodePoint

end Stencil
