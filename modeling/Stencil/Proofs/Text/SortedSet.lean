import Stencil.Text.Basic

/-! # Texts in dictionary order

The dictionary order is total and transitive, so the texts of a list can be put in order, each of
them once (`Stencil.Text.mem_sortedSet`, `Stencil.Text.nodup_sortedSet`,
`Stencil.Text.pairwise_sortedSet`).
-/

namespace Stencil.Text

variable {texts : List Text} {left right : Text}

theorem precedes_trans : ∀ {left middle right : Text}, precedes left middle = true →
    precedes middle right = true → precedes left right = true
  | [], _, _, _, _ => by rw [precedes]
  | _ :: _, [], _, first, _ => by cases first
  | _ :: _, _ :: _, [], _, second => by cases second
  | left :: lefts, middle :: middles, right :: rights, first, second => by
      rw [precedes] at first second ⊢
      split at first
      · next less =>
          split at second
          · next lessRight => rw [if_pos (Nat.lt_trans less lessRight)]
          split at second
          · cases second
          · next notLess notMore =>
              rw [if_pos (Nat.lt_of_lt_of_le less (Nat.not_lt.mp notMore))]
      split at first
      · cases first
      · next notLess notMore =>
          obtain rfl : left = middle := Nat.le_antisymm (Nat.not_lt.mp notMore) (Nat.not_lt.mp notLess)
          split at second
          · next less => rw [if_pos less]
          split at second
          · cases second
          · next notLessRight notMoreRight =>
              rw [if_neg notLessRight, if_neg notMoreRight]
              exact precedes_trans first second

theorem precedes_total : ∀ left right : Text, (precedes left right || precedes right left) = true
  | [], _ => by rw [precedes, Bool.true_or]
  | _ :: _, [] => by rw [precedes, precedes, Bool.false_or]
  | left :: lefts, right :: rights => by
      rw [precedes, precedes]
      split
      · rw [Bool.true_or]
      split
      · rw [Bool.false_or]
      · exact precedes_total lefts rights

theorem mem_sortedSet : left ∈ sortedSet texts ↔ left ∈ texts := by
  rw [sortedSet, List.mem_mergeSort, List.mem_eraseDups]

theorem nodup_eraseDups (texts : List Text) : texts.eraseDups.Nodup := by
  induction length : texts.length using Nat.strongRecOn generalizing texts with
  | ind count ih =>
      cases texts with
      | nil =>
          rw [List.eraseDups_nil]
          exact List.nodup_nil
      | cons first rest =>
          have shorter : (rest.filter fun other => !other == first).length < count := by
            have := List.length_filter_le (fun other => !other == first) rest
            rw [List.length_cons] at length
            omega
          rw [List.eraseDups_cons, List.nodup_cons, List.mem_eraseDups, List.mem_filter]
          refine ⟨fun member => ?_, ih _ shorter _ rfl⟩
          rw [beq_self_eq_true] at member
          cases member.2

/-- Each text is put in order once. -/
theorem nodup_sortedSet : (sortedSet texts).Nodup :=
  (List.mergeSort_perm _ _).nodup_iff.mpr (nodup_eraseDups texts)

/-- The texts are in dictionary order. -/
theorem pairwise_sortedSet :
    (sortedSet texts).Pairwise fun left right => precedes left right = true :=
  @List.pairwise_mergeSort Text precedes (fun _ _ _ first second => precedes_trans first second)
    precedes_total _

end Stencil.Text
