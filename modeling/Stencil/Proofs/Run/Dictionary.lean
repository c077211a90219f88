import Stencil.Run.Comparison

/-! # Slots of dictionaries

Every entry of a dictionary has a slot of its own, in the order of the entries
(`Stencil.Run.Dictionary.IsSound`). A dictionary that is made of entries is sound, and so it stays
when entries come, go and are copied.
-/

namespace Stencil.Run

/-- The slots are in order and come before the next one. -/
structure Slots.IsOrdered (slots : Slots) : Prop where
  sorted : slots.taken.Pairwise (· < ·)
  lt_next : ∀ slot ∈ slots.taken, slot < slots.next

/-- Every entry of a dictionary has a slot of its own, in the order of the entries. -/
structure Dictionary.IsSound (content : Dictionary) : Prop where
  length_eq : content.slots.taken.length = content.entries.length
  ordered : content.slots.IsOrdered

namespace Slots

variable {slots : Slots}

theorem isOrdered_range {count free : Nat} : (Slots.mk (List.range count) count free).IsOrdered :=
  ⟨List.pairwise_lt_range, fun _ member => List.mem_range.mp member⟩

/-- A slot for a new entry comes behind the others. -/
theorem IsOrdered.push (ordered : slots.IsOrdered) : slots.push.IsOrdered := by
  have before : (if slots.free = 0 then slots.renewed else slots).IsOrdered := by
    by_cases isFull : slots.free = 0
    · rw [if_pos isFull]
      exact isOrdered_range
    · rw [if_neg isFull]
      exact ordered
  rw [Slots.push]
  generalize (if slots.free = 0 then slots.renewed else slots) = earlier at before
  constructor
  case sorted =>
    refine List.pairwise_append.mpr ⟨before.sorted, List.pairwise_singleton _ _, ?_⟩
    intro slot member next isNext
    rw [List.mem_singleton.mp isNext]
    exact before.lt_next slot member
  case lt_next =>
    intro slot member
    rcases List.mem_append.mp member with isEarlier | isNext
    · exact Nat.lt_succ_of_lt (before.lt_next slot isEarlier)
    · rw [List.mem_singleton.mp isNext]
      exact Nat.lt_succ_self _

theorem IsOrdered.eraseAt (ordered : slots.IsOrdered) (place : Nat) :
    (slots.eraseAt place).IsOrdered where
  sorted := ordered.sorted.sublist (List.eraseIdx_sublist slots.taken place)
  lt_next slot member :=
    ordered.lt_next slot ((List.eraseIdx_sublist slots.taken place).subset member)

/-- The last slot comes behind the others, so it may be the next one. -/
theorem IsOrdered.dropLast (ordered : slots.IsOrdered) : slots.dropLast.IsOrdered := by
  constructor
  case sorted => exact ordered.sorted.sublist (List.dropLast_sublist slots.taken)
  case lt_next =>
    intro slot member
    have sorted := ordered.sorted
    change slot ∈ slots.taken.dropLast at member
    change slot < slots.taken.getLastD slots.next
    rcases List.eq_nil_or_concat slots.taken with empty | ⟨others, last, taken⟩
    · rw [empty] at member
      cases member
    · rw [taken, List.concat_eq_append] at sorted member ⊢
      rw [List.dropLast_concat] at member
      rw [List.getLastD_concat]
      exact (List.pairwise_append.mp sorted).2.2 slot member last List.mem_cons_self

end Slots

/-- A key brings one entry more unless it is there already. -/
theorem length_insertKey (key value : Value) (entries : List (Value × Value)) :
    (insertKey key value entries).length = entries.length ∨
      (insertKey key value entries).length = entries.length + 1 := by
  induction entries with
  | nil => exact .inr rfl
  | cons first others ih =>
      rw [insertKey]
      by_cases isSame : first.1.sameKey key
      · rw [if_pos isSame]
        exact .inl rfl
      · rw [if_neg isSame, List.length_cons, List.length_cons]
        omega

namespace Dictionary

variable {content : Dictionary}

theorem isSound_ofEntries {entries : List (Value × Value)} : (ofEntries entries).IsSound :=
  ⟨List.length_range, Slots.isOrdered_range⟩

/-- A dictionary stays sound with a value for a key. -/
theorem IsSound.insert (sound : content.IsSound) (key value : Value) :
    (content.insert key value).IsSound := by
  rw [Dictionary.insert]
  rcases length_insertKey key value content.entries with same | more
  · rw [if_pos same]
    exact ⟨sound.length_eq.trans same.symm, sound.ordered⟩
  · rw [if_neg (by omega)]
    refine ⟨?_, sound.ordered.push⟩
    change content.slots.push.taken.length = (insertKey key value content.entries).length
    rw [Slots.length_taken_push, sound.length_eq, more]

theorem IsSound.erase (sound : content.IsSound) (key : Value) : (content.erase key).IsSound := by
  rw [Dictionary.erase]
  cases found : content.entries.findIdx? fun entry => entry.1.sameKey key with
  | none => exact sound
  | some place =>
      refine ⟨?_, sound.ordered.eraseAt place⟩
      change (content.slots.taken.eraseIdx place).length = (content.entries.eraseIdx place).length
      rw [List.length_eraseIdx, List.length_eraseIdx, sound.length_eq]

theorem IsSound.dropLast (sound : content.IsSound) : content.dropLast.IsSound := by
  refine ⟨?_, sound.ordered.dropLast⟩
  change content.slots.taken.dropLast.length = content.entries.dropLast.length
  rw [List.length_dropLast, List.length_dropLast, sound.length_eq]

theorem IsSound.merge (sound : content.IsSound) (others : List (Value × Value)) :
    (content.merge others).IsSound := by
  rw [Dictionary.merge]
  induction others generalizing content with
  | nil => exact sound
  | cons first others ih => exact ih (sound.insert first.1 first.2)

/-- A copy of a dictionary is sound. -/
theorem IsSound.copy (sound : content.IsSound) : content.copy.IsSound := by
  rw [Dictionary.copy]
  by_cases isFew : content.slots.next * 2 / 3 ≤ content.entries.length
  · rw [if_pos isFew]
    exact sound
  · rw [if_neg isFew]
    exact isSound_ofEntries

end Dictionary

end Stencil.Run
