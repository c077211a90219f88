import Mathlib.Data.List.Perm.Basic
import Mathlib.Data.List.Nodup
import Stencil.Proofs.Run.Store
import Stencil.Run.Call

/-! # Mappings in a run

A dictionary and a mapping that stands for one are read alike (`Stencil.Run.IsMapping`). When entries
are put on top of those of a mapping, a key has the last value that it gets
(`Stencil.Run.lookupKey_mergeEntries`), and entries whose keys differ are found in any order
(`Stencil.Run.lookupKey_perm`).
-/

namespace Stencil.Run

variable {store now : Store} {entries left right : List (Value × Value)} {context key value : Value}
  {name other : Text} {address : Address}

/-- A mapping with some entries: a dictionary, or a mapping that stands for one. -/
inductive IsMapping (store : Store) (entries : List (Value × Value)) : Value → Prop
  | dict {address : Address} {content : Dictionary} (holds : store.object address = .dict content)
      (same : content.entries = entries) : IsMapping store entries (.ref address)
  | proxy {address dict : Address} {content : Dictionary}
      (stands : store.object address = .proxy dict) (holds : store.object dict = .dict content)
      (same : content.entries = entries) : IsMapping store entries (.ref address)

namespace IsMapping

/-- A mapping is the same in every store that has its objects. -/
theorem of_remains (isMapping : IsMapping store entries context) (remains : store.Remains now) :
    IsMapping now entries context := by
  have still {address : Address} {object : Object} (holds : store.object address = object)
      (differs : object ≠ .frame []) : now.object address = object :=
    (remains.object_eq address (Store.lt_size_of_object holds differs)).trans holds
  cases isMapping with
  | dict holds same => exact .dict (still holds nofun) same
  | proxy stands holds same => exact .proxy (still stands nofun) (still holds nofun) same

theorem exists_ref (isMapping : IsMapping store entries context) :
    ∃ address, context = .ref address := by
  cases isMapping with
  | dict _ _ => exact ⟨_, rfl⟩
  | proxy _ _ _ => exact ⟨_, rfl⟩

theorem entries_eq (isMapping : IsMapping store entries (.ref address)) :
    store.entries address = entries := by
  cases isMapping with
  | dict holds same => rw [Store.entries, Store.dictionary, holds, same]
  | proxy stands holds same =>
      rw [Store.entries, Store.dictionary, stands]
      dsimp only
      rw [holds, same]

theorem entriesIn?_eq (isMapping : IsMapping store entries context) :
    context.entriesIn? store = some entries := by
  cases isMapping with
  | dict holds same => rw [Value.entriesIn?, holds, ← (dict holds same).entries_eq]
  | proxy stands holds same =>
      rw [Value.entriesIn?, stands, ← (proxy stands holds same).entries_eq]

/-- What is done alike with a dictionary and with a mapping that stands for one. -/
theorem load_alike (isMapping : IsMapping store entries (.ref address)) {β : Type}
    {next : Object → Action β} {result : EStateM.Result Stop Store β}
    (onDict : ∀ content, next (.dict content) store = result)
    (onProxy : ∀ dict, next (.proxy dict) store = result) : (load address >>= next) store = result := by
  cases isMapping with
  | dict holds _ =>
      have loaded : load address store = .ok _ store := congrArg (EStateM.Result.ok · store) holds
      exact (bind_ok loaded).trans (onDict _)
  | proxy stands _ _ =>
      have loaded : load address store = .ok _ store := congrArg (EStateM.Result.ok · store) stands
      exact (bind_ok loaded).trans (onProxy _)

/-- Whether a mapping has a text as a key. -/
theorem isMember_eq (isMapping : IsMapping store entries context) {engine : Engine} :
    isMember engine (.string name) context store =
      .ok (lookupKey (.string name) entries).isSome store := by
  obtain ⟨address, rfl⟩ := isMapping.exists_ref
  rw [← isMapping.entries_eq]
  exact isMapping.load_alike (fun _ => rfl) fun _ => rfl

theorem elementOf_eq (isMapping : IsMapping store entries context) :
    elementOf context (.string name) store = entryOf entries (.string name) store := by
  obtain ⟨address, rfl⟩ := isMapping.exists_ref
  rw [← isMapping.entries_eq]
  exact isMapping.load_alike (fun _ => rfl) fun _ => rfl

/-- The method of a mapping that gives the value of a key or another one. -/
theorem attributeOf_get (isMapping : IsMapping store entries context) :
    attributeOf context (text "get") store = .ok (.method context (text "get")) store := by
  have got : (get : Action Store) store = .ok store store := rfl
  unfold attributeOf
  rw [bind_ok got]
  cases isMapping with
  | dict holds _ =>
      dsimp only
      rw [Value.fieldIn?, Value.kindIn, holds]
      rfl
  | proxy stands _ _ =>
      dsimp only
      rw [Value.fieldIn?, Value.kindIn, stands]
      rfl

theorem callValue_get (isMapping : IsMapping store entries context) {engine : Engine}
    {usual : Value} :
    callValue engine (.method context (text "get")) [.string name, usual] [] store =
      .ok ((lookupKey (.string name) entries).getD usual) store := by
  obtain ⟨address, rfl⟩ := isMapping.exists_ref
  rw [← isMapping.entries_eq]
  exact isMapping.load_alike (fun _ => rfl) fun _ => rfl

end IsMapping

theorem compareNumbers_string : compareNumbers key (.string name) = none := by
  unfold compareNumbers
  cases key.int? with
  | some _ => rfl
  | none => cases key <;> rfl

theorem string_compareNumbers : compareNumbers (.string name) key = none := by
  unfold compareNumbers
  cases key.int? <;> rfl

/-- Only a text is the same key as a text. -/
theorem sameKey_string : key.sameKey (.string name) = true ↔ key = .string name := by
  constructor
  · intro same
    cases key with
    | string value => exact congrArg Value.string (beq_iff_eq.mp same)
    | _ =>
        simp only [Value.sameKey, compareNumbers_string] at same
        cases same
  · rintro rfl
    exact beq_self_eq_true name

theorem string_sameKey : (Value.string name).sameKey key = true ↔ key = .string name := by
  constructor
  · intro same
    cases key with
    | string value => exact congrArg Value.string (beq_iff_eq.mp same).symm
    | _ =>
        simp only [Value.sameKey, string_compareNumbers] at same
        cases same
  · rintro rfl
    exact beq_self_eq_true name

theorem lookupKey_cons {entry : Value × Value} : lookupKey key (entry :: entries) =
    if entry.1.sameKey key then some entry.2 else lookupKey key entries := by
  rw [lookupKey, List.find?_cons]
  cases entry.1.sameKey key <;> rfl

/-- A key has the value that it gets, and the others keep theirs. -/
theorem lookupKey_insertKey : lookupKey (.string name) (insertKey key value entries) =
    if key.sameKey (.string name) then some value else lookupKey (.string name) entries := by
  induction entries with
  | nil => exact lookupKey_cons
  | cons first others ih =>
      rw [insertKey, lookupKey_cons]
      by_cases isKey : key = .string name
      · subst isKey
        rw [if_pos (sameKey_string.mpr rfl)]
        by_cases isFirst : first.1.sameKey (.string name)
        · rw [if_pos isFirst, lookupKey_cons, if_pos isFirst]
        · rw [if_neg isFirst, lookupKey_cons, if_neg isFirst, ih, if_pos (sameKey_string.mpr rfl)]
      · rw [if_neg (mt sameKey_string.mp isKey)] at ih ⊢
        by_cases isFirst : first.1.sameKey key
        · have other : ¬first.1.sameKey (.string name) = true := fun same =>
            isKey (string_sameKey.mp (sameKey_string.mp same ▸ isFirst))
          rw [if_pos isFirst, lookupKey_cons, if_neg other, if_neg other]
        · rw [if_neg isFirst, lookupKey_cons, ih]

theorem lookupKey_append :
    lookupKey key (left ++ right) = (lookupKey key left).or (lookupKey key right) := by
  unfold lookupKey
  rw [List.find?_append, Option.map_or]

/-- **Entries on top of others count before them**, and of several values for a key the last one
counts. -/
theorem lookupKey_mergeEntries : lookupKey (.string name) (mergeEntries left right) =
    (lookupKey (.string name) right.reverse).or (lookupKey (.string name) left) := by
  unfold mergeEntries
  induction right generalizing left with
  | nil => rfl
  | cons first others ih =>
      rw [List.foldl_cons, ih, lookupKey_insertKey, List.reverse_cons, lookupKey_append, Option.or_assoc,
        lookupKey_cons]
      split <;> rfl

/-- A text among different keys is found with its value, and only so. -/
theorem lookupKey_eq_some (nodup : (entries.map Prod.fst).Nodup) :
    lookupKey (.string name) entries = some value ↔ (.string name, value) ∈ entries := by
  induction entries with
  | nil => exact ⟨nofun, nofun⟩
  | cons first others ih =>
      obtain ⟨absent, nodup⟩ := List.nodup_cons.mp nodup
      rw [lookupKey_cons, List.mem_cons]
      by_cases isFirst : first.1 = .string name
      · rw [if_pos (sameKey_string.mpr isFirst), ← isFirst, Option.some_inj]
        refine ⟨fun same => .inl (same ▸ rfl), fun found => ?_⟩
        rcases found with same | inOthers
        · exact (congrArg Prod.snd same).symm
        · exact (absent (List.mem_map.mpr ⟨_, inOthers, rfl⟩)).elim
      · rw [if_neg (mt sameKey_string.mp isFirst), ih nodup]
        refine ⟨.inr, fun found => found.resolve_left fun same => ?_⟩
        exact isFirst (congrArg Prod.fst same).symm

/-- Entries whose keys differ are found in any order. -/
theorem lookupKey_perm (nodup : (right.map Prod.fst).Nodup) (same : left.Perm right) :
    lookupKey (.string name) left = lookupKey (.string name) right := by
  have nodupLeft : (left.map Prod.fst).Nodup := (same.map Prod.fst).nodup_iff.mpr nodup
  refine Option.ext fun value => ?_
  rw [lookupKey_eq_some nodupLeft, lookupKey_eq_some nodup, same.mem_iff]

/-- **Entries with different keys on top of others count before them.** -/
theorem lookupKey_mergeEntries_of_nodup (nodup : (right.map Prod.fst).Nodup) :
    lookupKey (.string name) (mergeEntries left right) =
      (lookupKey (.string name) right).or (lookupKey (.string name) left) := by
  rw [lookupKey_mergeEntries, lookupKey_perm nodup right.reverse_perm]

theorem mem_keys_insertKey {other : Value}
    (member : other ∈ (insertKey key value entries).map Prod.fst) :
    other = key ∨ other ∈ entries.map Prod.fst := by
  induction entries with
  | nil => exact .inl (List.mem_singleton.mp member)
  | cons first others ih =>
      rw [insertKey] at member
      split at member
      · exact .inr member
      · rcases List.mem_cons.mp member with rfl | later
        · exact .inr List.mem_cons_self
        · exact (ih later).imp_right (List.mem_cons_of_mem _)

theorem nodup_insertKey (isText : key = .string name) (nodup : (entries.map Prod.fst).Nodup) :
    ((insertKey key value entries).map Prod.fst).Nodup := by
  subst isText
  induction entries with
  | nil => exact List.nodup_singleton _
  | cons first others ih =>
      obtain ⟨absent, nodupOthers⟩ := List.nodup_cons.mp nodup
      rw [insertKey]
      split
      case isTrue => exact nodup
      case isFalse differs =>
        refine List.nodup_cons.mpr ⟨fun member => ?_, ih nodupOthers⟩
        rcases mem_keys_insertKey member with same | inOthers
        · exact differs (sameKey_string.mpr same)
        · exact absent inOthers

/-- The keys of merged entries differ. -/
theorem nodup_mergeEntries (areTexts : ∀ entry ∈ right, ∃ key, entry.1 = .string key)
    (nodup : (left.map Prod.fst).Nodup) : ((mergeEntries left right).map Prod.fst).Nodup := by
  unfold mergeEntries
  induction right generalizing left with
  | nil => exact nodup
  | cons first others ih =>
      obtain ⟨⟨key, isText⟩, areTexts⟩ := List.forall_mem_cons.mp areTexts
      exact ih areTexts (nodup_insertKey isText nodup)

end Stencil.Run
