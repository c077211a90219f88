import Stencil.Proofs.Reach.Iteration
import Stencil.Run.Arguments
import Stencil.Run.Sorting

/-! # Collections outside a fence

What is picked from a collection outside is outside, and what is put into one leaves the fence as it
is when it is outside. The same holds for sorted values and for arguments that are bound to
parameters.
-/

namespace Stencil.Run

open Script

variable {fence : Fence} {engine : Engine} {value index : Value}

/-- The picked items are among the items. -/
theorem mem_of_mem_pick {α : Type} {selection : Selection} {items : List α} {item : α}
    (member : item ∈ selection.pick items) : item ∈ items := by
  rw [Selection.pick] at member
  split at member
  · exact List.mem_of_mem_drop (List.mem_of_mem_take member)
  · obtain ⟨place, -, found⟩ := List.mem_filterMap.mp member
    exact List.mem_toArray.mp (Array.mem_of_getElem? found)

theorem mem_of_mem_withoutPlaces {places : List Nat} {items : Array Value} {item : Value}
    (member : item ∈ (withoutPlaces places items).toList) : item ∈ items.toList := by
  rw [withoutPlaces] at member
  obtain ⟨entry, inItems, rfl⟩ := List.mem_map.mp member
  exact List.fst_mem_of_mem_zipIdx (List.mem_filter.mp inItems).1

theorem mem_of_mem_setIfInBounds {items : Array Value} {place : Nat} {new item : Value}
    (member : item ∈ (items.setIfInBounds place new).toList) : item = new ∨ item ∈ items.toList := by
  rw [Array.toList_setIfInBounds] at member
  exact (List.mem_or_eq_of_mem_set member).symm

/-- The value that a mapping has for a key is one of its values. -/
theorem isOutside_lookupKey {key : Value} {entries : List (Value × Value)}
    (outside : EntriesOutside fence entries) : MaybeOutside fence (lookupKey key entries) := by
  intro value found
  rw [lookupKey] at found
  obtain ⟨entry, isFound, rfl⟩ := Option.map_eq_some_iff.mp found
  exact (outside entry (List.mem_of_find?_eq_some isFound)).2

theorem entriesOutside_insertKey {key : Value} {entries : List (Value × Value)}
    (outside : EntriesOutside fence entries) (keyOutside : key.IsOutside fence)
    (valueOutside : value.IsOutside fence) :
    EntriesOutside fence (insertKey key value entries) := by
  induction entries with
  | nil => exact List.forall_mem_singleton.mpr ⟨keyOutside, valueOutside⟩
  | cons first rest ih =>
      obtain ⟨firstOutside, restOutside⟩ := List.forall_mem_cons.mp outside
      rw [insertKey]
      split
      · exact List.forall_mem_cons.mpr ⟨⟨firstOutside.1, valueOutside⟩, restOutside⟩
      · exact List.forall_mem_cons.mpr ⟨firstOutside, ih restOutside⟩

theorem entriesOutside_merge {others : List (Value × Value)} {content : Dictionary}
    (outside : EntriesOutside fence content.entries) (othersOutside : EntriesOutside fence others) :
    EntriesOutside fence (content.merge others).entries := by
  rw [Dictionary.merge]
  induction others generalizing content with
  | nil => exact outside
  | cons first rest ih =>
      obtain ⟨firstOutside, restOutside⟩ := List.forall_mem_cons.mp othersOutside
      exact ih (entriesOutside_insertKey outside firstOutside.1 firstOutside.2) restOutside

theorem entriesOutside_mergeEntries {left right : List (Value × Value)}
    (leftOutside : EntriesOutside fence left) (rightOutside : EntriesOutside fence right) :
    EntriesOutside fence (mergeEntries left right) := by
  rw [mergeEntries]
  induction right generalizing left with
  | nil => exact leftOutside
  | cons first rest ih =>
      obtain ⟨firstOutside, restOutside⟩ := List.forall_mem_cons.mp rightOutside
      exact ih (entriesOutside_insertKey leftOutside firstOutside.1 firstOutside.2) restOutside

theorem entriesOutside_erase {key : Value} {content : Dictionary}
    (outside : EntriesOutside fence content.entries) :
    EntriesOutside fence (content.erase key).entries := by
  rw [Dictionary.erase]
  split
  · exact fun entry member => outside entry (List.mem_of_mem_eraseIdx member)
  · exact outside

/-- Named values become entries outside. -/
theorem entriesOutside_named {named : List (Name × Value)} (outside : NamedOutside fence named) :
    EntriesOutside fence (named.map fun entry => (.string entry.1, entry.2)) := by
  intro entry member
  obtain ⟨given, isGiven, rfl⟩ := List.mem_map.mp member
  exact ⟨.string _, outside given isGiven⟩

theorem sparesAll_placeOf {wrong : Kind → Complaint} {outside : Complaint} {length : Nat} :
    SparesAll fence (placeOf wrong outside length index) := by
  rw [placeOf]
  split
  · exact spares_complainOf
  · refine .ite (fun _ => spares_complainOf) fun _ => ?_
    exact .ite (fun _ => .pure trivial) fun _ => spares_complain

/-- Picked items are among the items. -/
theorem spares_pickItem {α : Type} {wrong : Kind → Complaint} {outside : Complaint}
    {items : List α} :
    Spares fence (fun picked : Except α (List α) => match picked with
      | .ok several => ∀ item ∈ several, item ∈ items
      | .error item => item ∈ items) (do
        match items[← placeOf wrong outside items.length index]? with
        | some item => return .error item
        | none => complain outside) := by
  refine sparesAll_placeOf.bind fun place _ => ?_
  cases found : items[place]? with
  | some item => exact .pure (List.mem_of_getElem? found)
  | none => exact spares_complain

theorem spares_pickItems {α : Type} {wrong : Kind → Complaint} {outside : Complaint}
    {items : List α} :
    Spares fence (fun picked => match picked with
      | .ok several => ∀ item ∈ several, item ∈ items
      | .error item => item ∈ items) (pickItems wrong outside items index) := by
  cases index with
  | slice lower upper step =>
      refine (spares_settle fun _ _ => trivial).bind fun selection _ => ?_
      exact .pure fun item member => mem_of_mem_pick member
  | _ => exact spares_pickItem

theorem spares_entryOf {entries : List (Value × Value)} (outside : EntriesOutside fence entries)
    (indexOutside : index.IsOutside fence) :
    Spares fence (Value.IsOutside fence) (entryOf entries index) := by
  refine spares_requireKey.andThen ?_
  cases found : lookupKey index entries with
  | some value => exact .pure (isOutside_lookupKey outside value found)
  | none => exact spares_missingKey indexOutside

theorem spares_rangeElement {start stop step : Int} :
    Spares fence (Value.IsOutside fence) (rangeElement start stop step index) := by
  unfold rangeElement
  dsimp only
  split
  · exact (spares_settle fun _ _ => trivial).bind fun selection _ => .pure (.range _ _ _)
  · split
    · exact spares_complainOf
    · exact .ite (fun _ => .pure (.int _)) fun _ => spares_complain

/-- An element of a collection outside is outside. -/
theorem spares_listItem {items : Array Value} {wrong : Kind → Complaint} {outside : Complaint}
    (itemsOutside : AreOutside fence items.toList) :
    Spares fence (Value.IsOutside fence) (do
      match items[← placeOf wrong outside items.size index]? with
      | some item => return item
      | none => complain outside) := by
  refine sparesAll_placeOf.bind fun place _ => ?_
  cases found : items[place]? with
  | some item => exact .pure (itemsOutside item (Array.mem_def.mp (Array.mem_of_getElem? found)))
  | none => exact spares_complain

theorem spares_elementOf {container : Value} (outside : container.IsOutside fence)
    (indexOutside : index.IsOutside fence) :
    Spares fence (Value.IsOutside fence) (elementOf container index) := by
  cases outside with
  | string value =>
      refine spares_pickItems.bind fun picked _ => ?_
      cases picked <;> exact .pure (.string _)
  | bytes value =>
      refine spares_pickItems.bind fun picked _ => ?_
      cases picked with
      | ok values => exact .pure (.bytes values)
      | error byte => exact .pure (.int byte)
  | tuple parts =>
      refine spares_pickItems.bind fun picked inside => ?_
      cases picked with
      | ok items => exact .pure (.tuple fun item member => parts item (inside item member))
      | error item => exact .pure (parts item inside)
  | range start stop step => exact spares_rangeElement
  | ofKind kind =>
      unfold elementOf
      dsimp only
      split
      all_goals first
        | exact spares_unsupported
        | exact spares_complain
  | ref isOpen =>
      refine (spares_load isOpen).bind fun object objectOutside => ?_
      cases objectOutside with
      | @list items itemsOutside =>
          cases index with
          | slice lower upper step =>
              refine (spares_settle fun _ _ => trivial).bind fun selection _ => ?_
              exact spares_newList fun item member => itemsOutside item (mem_of_mem_pick member)
          | _ => exact spares_listItem itemsOutside
      | dict _ =>
          exact (spares_entriesOf isOpen).bind fun entries entriesOutside =>
            spares_entryOf entriesOutside indexOutside
      | proxy _ =>
          exact (spares_entriesOf isOpen).bind fun entries entriesOutside =>
            spares_entryOf entriesOutside indexOutside
      | _ => exact spares_complainOf
  | _ => exact spares_complainOf

theorem spares_collectOr (sound : engine.Spares fence) {complaint : Complaint}
    (outside : value.IsOutside fence) :
    Spares fence (AreOutside fence) (collectOr engine complaint value) := by
  refine (spares_iterator? outside).bind fun found isOutside => ?_
  cases found with
  | none => exact spares_complain
  | some iterator => exact (spares_drainAll sound (isOutside iterator rfl)).map fun _ => id

theorem spares_replaceSelected {selection : Selection} {values : List Value} {items : Array Value}
    (valuesOutside : AreOutside fence values) (outside : AreOutside fence items.toList) :
    Spares fence (fun items => AreOutside fence items.toList)
      (replaceSelected selection values items) := by
  refine .ite (fun _ => .pure ?_) fun _ => .ite (fun _ => spares_complain) fun _ => .pure ?_
  · refine areOutside_append.mpr ⟨areOutside_append.mpr ⟨?_, valuesOutside⟩, ?_⟩
    · exact fun item member => outside item (List.mem_of_mem_take member)
    · exact fun item member => outside item (List.mem_of_mem_drop member)
  · have entries : ∀ entry ∈ selection.places.zip values, entry.2.IsOutside fence :=
      fun entry member => valuesOutside entry.2 (List.of_mem_zip member).2
    generalize selection.places.zip values = changes at entries
    induction changes generalizing items with
    | nil => exact outside
    | cons first rest ih =>
        obtain ⟨firstOutside, restOutside⟩ := List.forall_mem_cons.mp entries
        refine ih (fun item member => ?_) restOutside
        rcases mem_of_mem_setIfInBounds member with rfl | inItems
        · exact firstOutside
        · exact outside item inItems

/-- A value outside may become an element of a collection outside. -/
theorem spares_assignElement (sound : engine.Spares fence) {container : Value}
    (outside : container.IsOutside fence) (indexOutside : index.IsOutside fence)
    (valueOutside : value.IsOutside fence) :
    SparesAll fence (assignElement engine container index value) := by
  cases outside with
  | @ref address isOpen =>
      refine (spares_load isOpen).bind fun object objectOutside => ?_
      cases objectOutside with
      | @list items itemsOutside =>
          have single : SparesAll fence (do
              let place ← placeOf (.indexKind "list") (.indexRange "list assignment") items.size index
              save address (.list (items.setIfInBounds place value))) := by
            refine sparesAll_placeOf.bind fun place _ => ?_
            refine spares_save isOpen (.list fun item member => ?_)
            rcases mem_of_mem_setIfInBounds member with rfl | inItems
            · exact valueOutside
            · exact itemsOutside item inItems
          cases index with
          | slice lower upper step =>
              refine (spares_settle fun _ _ => trivial).bind fun selection _ => ?_
              refine (spares_collectOr sound valueOutside).bind fun values valuesOutside => ?_
              refine (spares_replaceSelected valuesOutside itemsOutside).bind fun changed isOutside => ?_
              exact spares_save isOpen (.list isOutside)
          | _ => exact single
      | dict entriesOutside =>
          refine spares_requireKey.andThen (spares_save isOpen (.dict ?_))
          exact entriesOutside_insertKey entriesOutside indexOutside valueOutside
      | _ => exact spares_complainOf
  | _ => exact spares_complainOf

theorem spares_deleteElement {container : Value} (outside : container.IsOutside fence)
    (indexOutside : index.IsOutside fence) : SparesAll fence (deleteElement container index) := by
  cases outside with
  | @ref address isOpen =>
      refine (spares_load isOpen).bind fun object objectOutside => ?_
      cases objectOutside with
      | @list items itemsOutside =>
          have without (places : List Nat) :
              Object.IsOutside fence (.list (withoutPlaces places items)) :=
            .list fun item member => itemsOutside item (mem_of_mem_withoutPlaces member)
          have single : SparesAll fence (do
              let place ← placeOf (.indexKind "list") (.indexRange "list assignment") items.size index
              save address (.list (withoutPlaces [place] items))) :=
            sparesAll_placeOf.bind fun place _ => spares_save isOpen (without [place])
          cases index with
          | slice lower upper step =>
              refine (spares_settle fun _ _ => trivial).bind fun selection _ => ?_
              exact spares_save isOpen (without selection.places)
          | _ => exact single
      | dict entriesOutside =>
          refine spares_requireKey.andThen (.ite (fun _ => ?_) fun _ => spares_missingKey indexOutside)
          exact spares_save isOpen (.dict (entriesOutside_erase entriesOutside))
      | _ => exact spares_complainOf
  | _ => exact spares_complainOf

/-- Keyed values with values outside. -/
abbrev KeyedOutside (fence : Fence) (values : List Keyed) : Prop :=
  ∀ keyed ∈ values, keyed.value.IsOutside fence

theorem spares_takeRun {descends : Bool} {previous : Keyed} {values : List Keyed}
    (outside : KeyedOutside fence values) :
    Spares fence (fun found => KeyedOutside fence found.1 ∧ KeyedOutside fence found.2)
      (Keyed.takeRun descends previous values) := by
  induction values generalizing previous with
  | nil => exact .pure ⟨nofun, nofun⟩
  | cons next rest ih =>
      obtain ⟨nextOutside, restOutside⟩ := List.forall_mem_cons.mp outside
      refine spares_areOrdered.bind fun precedes _ => ?_
      refine .ite (fun _ => ?_) fun _ => .pure ⟨nofun, outside⟩
      exact (ih restOutside).bind fun found isOutside =>
        .pure ⟨List.forall_mem_cons.mpr ⟨nextOutside, isOutside.1⟩, isOutside.2⟩

theorem spares_placeIn {sorted : Array Keyed} {pivot : Keyed} {low high : Nat} :
    SparesAll fence (Keyed.placeIn sorted pivot low high) := by
  fun_induction Keyed.placeIn sorted pivot low high with
  | case1 low high inside middle below above =>
      exact spares_areOrdered.bind fun _ _ => .ite (fun _ => below) fun _ => above
  | case2 => exact .pure trivial

theorem spares_insertAll {sorted : Array Keyed} {values : List Keyed}
    (sortedOutside : KeyedOutside fence sorted.toList) (outside : KeyedOutside fence values) :
    Spares fence (fun sorted => KeyedOutside fence sorted.toList) (Keyed.insertAll sorted values) := by
  induction values generalizing sorted with
  | nil => exact .pure sortedOutside
  | cons pivot rest ih =>
      obtain ⟨pivotOutside, restOutside⟩ := List.forall_mem_cons.mp outside
      refine spares_placeIn.bind fun place _ => ih (fun keyed member => ?_) restOutside
      rw [Array.insertIdxIfInBounds] at member
      split at member
      · rcases Array.mem_insertIdx.mp (Array.mem_def.mpr member) with rfl | inSorted
        · exact pivotOutside
        · exact sortedOutside keyed (Array.mem_def.mp inSorted)
      · exact sortedOutside keyed member

theorem spares_sort {values : List Keyed} (outside : KeyedOutside fence values) :
    Spares fence (KeyedOutside fence) (Keyed.sort values) := by
  unfold Keyed.sort
  split
  case h_1 => exact .pure nofun
  case h_2 => exact .pure outside
  case h_3 first second rest =>
    obtain ⟨firstOutside, others⟩ := List.forall_mem_cons.mp outside
    obtain ⟨secondOutside, restOutside⟩ := List.forall_mem_cons.mp others
    refine spares_areOrdered.bind fun descends _ => ?_
    refine (spares_takeRun restOutside).bind fun found foundOutside => ?_
    have run : KeyedOutside fence (first :: second :: found.1) :=
      List.forall_mem_cons.mpr ⟨firstOutside, List.forall_mem_cons.mpr ⟨secondOutside, foundOutside.1⟩⟩
    refine (spares_insertAll ?_ foundOutside.2).map fun _ => id
    split
    · exact fun keyed member => run keyed (List.mem_reverse.mp member)
    · exact run

theorem spares_withKeys (sound : engine.Spares fence) {key : Value} (keyOutside : key.IsOutside fence)
    {values : List Value} (outside : AreOutside fence values) :
    Spares fence (KeyedOutside fence) (withKeys engine key values) := by
  induction values with
  | nil => exact .pure nofun
  | cons first rest ih =>
      obtain ⟨firstOutside, restOutside⟩ := areOutside_cons.mp outside
      have keyed (found : Value) : Spares fence (KeyedOutside fence) (do
          return ⟨found, first⟩ :: (← withKeys engine key rest)) :=
        (ih restOutside).bind fun others othersOutside =>
          .pure (List.forall_mem_cons.mpr ⟨firstOutside, othersOutside⟩)
      have itself : SparesAll fence (pure first : Action Value) := .pure trivial
      refine .ite (fun _ => itself.bind fun found _ => keyed found) fun _ => ?_
      exact (sound.call keyOutside (areOutside_singleton.mpr firstOutside) namedOutside_nil).bind
        fun found _ => keyed found

/-- Sorted values are the same values. -/
theorem spares_sortValues (sound : engine.Spares fence) {key : Value}
    (keyOutside : key.IsOutside fence) {isReversed : Bool} {values : List Value}
    (outside : AreOutside fence values) :
    Spares fence (AreOutside fence) (sortValues engine key isReversed values) := by
  refine (spares_withKeys sound keyOutside outside).bind fun keyed keyedOutside => ?_
  have reversed {values : List Keyed} (outside : KeyedOutside fence values) :
      KeyedOutside fence (if isReversed then values.reverse else values) := by
    split
    · exact fun keyed member => outside keyed (List.mem_reverse.mp member)
    · exact outside
  refine (spares_sort (reversed keyedOutside)).bind fun sorted sortedOutside => .pure ?_
  intro value member
  obtain ⟨keyed, inSorted, rfl⟩ := List.mem_map.mp member
  exact reversed sortedOutside keyed inSorted

variable {arguments : Arguments} {callee : Text}

/-- Arguments outside. -/
structure Arguments.AreOutside (fence : Fence) (arguments : Arguments) : Prop where
  positional : Run.AreOutside fence arguments.positional
  named : NamedOutside fence arguments.named

/-- The arguments that parameters get, as far as they get one, are outside. -/
abbrev BoundOutside (fence : Fence) (bound : List (Option Value)) : Prop :=
  ∀ found ∈ bound, MaybeOutside fence found

namespace Signature

variable {signature : Signature}

theorem spares_bindNamed {named : List (Name × Value)} {given : List Value}
    (namedOutside : NamedOutside fence named) (givenOutside : AreOutside fence given)
    (position : Nat) (names : List String) :
    Spares fence (BoundOutside fence) (signature.bindNamed named given position names) := by
  induction names generalizing position with
  | nil => exact .pure nofun
  | cons name names ih =>
      have found : MaybeOutside fence
          (if position ≤ given.length then given[position - 1]? else named.lookup (text name)) := by
        split
        · exact maybeOutside_getElem givenOutside (position - 1)
        · exact maybeOutside_lookup namedOutside
      refine .ite (fun _ => spares_complain) fun _ => ?_
      exact (ih (position + 1)).bind fun others othersOutside =>
        .pure (List.forall_mem_cons.mpr ⟨found, othersOutside⟩)

theorem spares_bind (outside : arguments.AreOutside fence) :
    Spares fence (BoundOutside fence) (signature.bind arguments) := by
  refine .ite (fun _ => spares_complain) fun _ => .ite (fun _ => spares_complain) fun _ => ?_
  refine .ite (fun _ => spares_complain) fun _ => ?_
  refine (spares_bindNamed outside.named outside.positional _ _).bind fun others othersOutside => ?_
  dsimp only
  split
  · exact spares_complain
  · refine .pure (List.forall_mem_append.mpr ⟨fun found member => ?_, othersOutside⟩)
    obtain ⟨place, -, rfl⟩ := List.mem_map.mp member
    exact maybeOutside_getElem outside.positional place

end Signature

theorem sparesAll_wholeArgument : SparesAll fence (wholeArgument value) := by
  rw [wholeArgument]
  split
  · exact .pure trivial
  · exact spares_complainOf

/-- The argument of a parameter, or nothing. -/
theorem isOutside_argument {bound : List (Option Value)} (outside : BoundOutside fence bound)
    (place : Nat) {usual : Value} (usualOutside : usual.IsOutside fence) :
    (((bound[place]?).getD none).getD usual).IsOutside fence := by
  refine isOutside_getD ?_ usualOutside
  cases found : bound[place]? with
  | none => exact maybeOutside_none
  | some argument => exact outside argument (List.mem_of_getElem? found)

end Stencil.Run
