import Stencil.Proofs.Run.Dictionary
import Stencil.Run.Subscript

/-! # Data in a store

Data are values without behaviour: nothing, truth values, whole numbers, texts, and tuples, lists
and dictionaries of data (`Stencil.Run.IsData`). Lists and dictionaries lie in a region of the
store that is closed under taking parts (`Stencil.Run.Store.IsDataRegion`), so they may contain
each other and themselves. What data look like as text and whether they count as true is the same
in every store that has the same objects in the region.
-/

namespace Stencil.Run

/-- A value without behaviour whose lists and dictionaries lie in a region of the store. -/
inductive IsData (region : Address → Prop) : Value → Prop
  | nothing : IsData region .nothing
  | bool (value : Bool) : IsData region (.bool value)
  | int (value : Int) : IsData region (.int value)
  | string (value : Text) : IsData region (.string value)
  | tuple {items : List Value} (parts : ∀ item ∈ items, IsData region item) :
      IsData region (.tuple items)
  | ref {address : Address} (inside : region address) : IsData region (.ref address)

/-- A list or a dictionary of data. -/
inductive Object.IsData (region : Address → Prop) : Object → Prop
  | list {items : Array Value} (parts : ∀ item ∈ items.toList, Run.IsData region item) :
      Object.IsData region (.list items)
  | dict {content : Dictionary} (sound : content.IsSound)
      (parts : ∀ entry ∈ content.entries, Run.IsData region entry.1 ∧ Run.IsData region entry.2) :
      Object.IsData region (.dict content)

/-- A region of the store that holds lists and dictionaries of data. -/
structure Store.IsDataRegion (store : Store) (region : Address → Prop) : Prop where
  lt_size : ∀ address, region address → address < store.objects.size
  isData : ∀ address, region address → (store.object address).IsData region

variable {store now : Store} {region : Address → Prop}

theorem mapM_congr {α β : Type} {left right : α → Except Complaint β} {items : List α}
    (same : ∀ item ∈ items, left item = right item) : items.mapM left = items.mapM right := by
  induction items with
  | nil => rfl
  | cons first others ih =>
      rw [List.mapM_cons, List.mapM_cons, same first List.mem_cons_self,
        ih fun item member => same item (List.mem_cons_of_mem first member)]

/-- **Data look the same in stores that have the same objects in their region.** -/
theorem displayIn_congr (isRegion : store.IsDataRegion region)
    (same : ∀ address, region address → now.object address = store.object address)
    (depth : Nat) (active : List Address) {value : Value} (data : IsData region value) :
    value.displayIn now depth active = value.displayIn store depth active := by
  induction depth generalizing active value with
  | zero => rfl
  | succ depth ih =>
      cases data with
      | nothing => rfl
      | bool value => rfl
      | int value => rfl
      | string value => rfl
      | @tuple items parts =>
          have each : ∀ item ∈ items, item.displayIn now depth active =
              item.displayIn store depth active := fun item member => ih active (parts item member)
          match items with
          | [] => rfl
          | [only] => simp only [Value.displayIn, each only List.mem_cons_self]
          | first :: second :: others => simp only [Value.displayIn, mapM_congr each]
      -- An object is shown one level deeper, so the induction on the depth covers cycles as well.
      | @ref address inside =>
          have holds := isRegion.isData address inside
          simp only [Value.displayIn, same address inside]
          generalize store.object address = object at holds
          cases holds with
          | list parts =>
              have each := mapM_congr fun item member =>
                ih (address :: active) (parts item member)
              simp only [each]
          | @dict content sound parts =>
              let entryText (store : Store) (entry : Value × Value) : Except Complaint Text := do
                return (← entry.1.displayIn store depth (address :: active)) ++ text ": " ++
                  (← entry.2.displayIn store depth (address :: active))
              have each : content.entries.mapM (entryText now) =
                  content.entries.mapM (entryText store) := mapM_congr fun entry member => by
                simp only [entryText, ih _ (parts entry member).1, ih _ (parts entry member).2]
              simp only [entryText] at each
              simp only [each]

/-- The text of data is the same in stores that have the same objects in their region. -/
theorem textIn_congr (isRegion : store.IsDataRegion region)
    (same : ∀ address, region address → now.object address = store.object address)
    {value : Value} (data : IsData region value) : value.textIn now = value.textIn store := by
  have display : value.display now = value.display store :=
    displayIn_congr isRegion same nestingLimit [] data
  cases data with
  | nothing => exact display
  | bool value => exact display
  | int value => exact display
  | string value => rfl
  | tuple parts => exact display
  | @ref address inside =>
      have holds := isRegion.isData address inside
      change (Value.ref address).textAt now (984 + 1) = (Value.ref address).textAt store (984 + 1)
      simp only [Value.textAt, same address inside]
      generalize store.object address = object at holds
      cases holds with
      | list _ => exact display
      | dict _ _ => exact display

/-- Data count as true in the same stores. -/
theorem isTrueIn_congr (isRegion : store.IsDataRegion region)
    (same : ∀ address, region address → now.object address = store.object address)
    {value : Value} (data : IsData region value) :
    value.isTrueIn now = value.isTrueIn store := by
  cases data with
  | nothing => rfl
  | bool value => rfl
  | int value => rfl
  | string value => rfl
  | tuple parts => rfl
  | @ref address inside =>
      have holds := isRegion.isData address inside
      simp only [Value.isTrueIn, Value.lengthIn?, same address inside]
      generalize store.object address = object at holds
      cases holds with
      | list _ => rfl
      | dict _ _ => rfl

/-- The elements of data that can be iterated over. -/
def Value.elementsIn? (store : Store) : Value → Option (List Value)
  | .string content => some (content.map fun point => .string [point])
  | .tuple items => some items
  | .ref address =>
      match store.object address with
      | .list items => some items.toList
      | .dict content => some (content.entries.map Prod.fst)
      | _ => none
  | _ => none

/-- Data have the same elements in the same stores. -/
theorem elementsIn?_congr
    (same : ∀ address, region address → now.object address = store.object address)
    {value : Value} (data : IsData region value) :
    value.elementsIn? now = value.elementsIn? store := by
  cases data with
  | ref inside => rw [Value.elementsIn?, Value.elementsIn?, same _ inside]
  | _ => rfl

/-- The elements of data are data. -/
theorem IsData.of_mem_elements (isRegion : store.IsDataRegion region) {value : Value}
    (data : IsData region value) {elements : List Value}
    (found : value.elementsIn? store = some elements) {element : Value}
    (member : element ∈ elements) : IsData region element := by
  cases data with
  | nothing => cases found
  | bool value => cases found
  | int value => cases found
  | string content =>
      cases found
      obtain ⟨point, -, rfl⟩ := List.mem_map.mp member
      exact .string [point]
  | tuple parts =>
      cases found
      exact parts element member
  | @ref address inside =>
      have holds := isRegion.isData address inside
      rw [Value.elementsIn?] at found
      generalize store.object address = object at holds found
      cases holds with
      | list parts =>
          cases found
          exact parts element member
      | dict sound parts =>
          cases found
          obtain ⟨entry, inEntries, rfl⟩ := List.mem_map.mp member
          exact (parts entry inEntries).1

/-- What a dictionary of data has for a key is data. -/
theorem Store.IsDataRegion.isData_lookupKey (isRegion : store.IsDataRegion region)
    {address : Address} {content : Dictionary} {key value : Value} (inside : region address)
    (holds : store.object address = .dict content)
    (found : lookupKey key content.entries = some value) : Run.IsData region value := by
  have isData := isRegion.isData address inside
  rw [holds] at isData
  cases isData with
  | dict _ parts =>
      obtain ⟨entry, isFound, rfl⟩ := Option.map_eq_some_iff.mp found
      exact (parts entry (List.mem_of_find?_eq_some isFound)).2

end Stencil.Run
