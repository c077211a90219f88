import Stencil.Run.Iteration

/-! # Elements of collections

An index counts from the front, or from behind when it is negative. A range of
indices is cut to the sequence that it is used on and then picks a number of
places at equal distances. Mappings are looked up by their keys.
-/

namespace Stencil.Run

/-- Places at equal distances in a sequence. -/
structure Selection where
  start : Int
  /-- The end, which is not reached. -/
  stop : Int
  step : Int
  deriving DecidableEq, Repr

/-- An end of a range of indices, or its step. -/
def sliceEnd? (value : Value) : Except Complaint (Option Int) :=
  if value.isNothing then .ok none
  else
    match value.int? with
    | some number => .ok (some number)
    | none => .error .sliceIndex

namespace Selection

/-- An index on a sequence of some length: what lies outside moves to the nearest place between
two limits. -/
def clamp (length : Nat) (least most index : Int) : Int :=
  max least (min most (if index < 0 then index + length else index))

/-- The places that a range of indices picks from a sequence of some length. -/
def ofSlice (length : Nat) (lower upper step : Value) : Except Complaint Selection := do
  let step := (← sliceEnd? step).getD 1
  if step = 0 then throw .sliceStep
  let lower ← sliceEnd? lower
  let upper ← sliceEnd? upper
  let isBackward : Bool := step < 0
  let least : Int := if isBackward then -1 else 0
  let most : Int := if isBackward then length - 1 else length
  let start := (lower.map (clamp length least most)).getD (if isBackward then most else least)
  let stop := (upper.map (clamp length least most)).getD (if isBackward then least else most)
  return ⟨start, stop, step⟩

/-- The number of places. -/
def count (selection : Selection) : Nat :=
  rangeLength selection.start selection.stop selection.step

/-- The places themselves. -/
def places (selection : Selection) : List Nat :=
  (List.range selection.count).map fun (index : Nat) =>
    (selection.start + index * selection.step).toNat

/-- The items at the selected places. -/
def pick {α : Type} (selection : Selection) (items : List α) : List α :=
  if selection.step = 1 then (items.drop selection.start.toNat).take selection.count
  else
    let items := items.toArray
    selection.places.filterMap fun place => items[place]?

end Selection

/-- The place of an index in a sequence of some length, or the complaint about it. -/
def placeOf (wrong : Kind → Complaint) (outside : Complaint) (length : Nat) (index : Value) :
    Action Nat := do
  match index.int? with
  | none => complainOf wrong index
  | some number =>
      if !fitsPlace number then complainOf .indexTooLarge index
      else
        let place := if number < 0 then number + length else number
        if 0 ≤ place && place < length then return place.toNat else complain outside

/-- The items of a sequence that an index or a range of indices picks. -/
def pickItems {α : Type} (wrong : Kind → Complaint) (outside : Complaint) (items : List α)
    (index : Value) : Action (Except α (List α)) := do
  match index with
  | .slice lower upper step => do
      let selection ← settle (Selection.ofSlice items.length lower upper step)
      return .ok (selection.pick items)
  | _ => do
      match items[← placeOf wrong outside items.length index]? with
      | some item => return .error item
      | none => complain outside

/-- The value of a key in a mapping. -/
def entryOf (entries : List (Value × Value)) (key : Value) : Action Value := do
  requireKey key
  match lookupKey key entries with
  | some value => return value
  | none => missingKey key

/-- The part of a range that an index or a range of indices picks. -/
def rangeElement (start stop step : Int) (index : Value) : Action Value := do
  let length := rangeLength start stop step
  match index with
  | .slice lower upper inner => do
      let selection ← settle (Selection.ofSlice length lower upper inner)
      return .range (start + selection.start * step) (start + selection.stop * step)
        (selection.step * step)
  | _ =>
      match index.int? with
      | none => complainOf (.indexKind "range") index
      | some number =>
          let place := if number < 0 then number + length else number
          if 0 ≤ place && place < length then return .int (start + place * step)
          else complain (.indexRange "range object")

/-- The element of a collection at an index or a key. -/
def elementOf (container index : Value) : Action Value := do
  match container with
  | .string value =>
      match ← pickItems .stringIndexKind (.indexRange "string") value index with
      | .ok points => return .string points
      | .error point => return .string [point]
  | .bytes value =>
      match ← pickItems (.indexKind "byte") ⟨.indexError, text "index out of range"⟩ value
          index with
      | .ok values => return .bytes values
      | .error byte => return byteValue byte
  | .tuple items =>
      match ← pickItems (.indexKind "tuple") (.indexRange "tuple") items index with
      | .ok items => return .tuple items
      | .error item => return item
  | .range start stop step => rangeElement start stop step index
  | .ofKind kind =>
      match kind with
      | .list | .dict | .tuple | .set | .frozenSet | .type | .enumerate =>
          unsupported "types with parameters"
      | _ => complain (.typeNotSubscriptable kind)
  | .ref address =>
      match ← load address with
      | .list items =>
          match index with
          | .slice lower upper step => do
              let selection ← settle (Selection.ofSlice items.size lower upper step)
              newList (selection.pick items.toList).toArray
          | _ => do
              let outside := .indexRange "list"
              match items[← placeOf (.indexKind "list") outside items.size index]? with
              | some item => return item
              | none => complain outside
      | .dict _ | .proxy _ => entryOf (← entriesOf address) index
      | _ => complainOf .notSubscriptable container
  | _ => complainOf .notSubscriptable container

/-- The values of something that can be iterated over, with a complaint of its own otherwise. -/
def collectOr (engine : Engine) (complaint : Complaint) (value : Value) : Action (List Value) := do
  match ← iterator? value with
  | some iterator => return (← drainAll engine iterator).toList
  | none => complain complaint

/-- A list in which a selection of places gives way to other values. -/
def replaceSelected (selection : Selection) (values : List Value) (items : Array Value) :
    Action (Array Value) := do
  if selection.step = 1 then
    let start := selection.start.toNat
    let kept := items.toList.drop (start + selection.count)
    return (items.toList.take start ++ values ++ kept).toArray
  else if values.length ≠ selection.count then
    complain (.sliceSize values.length selection.count)
  else
    return (selection.places.zip values).foldl
      (fun items entry => items.setIfInBounds entry.1 entry.2) items

/-- An element of a collection is assigned. -/
def assignElement (engine : Engine) (container index value : Value) : Action Unit := do
  match container with
  | .ref address =>
      match ← load address with
      | .list items =>
          match index with
          | .slice lower upper step => do
              let selection ← settle (Selection.ofSlice items.size lower upper step)
              let refusal : Complaint :=
                if selection.step = 1 then .sliceValue
                else .type "must assign iterable to extended slice"
              let values ← collectOr engine refusal value
              save address (.list (← replaceSelected selection values items))
          | _ => do
              let outside := .indexRange "list assignment"
              let place ← placeOf (.indexKind "list") outside items.size index
              save address (.list (items.setIfInBounds place value))
      | .dict content => do
          requireKey index
          save address (.dict (content.insert index value))
      | _ => complainOf .noItemAssignment container
  | _ => complainOf .noItemAssignment container

/-- A list without the items at some places. -/
def withoutPlaces (places : List Nat) (items : Array Value) : Array Value :=
  ((items.toList.zipIdx.filter fun entry => !places.contains entry.2).map Prod.fst).toArray

/-- An element of a collection is deleted. -/
def deleteElement (container index : Value) : Action Unit := do
  match container with
  | .ref address =>
      match ← load address with
      | .list items =>
          match index with
          | .slice lower upper step => do
              let selection ← settle (Selection.ofSlice items.size lower upper step)
              save address (.list (withoutPlaces selection.places items))
          | _ => do
              let outside := .indexRange "list assignment"
              let place ← placeOf (.indexKind "list") outside items.size index
              save address (.list (withoutPlaces [place] items))
      | .dict content => do
          requireKey index
          if (lookupKey index content.entries).isSome then
            save address (.dict (content.erase index))
          else missingKey index
      | _ => complainOf .noItemDeletion container
  | _ => complainOf .noItemDeletion container

end Stencil.Run
