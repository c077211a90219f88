import Stencil.Run.Iteration

/-! # Sorting

Values are sorted by insertion: the run at the start that ascends, or strictly
descends, is taken as it is, and every further value is put behind the sorted values
that it is not less than, found by halving. The sort is stable, and asks only
whether a later value is less than an earlier one, so a pair that has no order is
reported in the order of that question.
-/

namespace Stencil.Run

/-- A value with the key that it is sorted by. -/
structure Keyed where
  key : Value
  value : Value
  deriving Inhabited

namespace Keyed

/-- A key is less than another. -/
def precedes (left right : Keyed) : Action Bool := areOrdered .less left.key right.key

/-- The further values of a run that begins with a value and either descends or does not, and the
values behind it. -/
def takeRun (descends : Bool) (previous : Keyed) : List Keyed → Action (List Keyed × List Keyed)
  | [] => return ([], [])
  | next :: rest => do
      if (← next.precedes previous) == descends then
        let found ← takeRun descends next rest
        return (next :: found.1, found.2)
      else return ([], next :: rest)

/-- The place behind the sorted values between two places that a value is not less than. -/
def placeIn (sorted : Array Keyed) (pivot : Keyed) (low high : Nat) : Action Nat := do
  if inside : low < high then
    let middle := (low + high) / 2
    if ← pivot.precedes (sorted.getD middle pivot) then placeIn sorted pivot low middle
    else placeIn sorted pivot (middle + 1) high
  else return low
termination_by high - low

/-- Values are put in their places among sorted values. -/
def insertAll (sorted : Array Keyed) : List Keyed → Action (Array Keyed)
  | [] => return sorted
  | pivot :: rest => do
      let place ← placeIn sorted pivot 0 sorted.size
      insertAll (sorted.insertIdxIfInBounds place pivot) rest

/-- Values in the order of their keys. -/
def sort : List Keyed → Action (List Keyed)
  | [] => return []
  | [only] => return [only]
  | first :: second :: rest => do
      let descends ← second.precedes first
      let found ← takeRun descends second rest
      let run := first :: second :: found.1
      return (← insertAll (if descends then run.reverse else run).toArray found.2).toList

end Keyed

/-- The key of each value. -/
def withKeys (engine : Engine) (key : Value) : List Value → Action (List Keyed)
  | [] => return []
  | first :: rest => do
      let found ← if key.isNothing then pure first else engine.call key [first] []
      return ⟨found, first⟩ :: (← withKeys engine key rest)

/-- Values in the order of their keys, or in the opposite order; equal keys keep their order. -/
def sortValues (engine : Engine) (key : Value) (isReversed : Bool) (values : List Value) :
    Action (List Value) := do
  let keyed ← withKeys engine key values
  let sorted ← Keyed.sort (if isReversed then keyed.reverse else keyed)
  return ((if isReversed then sorted.reverse else sorted).map Keyed.value)

end Stencil.Run
