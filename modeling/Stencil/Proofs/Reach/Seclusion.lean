import Stencil.Proofs.Reach.Action

/-! # Secluded objects

Objects are secluded when no other object of the store leads to them
(`Stencil.Run.Store.Secludes`). They stay so when an object comes that does not lead to them either,
and a new frame may even hold one of them as its context: the fence around them then has this frame
as its gate (`Stencil.Run.Store.Secludes.holds_push`).
-/

namespace Stencil.Run

open Script

variable {fence wider : Fence} {store : Store} {secluded : Address → Prop}

/-- What is outside of a fence is outside of another one as well. -/
structure Fence.Within (wider fence : Fence) : Prop where
  isOpen : ∀ {address}, fence.IsOpen address → wider.IsOpen address
  frame : ∀ {address}, ¬fence.encloses address → ¬wider.encloses address ∧ address ≠ wider.gate

namespace Fence.Within

variable (within : wider.Within fence)
include within

theorem value {value : Value} (outside : value.IsOutside fence) : value.IsOutside wider := by
  induction outside with
  | tuple parts ih => exact .tuple ih
  | slice _ _ _ lower upper step => exact .slice lower upper step
  | view kind isOpen => exact .view kind (within.isOpen isOpen)
  | method _ name ih => exact .method ih name
  | ref isOpen => exact .ref (within.isOpen isOpen)
  | _ => constructor

theorem values {values : List Value} (outside : AreOutside fence values) : AreOutside wider values :=
  fun value member => within.value (outside value member)

theorem named {named : List (Name × Value)} (outside : NamedOutside fence named) :
    NamedOutside wider named :=
  fun entry member => within.value (outside entry member)

theorem entries {entries : List (Value × Value)} (outside : EntriesOutside fence entries) :
    EntriesOutside wider entries :=
  fun entry member => (outside entry member).imp within.value within.value

theorem scene {scene : Scene} (outside : scene.IsOutside fence) : scene.IsOutside wider where
  frames layer member := (within.frame (outside.frames layer member)).1
  globals := within.isOpen outside.globals
  collector address isCollector := within.isOpen (outside.collector address isCollector)

/-- Scenes outside of a fence do not see the gate of the other one. -/
theorem admits {scene : Scene} (outside : scene.IsOutside fence) {mentions : List Mention} :
    wider.Admits scene mentions :=
  fun _ layer member => (within.frame (outside.frames layer member)).2

theorem function {function : Function} (outside : function.IsOutside fence) :
    function.IsOutside wider where
  standards parameter member standard isStandard :=
    within.value (outside.standards parameter member standard isStandard)
  scene := within.scene outside.scene
  admits := within.admits outside.scene

theorem pipeline {state : Pipeline} (outside : state.IsOutside fence) : state.IsOutside wider where
  scene := within.scene outside.scene
  yielded := within.admits outside.scene
  entered entry member := ⟨within.value (outside.entered entry member).1, within.admits outside.scene⟩
  waiting _ _ := within.admits outside.scene

theorem departure {departure : Departure} (outside : DepartsOutside fence departure) :
    DepartsOutside wider departure := by
  cases outside with
  | error isOpen => exact .error (within.isOpen isOpen)
  | ok flowOutside =>
      cases flowOutside with
      | returned valueOutside => exact .ok (.returned (within.value valueOutside))
      | next => exact .ok .next
      | breakLoop => exact .ok .breakLoop
      | continueLoop => exact .ok .continueLoop

theorem remainder {scene : Scene} (sceneOutside : scene.IsOutside fence) {remainder : Remainder}
    (outside : remainder.IsOutside fence scene) : remainder.IsOutside wider scene := by
  have admits {mentions : List Mention} : wider.Admits scene mentions := within.admits sceneOutside
  cases outside with
  | block _ => exact .block admits
  | whileLoop _ _ _ => exact .whileLoop admits admits admits
  | forLoop _ iteratorOutside _ _ =>
      exact .forLoop admits (within.value iteratorOutside) admits admits
  | handOn iteratorOutside => exact .handOn (within.value iteratorOutside)
  | guarded _ _ _ => exact .guarded admits admits admits
  | handling isOpen name => exact .handling (within.isOpen isOpen) name
  | ensured _ => exact .ensured admits
  | concluding departs => exact .concluding (within.departure departs)

theorem cursor {cursor : Cursor} (outside : cursor.IsOutside fence) : cursor.IsOutside wider := by
  cases outside with
  | finished => exact .finished
  | items outside => exact .items (within.values outside)
  | list isOpen index => exact .list (within.isOpen isOpen) index
  | listBackwards isOpen index => exact .listBackwards (within.isOpen isOpen) index
  | view isOpen => exact .view (within.isOpen isOpen)
  | viewBackwards isOpen => exact .viewBackwards (within.isOpen isOpen)
  | set isOpen index size => exact .set (within.isOpen isOpen) index size
  | range next step count => exact .range next step count
  | enumerate outside count => exact .enumerate (within.value outside) count
  | zip outside isStrict => exact .zip (within.values outside) isStrict
  | map functionOutside outside => exact .map (within.value functionOutside) (within.values outside)
  | filter testOutside outside => exact .filter (within.value testOutside) (within.value outside)
  | pipeline outside => exact .pipeline (within.pipeline outside)
  | paused sceneOutside departs restOutside readyOutside =>
      exact .paused (within.scene sceneOutside) (within.departure departs)
        (fun remainder member => within.remainder sceneOutside (restOutside remainder member))
        (within.values readyOutside)
  | running outside => exact .running (within.values outside)

/-- **An object outside of a fence is outside of the other one.** -/
theorem object {object : Object} (outside : object.IsOutside fence) : object.IsOutside wider := by
  cases outside with
  | list outside => exact .list (within.values outside)
  | dict outside => exact .dict (within.entries outside)
  | set outside => exact .set (within.values outside)
  | fields outside => exact .fields (within.named outside)
  | proxy isOpen => exact .proxy (within.isOpen isOpen)
  | function outside => exact .function (within.function outside)
  | cursor kind outside => exact .cursor kind (within.cursor outside)
  | exception kind outside => exact .exception kind (within.values outside)
  | frame outside => exact .frame (within.named outside)

end Fence.Within

namespace Store

/-- The fence around some objects and everything that is not in the store. -/
def border (store : Store) (secluded : Address → Prop) : Fence where
  encloses address := secluded address ∨ store.objects.size ≤ address
  content := store.object
  gate := store.objects.size

/-- Nothing in a store leads to some objects of it, apart from these objects themselves. -/
structure Secludes (store : Store) (secluded : Address → Prop) : Prop where
  lt_size : ∀ {address}, secluded address → address < store.objects.size
  outside : ∀ {address}, address < store.objects.size → ¬secluded address →
    (store.object address).IsOutside (store.border secluded)
  handling : ∀ exception ∈ store.handling, (store.border secluded).IsOpen exception

theorem isOpen_border {address : Address} : (store.border secluded).IsOpen address ↔
    address < store.objects.size ∧ ¬secluded address := by
  constructor
  · rintro ⟨notEnclosed, -⟩
    exact ⟨Nat.lt_of_not_le fun behind => notEnclosed (.inr behind),
      fun isSecluded => notEnclosed (.inl isSecluded)⟩
  · rintro ⟨within, notSecluded⟩
    exact ⟨fun enclosed => enclosed.elim notSecluded (Nat.not_le_of_lt within),
      Nat.ne_of_lt within⟩

/-- A new object moves the border outwards. -/
theorem within_border_push {object : Object} :
    ((store.push object).border secluded).Within (store.border secluded) := by
  have grows : store.objects.size < (store.push object).objects.size := size_lt_push
  have further {address : Address} (within : address < store.objects.size)
      (notSecluded : ¬secluded address) : ((store.push object).border secluded).IsOpen address :=
    isOpen_border.mpr ⟨Nat.lt_trans within grows, notSecluded⟩
  constructor
  case isOpen =>
    intro address isOpen
    obtain ⟨within, notSecluded⟩ := isOpen_border.mp isOpen
    exact further within notSecluded
  case frame =>
    intro address notEnclosed
    obtain ⟨notSecluded, notBehind⟩ := not_or.mp notEnclosed
    have isOpen := further (Nat.lt_of_not_le notBehind) notSecluded
    exact ⟨isOpen.not_enclosed, isOpen.ne_gate⟩

/-- Objects stay secluded when another one comes that does not lead to them. -/
theorem Secludes.push (secludes : store.Secludes secluded) {object : Object}
    (outside : object.IsOutside (store.border secluded)) :
    (store.push object).Secludes secluded where
  lt_size isSecluded := Nat.lt_trans (secludes.lt_size isSecluded) size_lt_push
  outside within notSecluded := by
    refine within_border_push.object ?_
    rcases Nat.lt_succ_iff_lt_or_eq.mp (Nat.lt_of_lt_of_eq within size_push) with before | rfl
    · rw [object_push_of_lt before]
      exact secludes.outside before notSecluded
    · rw [object_push_size]
      exact outside
  handling exception member := within_border_push.isOpen (secludes.handling exception member)

end Store

end Stencil.Run
