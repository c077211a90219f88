import Stencil.Run.Names

/-! # The store in a run

Actions run one after the other until one of them stops. A new object leaves the others as they
are, and a change of an object leaves all others as they are. Reading a name of the running
function gives what its frame holds for it (`Stencil.Run.readName_running`), and binding such a
name changes the frame alone (`Stencil.Run.bindName_running`).
-/

namespace Stencil.Run

open Script

variable {α β : Type} {store after : Store} {address other : Address} {object : Object}

theorem bind_ok {first : Action α} {next : α → Action β} {result : α}
    (ran : first store = .ok result after) : (first >>= next) store = next result after := by
  simp only [bind, EStateM.bind, ran]

theorem bind_error {first : Action α} {next : α → Action β} {stop : Stop}
    (ran : first store = .error stop after) : (first >>= next) store = .error stop after := by
  simp only [bind, EStateM.bind, ran]

/-- Runs that end alike go on alike. -/
theorem bind_eq {first second : Action α} {next : α → Action β} {now : Store}
    (same : first store = second now) : (first >>= next) store = (second >>= next) now := by
  simp only [bind, EStateM.bind, same]

/-- A run ends with an exception of a kind. -/
def Raises (kind : ExceptionKind) (result : EStateM.Result Stop Store α) : Prop :=
  ∃ exception arguments after, result = .error (.raised exception) after ∧
    after.object exception = .exception kind arguments

namespace Store

theorem object_eq (found : store.objects[address]? = some object) :
    store.object address = object := by
  rw [Store.object, Array.getD_eq_getD_getElem?, found]
  rfl

theorem size_push : (store.push object).objects.size = store.objects.size + 1 :=
  Array.size_push object

/-- A store grows with a new object. -/
theorem size_lt_push : store.objects.size < (store.push object).objects.size :=
  Nat.lt_of_lt_of_eq (Nat.lt_succ_self _) size_push.symm

/-- An empty frame stands for what is not in a store. -/
theorem object_of_size_le (behind : store.objects.size ≤ address) :
    store.object address = .frame [] := by
  rw [Store.object, Array.getD_eq_getD_getElem?, Array.getElem?_eq_none behind]
  rfl

/-- What is not an empty frame is in the store. -/
theorem lt_size_of_object (holds : store.object address = object) (differs : object ≠ .frame []) :
    address < store.objects.size :=
  Nat.lt_of_not_le fun behind => differs (holds.symm.trans (object_of_size_le behind))

theorem size_change {step : Object → Object} :
    (store.change address step).objects.size = store.objects.size := Array.size_modify

theorem object_push_size : (store.push object).object store.objects.size = object :=
  object_eq (Array.getElem?_push_size)

/-- A new object leaves the others as they are. -/
theorem object_push_of_lt (within : address < store.objects.size) :
    (store.push object).object address = store.object address := by
  rw [Store.object, Store.object, Array.getD_eq_getD_getElem?, Array.getD_eq_getD_getElem?,
    Store.push, Array.getElem?_push, if_neg (Nat.ne_of_lt within)]

theorem object_change_of_ne {step : Object → Object} (differs : other ≠ address) :
    (store.change address step).object other = store.object other := by
  rw [Store.object, Store.object, Array.getD_eq_getD_getElem?, Array.getD_eq_getD_getElem?,
    Store.change, Array.getElem?_modify, if_neg differs.symm]

theorem object_change_self {step : Object → Object} (within : address < store.objects.size) :
    (store.change address step).object address = step (store.object address) := by
  have found : store.objects[address]? = some (store.objects[address]) :=
    Array.getElem?_eq_getElem within
  rw [Store.object, Store.object, Array.getD_eq_getD_getElem?, Array.getD_eq_getD_getElem?,
    Store.change, Array.getElem?_modify, if_pos rfl, found]
  rfl

/-- The change of the last object but one leaves the last one as it is. -/
theorem change_push_push {first second : Object} {step : Object → Object} :
    ((store.push first).push second).change store.objects.size step =
      (store.push (step first)).push second := by
  have objects : ((store.objects.push first).push second).modify store.objects.size step =
      (store.objects.push (step first)).push second := by
    refine Array.ext_getElem? fun place => ?_
    rw [Array.getElem?_modify, Array.getElem?_push, Array.getElem?_push, Array.getElem?_push,
      Array.getElem?_push, Array.size_push, Array.size_push]
    by_cases here : place = store.objects.size
    · subst here
      simp
    · simp [here, Ne.symm here]
  exact congrArg (Store.mk · store.handling) objects

/-- The objects that have been made between two stores are in a third one as they were. -/
structure Keeps (start made present : Store) : Prop where
  size_le : made.objects.size ≤ present.objects.size
  object_eq : ∀ address, start.objects.size ≤ address → address < made.objects.size →
    present.object address = made.object address

theorem Keeps.refl {start made : Store} : start.Keeps made made :=
  ⟨Nat.le_refl _, fun _ _ _ => rfl⟩

theorem Keeps.push {start made present : Store} (keeps : start.Keeps made present) :
    start.Keeps made (present.push object) where
  size_le := Nat.le_trans keeps.size_le
    (Nat.le_of_lt (Nat.lt_of_lt_of_eq (Nat.lt_succ_self _) size_push.symm))
  object_eq address behind within := by
    rw [object_push_of_lt (Nat.lt_of_lt_of_le within keeps.size_le),
      keeps.object_eq address behind within]

/-- The objects of a store are in a later one as they were. -/
structure Remains (before after : Store) : Prop where
  size_le : before.objects.size ≤ after.objects.size
  object_eq : ∀ address < before.objects.size, after.object address = before.object address

theorem Remains.refl : store.Remains store := ⟨Nat.le_refl _, fun _ _ => rfl⟩

theorem Remains.trans {between after : Store} (first : store.Remains between)
    (second : between.Remains after) : store.Remains after where
  size_le := Nat.le_trans first.size_le second.size_le
  object_eq address within := by
    rw [second.object_eq address (Nat.lt_of_lt_of_le within first.size_le),
      first.object_eq address within]

theorem remains_push : store.Remains (store.push object) :=
  ⟨Nat.le_of_lt size_lt_push, fun _ => object_push_of_lt⟩

/-- Changes of later objects leave the earlier ones. -/
theorem Remains.change {now : Store} (remains : store.Remains now)
    (behind : store.objects.size ≤ address) {step : Object → Object} :
    store.Remains (now.change address step) where
  size_le := Nat.le_trans remains.size_le (Nat.le_of_eq size_change.symm)
  object_eq _ within := (object_change_of_ne (Nat.ne_of_lt (Nat.lt_of_lt_of_le within behind))).trans
    (remains.object_eq _ within)

theorem Keeps.of_remains {start made present after : Store} (keeps : start.Keeps made present)
    (remains : present.Remains after) : start.Keeps made after where
  size_le := Nat.le_trans keeps.size_le remains.size_le
  object_eq address behind within := by
    rw [remains.object_eq address (Nat.lt_of_lt_of_le within keeps.size_le),
      keeps.object_eq address behind within]

end Store

/-- A run ends with an exception of a kind, and the objects of a store are as they were. -/
def RaisesAfter (before : Store) (kind : ExceptionKind) (result : EStateM.Result Stop Store α) :
    Prop :=
  ∃ exception arguments after, result = .error (.raised exception) after ∧
    after.object exception = .exception kind arguments ∧ before.Remains after

namespace RaisesAfter

variable {before between : Store} {kind : ExceptionKind} {result : EStateM.Result Stop Store α}

theorem raises (raisesAfter : RaisesAfter before kind result) : Raises kind result := by
  obtain ⟨exception, arguments, after, ran, holds, -⟩ := raisesAfter
  exact ⟨exception, arguments, after, ran, holds⟩

theorem of_remains (remains : before.Remains between) (raisesAfter : RaisesAfter between kind result) :
    RaisesAfter before kind result := by
  obtain ⟨exception, arguments, after, ran, holds, remainsAfter⟩ := raisesAfter
  exact ⟨exception, arguments, after, ran, holds, remains.trans remainsAfter⟩

/-- An exception of an action is one of the actions that it begins. -/
theorem bind {first : Action α} {next : α → Action β}
    (raisesAfter : RaisesAfter before kind (first store)) :
    RaisesAfter before kind ((first >>= next) store) := by
  obtain ⟨exception, arguments, after, ran, holds, remains⟩ := raisesAfter
  exact ⟨exception, arguments, after, bind_error ran, holds, remains⟩

end RaisesAfter

/-- Raising an exception makes it the last object. -/
theorem raises_raiseWith {kind : ExceptionKind} {arguments : List Value} :
    RaisesAfter store kind (raiseWith kind arguments store : EStateM.Result Stop Store α) :=
  ⟨store.objects.size, arguments, store.push (.exception kind arguments), rfl,
    Store.object_push_size, Store.remains_push⟩

/-- A complaint becomes an exception of its kind. -/
theorem raises_complain {complaint : Complaint} :
    RaisesAfter store complaint.kind (complain complaint store : EStateM.Result Stop Store α) :=
  raises_raiseWith

variable {scene : Scene} {own : List Name} {frame : Address} {outer : List Layer} {name : Name}
  {slots : List (Name × Value)}

/-- A name of the running function lives in its frame. -/
theorem home_running (layers : scene.layers = ⟨own, [], frame⟩ :: outer) (member : name ∈ own) :
    scene.home name = .running frame := by
  rw [Scene.home, layers]
  exact if_pos (List.contains_iff_mem.mpr member)

theorem home_program (layers : scene.layers = [⟨own, [], frame⟩]) (absent : name ∉ own) :
    scene.home name = .program := by
  rw [Scene.home, layers]
  exact if_neg fun member => absent (List.contains_iff_mem.mp member)

theorem valueInFrame_frame (holds : store.object frame = .frame slots) :
    valueInFrame frame name store = .ok (slots.lookup name) store := by
  have loaded : load frame store = .ok (.frame slots) store :=
    congrArg (EStateM.Result.ok · store) holds
  exact bind_ok loaded

/-- Reading a name of the running function gives its value. -/
theorem readName_running {value : Value} (home : scene.home name = .running frame)
    (holds : store.object frame = .frame slots) (bound : slots.lookup name = some value) :
    readName scene name store = .ok value store := by
  rw [readName, home]
  refine (bind_ok (valueInFrame_frame holds)).trans ?_
  rw [bound]
  rfl

theorem raises_readName (home : scene.home name = .running frame)
    (holds : store.object frame = .frame slots) (unbound : slots.lookup name = none) :
    RaisesAfter store .unboundLocalError (readName scene name store) := by
  rw [readName, home]
  have ran : valueInFrame frame name store = .ok none store :=
    unbound ▸ valueInFrame_frame holds
  change RaisesAfter store _ ((valueInFrame frame name >>= _) store)
  rw [bind_ok ran]
  exact raises_complain

theorem readName_program {value : Value} (home : scene.home name = .program)
    (holds : store.object scene.globals = .frame slots) (bound : slots.lookup name = some value) :
    readName scene name store = .ok value store := by
  rw [readName, home]
  refine (bind_ok (valueInFrame_frame holds)).trans ?_
  rw [bound]
  rfl

/-- A frame with a value for a name. -/
def inserted (name : Name) (value : Value) : Object → Object
  | .frame slots => .frame (insertSlot name value slots)
  | other => other

/-- Binding a name of the running function changes its frame. -/
theorem bindName_running {value : Value} (home : scene.home name = .running frame) :
    bindName scene name value store = .ok () (store.change frame (inserted name value)) := by
  rw [bindName, Scene.frameOf, home]
  rfl

theorem lookup_insertSlot_self {value : Value} :
    (insertSlot name value slots).lookup name = some value := by
  induction slots with
  | nil => exact List.lookup_cons_self
  | cons slot rest ih =>
      rw [insertSlot]
      split
      case isTrue same => exact List.lookup_cons_self
      case isFalse differs =>
        have noMatch : (name == slot.1) = false := by
          rw [Bool.eq_false_iff, ne_eq, beq_iff_eq]
          exact fun same => differs (beq_iff_eq.mpr same.symm)
        rw [List.lookup_cons, noMatch]
        exact ih

/-- Giving a value to a name leaves the values of the others. -/
theorem lookup_insertSlot_of_ne {value : Value} {wanted : Name} (differs : wanted ≠ name) :
    (insertSlot name value slots).lookup wanted = slots.lookup wanted := by
  have noMatch : (wanted == name) = false := beq_false_of_ne differs
  induction slots with
  | nil =>
      rw [insertSlot, List.lookup_cons, noMatch]
  | cons slot rest ih =>
      rw [insertSlot]
      split
      case isTrue same =>
        rw [List.lookup_cons, List.lookup_cons, noMatch, beq_iff_eq.mp same, noMatch]
      case isFalse => rw [List.lookup_cons, List.lookup_cons, ih]

end Stencil.Run
