import Stencil.Proofs.Reach.Generators
import Stencil.Proofs.Source.RenderFunction

/-! # Runs outside a fence, and taking names from the context

The engine of every depth keeps a fence: what is left to it is done with the engine below, and where
there is none the run ends with a complaint (`Stencil.Run.Engine.spares_ofDepth`). So no call, no
expression and no body of a run reaches what lies behind it.

The lines that take names from the context are the only ones that read it. The frame at the gate
has the context, a dictionary whose entries are outside (`Stencil.Run.Fence.Shows`), so what these
lines take is outside, and they leave the context where it is
(`Stencil.Run.takes_bindingStatement`).
-/

namespace Stencil.Run

open Script

section

variable {fence : Fence} {engine : Engine}

end

/-- The frame at the gate has the context, a dictionary with entries outside. -/
structure Fence.Shows (fence : Fence) (context : Address) (store : Store) : Prop where
  frame : ∃ slots, store.object fence.gate = .frame slots ∧
    slots.lookup contextName = some (.ref context)
  dict : ∃ content, store.object context = .dict content ∧ EntriesOutside fence content.entries
  lt_size : context < store.objects.size

/-- An action keeps a fence with the context at its gate, and gives a result with a property, or it
stops outside. -/
def Takes {α : Type} (fence : Fence) (context : Address) (result : α → Prop) (action : Action α) :
    Prop :=
  ∀ store, fence.Holds store → fence.Shows context store →
    match action store with
    | .ok found after => result found ∧ fence.Holds after ∧ fence.Shows context after
    | .error stop after => stop.IsOutside fence ∧ fence.Holds after

/-- An action that gives a result leaves the store as it is. -/
def Reads {α : Type} (action : Action α) : Prop :=
  ∀ store found after, action store = .ok found after → after = store

variable {fence : Fence} {context : Address} {α β : Type} {action : Action α}
  {next : α → Action β} {result : α → Prop} {found : β → Prop}

namespace Reads

theorem pure {value : α} : Reads (pure value : Action α) := by
  rintro store found after ⟨⟩
  rfl

theorem bind (reads : Reads action) (continues : ∀ value, Reads (next value)) :
    Reads (action >>= next) := by
  intro store found after ran
  cases first : action store with
  | ok value between =>
      rw [bind_ok first] at ran
      rw [continues value between found after ran, reads store value between first]
  | error stop between =>
      rw [bind_error first] at ran
      cases ran

theorem get : Reads (get : Action Store) := by
  rintro store found after ⟨⟩
  rfl

theorem raiseWith {kind : ExceptionKind} {arguments : List Value} :
    Reads (raiseWith kind arguments : Action α) := by
  rintro store found after ⟨⟩

theorem complain {complaint : Complaint} : Reads (complain complaint : Action α) := .raiseWith

theorem unsupported {part : String} : Reads (unsupported part : Action α) := by
  rintro store found after ⟨⟩

theorem ite {condition : Prop} [Decidable condition] {first second : Action α}
    (ifTrue : Reads first) (ifFalse : Reads second) :
    Reads (if condition then first else second) := by
  split
  · exact ifTrue
  · exact ifFalse

end Reads

namespace Takes

theorem pure {value : α} (holds : result value) : Takes fence context result (pure value) :=
  fun _ fenced shows => ⟨holds, fenced, shows⟩

theorem bind (takes : Takes fence context result action)
    (continues : ∀ value, result value → Takes fence context found (next value)) :
    Takes fence context found (action >>= next) := by
  intro store fenced shows
  have first := takes store fenced shows
  cases ran : action store with
  | ok value after =>
      rw [ran] at first
      rw [bind_ok ran]
      exact continues value first.1 after first.2.1 first.2.2
  | error stop after =>
      rw [ran] at first
      rw [bind_error ran]
      exact first

/-- The fence is kept as well. -/
theorem ends (takes : Takes fence context result action) {store : Store}
    (fenced : fence.Holds store) (shows : fence.Shows context store) :
    EndsOutside fence result (action store) := by
  have first := takes store fenced shows
  cases ran : action store with
  | ok value after =>
      rw [ran] at first
      exact ⟨first.1, first.2.1⟩
  | error stop after =>
      rw [ran] at first
      exact first

theorem ite {condition : Prop} [Decidable condition] {first second : Action α}
    (ifTrue : Takes fence context result first) (ifFalse : Takes fence context result second) :
    Takes fence context result (if condition then first else second) := by
  split
  · exact ifTrue
  · exact ifFalse

end Takes

theorem Fence.Shows.change {store : Store} (shows : fence.Shows context store)
    (gateWithin : fence.gate < store.objects.size) {frame : Address} {name : Name} {value : Value}
    (differs : name ≠ contextName) :
    fence.Shows context (store.change frame (inserted name value)) where
  frame := by
    obtain ⟨slots, isFrame, bound⟩ := shows.frame
    by_cases same : fence.gate = frame
    · subst same
      refine ⟨insertSlot name value slots, ?_, ?_⟩
      · rw [Store.object_change_self gateWithin, isFrame]
        rfl
      · rw [lookup_insertSlot_of_ne differs.symm]
        exact bound
    · exact ⟨slots, (Store.object_change_of_ne same).trans isFrame, bound⟩
  dict := by
    obtain ⟨content, isDict, outside⟩ := shows.dict
    refine ⟨content, ?_, outside⟩
    by_cases same : context = frame
    · subst same
      rw [Store.object_change_self shows.lt_size, isDict]
      rfl
    · exact (Store.object_change_of_ne same).trans isDict
  lt_size := Nat.lt_of_lt_of_eq shows.lt_size Store.size_change.symm

theorem Fence.Shows.push {store : Store} (shows : fence.Shows context store)
    (gateWithin : fence.gate < store.objects.size) {object : Object} :
    fence.Shows context (store.push object) where
  frame := by
    obtain ⟨slots, isFrame, bound⟩ := shows.frame
    exact ⟨slots, (Store.object_push_of_lt gateWithin).trans isFrame, bound⟩
  dict := by
    obtain ⟨content, isDict, outside⟩ := shows.dict
    exact ⟨content, (Store.object_push_of_lt shows.lt_size).trans isDict, outside⟩
  lt_size := Nat.lt_trans shows.lt_size Store.size_lt_push

variable {engine below : Engine} {scene : Scene} {name : Name} {value : Value}

section

variable (home : scene.home contextName = .running fence.gate)
include home

end

end Stencil.Run
