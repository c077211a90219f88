import Stencil.Proofs.Source.RenderFunction
import Stencil.Proofs.Tree.Simulation

/-! # Calls of render functions

The body of a render function makes the list of what is written, takes variables from the
context, runs the statements of its tree and joins what they have written
(`Stencil.RenderCall.runBody_statements`).
-/

namespace Stencil

open Script Run

namespace RenderCall

variable {call : RenderCall} {values : VariableValues} {written : Text} {start now : Store}

/-- The values that variables have in a context. -/
def contextValues (entries : List (Value × Value)) : VariableValues :=
  fun name => lookupKey (.string name) entries

theorem State.evaluate_buffer (state : call.State values written now) :
    evaluate call.engine call.scene (.name (text "_buf")) now = .ok (.ref call.buffer) now := by
  obtain ⟨slots, holds, hasSlots⟩ := state.frame
  exact readName_running (home_own (call.reserved_own _ (by decide))) holds hasSlots.list

/-- A context that has values for the variables of a call. It may be anything if the call takes no
variables from it. -/
structure ContextHas (call : RenderCall) (entries : List (Value × Value)) : Prop where
  isMapping : call.bound ≠ [] → IsMapping call.before entries call.context
  data : ∀ shown ∈ call.bound, ∀ value, contextValues entries shown.name = some value →
    IsData call.region value

section

variable {entries : List (Value × Value)}

/-- The slots of a call in which all of its variables have been taken from the context. -/
def takenSlots (call : RenderCall) (entries : List (Value × Value)) : List (Name × Value) :=
  (call.bound.map Variable.name).foldl (takeInto entries) (preparedSlots call.before call.context)

/-- No variable is a reserved name. -/
theorem notMem_names {name : Name} (reserved : name ∈ reservedNames) :
    name ∉ call.bound.map Variable.name := by
  intro member
  obtain ⟨shown, -, same⟩ := List.mem_map.mp member
  exact shown.ne_of_mem_reservedNames reserved same

theorem hasSlots_takenSlots :
    call.HasSlots (contextValues entries) (call.takenSlots entries) where
  context := lookup_foldl_takeInto.trans (if_neg (notMem_names (by decide)))
  list := lookup_foldl_takeInto.trans (if_neg (notMem_names (by decide)))
  method := lookup_foldl_takeInto.trans (if_neg (notMem_names (by decide)))
  lookup_eq shown isBound := by
    have noPublic : publicValue? shown.name = none := by
      rw [← Option.isNone_iff_eq_none, ← Option.not_isSome, isSome_publicValue?,
        shown.isPublicName_eq_false]
      rfl
    refine lookup_foldl_takeInto.trans ((if_pos (List.mem_map_of_mem isBound)).trans ?_)
    rw [lookup_preparedSlots fun reserved => shown.ne_of_mem_reservedNames reserved rfl,
      Option.or_none, takenValue?, noPublic, Option.or_none]
    rfl

/-- Nothing has been written, and every variable has the value of the context. -/
theorem ContextHas.state_entered (context : call.ContextHas entries) :
    call.State (contextValues entries) [] (call.before.entered (call.takenSlots entries)) where
  kept := Store.remains_entered.object_eq
  larger := by
    rw [Store.entered, Store.size_push, Store.size_push]
    exact Nat.lt_succ_self _
  frame := ⟨_, Store.object_entered_frame, hasSlots_takenSlots⟩
  pieces := ⟨[], Store.object_entered_list, rfl⟩
  data := context.data

theorem ContextHas.entersBody (context : call.ContextHas entries) :
    EntersBody call.engine call.scene call.before (call.bound.map Variable.name) call.context
      entries where
  calls := ⟨call.below, call.calls⟩
  home := by
    simp only [List.forall_mem_cons]
    refine ⟨home_own (call.reserved_own _ (by decide)), home_own (call.reserved_own _ (by decide)),
      home_own (call.reserved_own _ (by decide)), fun name member => ?_⟩
    obtain ⟨shown, isBound, rfl⟩ := List.mem_map.mp member
    exact home_own (call.bound_own shown isBound)
  noContext := notMem_names (by decide)
  isMapping isTaken := context.isMapping fun none => isTaken (by rw [none]; rfl)
  readsPublic name member isPublic := by
    obtain ⟨shown, -, rfl⟩ := List.mem_map.mp member
    rw [shown.isPublicName_eq_false] at isPublic
    cases isPublic

end

/-- What a walk writes is the result of a run, or the kind of its exception is that of the walk. -/
def Outputs (walked : Except ExceptionKind (Text × VariableValues))
    (result : EStateM.Result Stop Store Value) : Prop :=
  match walked with
  | .ok (written, _) => ∃ after, result = .ok (.string written) after
  | .error kind => Raises kind result

/-- A run that ends like a walk in a store that still has earlier objects: with what the walk writes
as its result, or with an exception of the same kind. -/
def Ends (before : Store) (walked : Except ExceptionKind (Text × VariableValues))
    (result : EStateM.Result Stop Store Value) : Prop :=
  match walked with
  | .ok (written, _) => ∃ after, result = .ok (.string written) after ∧ before.Remains after
  | .error kind => RaisesAfter before kind result

theorem Ends.outputs {before : Store} {walked : Except ExceptionKind (Text × VariableValues)}
    {result : EStateM.Result Stop Store Value} (ends : Ends before walked result) :
    Outputs walked result := by
  cases walked with
  | error kind => exact RaisesAfter.raises ends
  | ok walked =>
      obtain ⟨after, ran, -⟩ := ends
      exact ⟨after, ran⟩

/-- The value that a render function returns. -/
theorem State.run_finishStatement (state : call.State values written now) :
    ∃ after, runStatement call.engine call.scene finishStatement now =
      .ok (.returned (.string written)) after ∧ now.Remains after := by
  obtain ⟨pieces, holds, flat⟩ := state.pieces
  obtain ⟨after, joined, remains⟩ : ∃ after, callValue call.below
      (.method (.string []) (text "join")) [.ref call.buffer] [] now =
        .ok (.string pieces.flatten) after ∧ now.Remains after :=
    callValue_join state.larger holds
  have method : evaluate call.engine call.scene (.attribute (.constant (.text [])) (text "join"))
      now = .ok (.method (.string []) (text "join")) now := by
    have constant : evaluate call.engine call.scene (.constant (.text [])) now =
        .ok (.string []) now := rfl
    rw [evaluate, bind_ok constant]
    exact attributeOf_join
  have written : evaluate call.engine call.scene (.call (.attribute (.constant (.text []))
      (text "join")) [.name (text "_buf")] []) now = .ok (.string written) after := by
    rw [evaluate_call rfl, bind_ok method, bind_ok state.evaluate_buffer, call.calls, joined, flat]
  refine ⟨after, ?_, remains⟩
  rw [finishStatement, runStatement, evaluateOption, bind_ok written]
  rfl

/-- The statements of a render function are those of a tree between the lines of every render
function. -/
theorem statements_eq {bound : List Variable} {tree : BlockTree} :
    RenderProgram.statements bound tree = bufferStatement :: appendStatement ::
      ((bound.map Variable.name).map bindingStatement ++ (tree.statements ++ [finishStatement])) := by
  have bindings : bound.map bindStatement = (bound.map Variable.name).map bindingStatement := by
    rw [List.map_map]
    refine List.map_congr_left fun shown _ => ?_
    rw [Function.comp_apply, bindingStatement, shown.isPublicName_eq_false]
    rfl
  rw [← bindings]
  rfl

/-- **The body of a render function returns what the walk along its tree writes**, or raises an
exception of the same kind, and leaves the objects from before the call as they are. -/
theorem runBody_statements {tree : BlockTree} {entries : List (Value × Value)}
    (knows : call.Knows tree.mentions) (context : call.ContextHas entries) :
    Ends call.before (tree.walk call.before (contextValues entries))
      (runBody call.engine call.scene (.block (RenderProgram.statements call.bound tree))
        (call.before.withContext call.context)) := by
  have state := context.state_entered
  have follows := simulates_tree tree knows _ _ _ state
  have entered : runBlock call.engine call.scene (RenderProgram.statements call.bound tree)
      (call.before.withContext call.context) =
        runBlock call.engine call.scene (tree.statements ++ [finishStatement])
          (call.before.entered (call.takenSlots entries)) := by
    rw [statements_eq]
    exact context.entersBody.runBlock_entry
  rw [runBody]
  cases ended : tree.walk call.before (contextValues entries) with
  | error kind =>
      rw [ended] at follows
      refine RaisesAfter.bind ?_
      rw [entered, runBlock_append]
      exact follows.bind
  | ok walked =>
      obtain ⟨content, others⟩ := walked
      rw [ended] at follows
      obtain ⟨now, ran, stateNow, -⟩ := follows
      obtain ⟨after, finished, remains⟩ := stateNow.run_finishStatement
      have returned : runBlock call.engine call.scene (RenderProgram.statements call.bound tree)
          (call.before.withContext call.context) = .ok (.returned (.string content)) after := by
        rw [entered, runBlock_append, bind_ok ran]
        dsimp only
        rw [runBlock, bind_ok finished]
        rfl
      refine ⟨after, ?_, stateNow.remains.trans remains⟩
      rw [bind_ok returned]
      rfl

end RenderCall

end Stencil
