import Mathlib.Logic.Function.Basic
import Stencil.Proofs.Run.Writing
import Stencil.Proofs.Tree.Program

/-! # Walking along a block tree

A walk along a tree keeps the values of variables and writes as it goes
(`Stencil.BlockTree.walk`): literal text as it is, the text of a variable's value, the body of a
loop once for each element of a value, and the first branch of a choice whose test counts as
true. The statements of the tree do in a run what the walk does
(`Stencil.RenderCall.simulates_tree`).
-/

namespace Stencil

open Script Run

/-- The values of variables. -/
abbrev VariableValues := Name → Option Value

/-- What a walk does from some values of the variables on: it writes a text and goes on with other
values, or it ends with an exception of a kind. -/
abbrev Walk := VariableValues → Except ExceptionKind (Text × VariableValues)

/-- The value of a variable; reading one without a value is an error. -/
def VariableValues.value (values : VariableValues) (shown : Variable) : Except ExceptionKind Value :=
  match values shown.name with
  | some value => .ok value
  | none => .error .unboundLocalError

/-- The text that is written for a value: none for nothing. -/
def writtenText (store : Store) (value : Value) : Except ExceptionKind Text :=
  if value.isNothing then .ok [] else (value.textIn store).mapError Complaint.kind

namespace Walk

/-- Nothing is done. -/
def nothing : Walk := fun values => .ok ([], values)

/-- A text is written. -/
def write (content : Text) : Walk := fun values => .ok (content, values)

/-- The text of a variable's value is written. -/
def writeValue (store : Store) (shown : Variable) : Walk := fun values => do
  let value ← values.value shown
  let content ← writtenText store value
  return (content, values)

/-- One walk follows another. -/
def andThen (first second : Walk) : Walk := fun values => do
  let (written, values) ← first values
  let (others, values) ← second values
  return (written ++ others, values)

/-- One of two walks, by the truth of a variable's value. -/
def choose (store : Store) (test : Variable) (body others : Walk) : Walk := fun values => do
  let value ← values.value test
  if value.isTrueIn store then body values else others values

/-- A variable gets a value before a walk. -/
def binding (target : Variable) (value : Value) (body : Walk) : Walk := fun values =>
  body (Function.update values target.name (some value))

/-- A walk once for each of some values of a variable. -/
def rounds (target : Variable) (body : Walk) : List Value → Walk
  | [] => nothing
  | first :: others => (binding target first body).andThen (rounds target body others)

/-- A walk once for each element of a variable's value. -/
def each (store : Store) (target source : Variable) (body : Walk) : Walk := fun values => do
  let value ← values.value source
  match value.elementsIn? store with
  | some elements => rounds target body elements values
  | none => throw .typeError

section

variable {store : Store} {values between : VariableValues} {kind : ExceptionKind} {value : Value}
  {first second body others : Walk} {target source test : Variable} {elements : List Value}

theorem andThen_of_error (failed : first values = .error kind) :
    first.andThen second values = .error kind := by
  simp only [andThen, failed, bind, Except.bind]

theorem andThen_of_ok {written : Text} (walked : first values = .ok (written, between)) :
    first.andThen second values =
      (second between).map fun behind => (written ++ behind.1, behind.2) := by
  simp only [andThen, walked, bind, Except.bind]
  cases second between <;> rfl

theorem choose_of_error (failed : values.value test = .error kind) :
    choose store test body others values = .error kind := by
  simp only [choose, failed, bind, Except.bind]

theorem choose_of_ok (read : values.value test = .ok value) :
    choose store test body others values =
      if value.isTrueIn store then body values else others values := by
  simp only [choose, read, bind, Except.bind]

theorem each_of_error (failed : values.value source = .error kind) :
    each store target source body values = .error kind := by
  simp only [each, failed, bind, Except.bind]

theorem each_of_none (read : values.value source = .ok value)
    (found : value.elementsIn? store = none) :
    each store target source body values = .error .typeError := by
  simp only [each, read, bind, Except.bind, found]
  rfl

theorem each_of_some (read : values.value source = .ok value)
    (found : value.elementsIn? store = some elements) :
    each store target source body values = rounds target body elements values := by
  simp only [each, read, bind, Except.bind, found]

end

theorem andThen_nothing {walk : Walk} : walk.andThen nothing = walk := by
  funext values
  change (walk values >>= fun before => pure (before.1 ++ [], before.2)) = walk values
  simp only [List.append_nil]
  exact bind_pure (walk values)

theorem nothing_andThen {walk : Walk} : nothing.andThen walk = walk := by
  funext values
  change (walk values >>= fun behind => pure ([] ++ behind.1, behind.2)) = walk values
  exact bind_pure (walk values)

end Walk

mutual

/-- The walk along a tree. -/
def BlockTree.walk (store : Store) : BlockTree → Walk
  | .done => .nothing
  | .literal content rest => (Walk.write content).andThen (rest.walk store)
  | .output shown rest => (Walk.writeValue store shown).andThen (rest.walk store)
  | .loop target source body rest =>
      (Walk.each store target source (body.walk store)).andThen (rest.walk store)
  | .choice test body others rest =>
      (Walk.choose store test (body.walk store) (others.walk store)).andThen (rest.walk store)

/-- The walk along the branches of a choice. -/
def Branches.walk (store : Store) : Branches → Walk
  | .none => .nothing
  | .otherwise body => body.walk store
  | .test test body others => Walk.choose store test (body.walk store) (others.walk store)

end

/-- A call of a render function that has begun: the store before it, the region of the data that
its variables may have, and the scene in which its statements run. -/
structure RenderCall where
  before : Store
  region : Address → Prop
  context : Value
  bound : List Variable
  own : List Name
  scene : Scene
  engine : Engine
  below : Engine
  isRegion : before.IsDataRegion region
  calls : engine.call = callValue below
  layers : scene.layers = [⟨own, [], before.objects.size⟩]
  globals_lt : scene.globals < before.objects.size
  knowsWritten : ∃ slots, before.object scene.globals = .frame slots ∧
    slots.lookup (text "_str") = some (.builtin .written)
  bound_own : ∀ shown ∈ bound, shown.name ∈ own
  reserved_own : ∀ name ∈ [text "ctx", text "_buf", text "_append"], name ∈ own
  str_not_own : text "_str" ∉ own

namespace RenderCall

variable (call : RenderCall)

/-- The list of what has been written comes behind the frame. -/
def buffer : Address := call.before.objects.size + 1

/-- The slots of a call's frame: what every render function has, and the values of variables. -/
structure HasSlots (values : VariableValues) (slots : List (Name × Value)) : Prop where
  context : slots.lookup (text "ctx") = some call.context
  list : slots.lookup (text "_buf") = some (.ref call.buffer)
  method : slots.lookup (text "_append") =
    some (.method (.ref call.buffer) (text "append"))
  lookup_eq : ∀ shown ∈ call.bound, slots.lookup shown.name = values shown.name

/-- The store of a call that has come to some values of the variables and to some text. -/
structure State (values : VariableValues) (written : Text) (now : Store) : Prop where
  kept : ∀ address < call.before.objects.size, now.object address = call.before.object address
  larger : call.buffer < now.objects.size
  frame : ∃ slots, now.object call.before.objects.size = .frame slots ∧
    call.HasSlots values slots
  pieces : ∃ pieces : List Text, now.object call.buffer = .list (pieces.map Value.string).toArray ∧
    pieces.flatten = written
  data : ∀ shown ∈ call.bound, ∀ value, values shown.name = some value →
    IsData call.region value

/-- A store goes on from another one: what the call has made, apart from its frame and the list,
has not changed. -/
structure Advances (start now : Store) : Prop where
  size_le : start.objects.size ≤ now.objects.size
  object_eq : ∀ address, call.buffer < address → address < start.objects.size →
    now.object address = start.object address

/-- A run that ends like a walk: with what the walk writes and the values behind it, or with an
exception of the same kind. The objects from before the call are as they were. -/
def Follows {α : Type} (walked : Except ExceptionKind (Text × VariableValues)) (written : Text)
    (start : Store) (ended : α) (result : EStateM.Result Stop Store α) : Prop :=
  match walked with
  | .ok (content, values) => ∃ now, result = .ok ended now ∧
      call.State values (written ++ content) now ∧ call.Advances start now
  | .error kind => RaisesAfter call.before kind result

/-- A run does what a walk does, wherever the call has come to. -/
def Simulates (run : Action Flow) (walk : Walk) : Prop :=
  ∀ (values : VariableValues) (written : Text) (start : Store),
    call.State values written start →
      call.Follows (walk values) written start .next (run start)

variable {call} {values : VariableValues} {written : Text} {start now : Store}

theorem State.remains (state : call.State values written now) : call.before.Remains now :=
  ⟨Nat.le_of_lt (Nat.lt_trans (Nat.lt_succ_self _) state.larger), state.kept⟩

theorem Advances.refl : call.Advances start start := ⟨Nat.le_refl _, fun _ _ _ => rfl⟩

theorem Advances.trans {after : Store} (first : call.Advances start now)
    (second : call.Advances now after) : call.Advances start after where
  size_le := Nat.le_trans first.size_le second.size_le
  object_eq address behind within := by
    rw [second.object_eq address behind (Nat.lt_of_lt_of_le within first.size_le),
      first.object_eq address behind within]

end RenderCall

end Stencil
