import Stencil.Proofs.Run.Store
import Stencil.Run.Iteration

/-! # What a run cannot reach

A fence encloses objects of the store that nothing outside of it leads to. There is one gate: the
frame of a render function, whose context may lie behind the fence. A name leads through the gate
only if it is that of the context, so code that stands where it can see this frame must not read it
(`Stencil.Run.Fence.Admits`); everything else may be done outside. A fence holds in a store
(`Stencil.Run.Fence.Holds`) as long as all other objects stay outside and those behind it are as
they were, which new objects and changes of objects outside do not disturb.
-/

namespace Stencil.Run

open Script

/-- Objects that a run cannot reach, and the frame in which the name of the context may lead to
them. -/
structure Fence where
  encloses : Address → Prop
  content : Address → Object
  gate : Address

namespace Fence

/-- An address outside that no value needs to avoid. -/
structure IsOpen (fence : Fence) (address : Address) : Prop where
  not_enclosed : ¬fence.encloses address
  ne_gate : address ≠ fence.gate

end Fence

/-- The name of the context of a render function. -/
def contextName : Name := text "ctx"

section

variable (fence : Fence)

/-- A value that leads to nothing behind the fence. -/
inductive Value.IsOutside : Value → Prop
  | nothing : IsOutside .nothing
  | ellipsis : IsOutside .ellipsis
  | notImplemented : IsOutside .notImplemented
  | bool (value : Bool) : IsOutside (.bool value)
  | int (value : Int) : IsOutside (.int value)
  | float (value : Float) : IsOutside (.float value)
  | string (value : Text) : IsOutside (.string value)
  | bytes (value : List Nat) : IsOutside (.bytes value)
  | tuple {items : List Value} (parts : ∀ item ∈ items, IsOutside item) : IsOutside (.tuple items)
  | range (start stop step : Int) : IsOutside (.range start stop step)
  | slice {lower upper step : Value} (lowerOutside : IsOutside lower)
      (upperOutside : IsOutside upper) (stepOutside : IsOutside step) :
      IsOutside (.slice lower upper step)
  | view (kind : ViewKind) {dict : Address} (isOpen : fence.IsOpen dict) :
      IsOutside (.view kind dict)
  | ofKind (kind : Kind) : IsOutside (.ofKind kind)
  | builtin (function : Builtin) : IsOutside (.builtin function)
  | method {receiver : Value} (outside : IsOutside receiver) (name : Name) :
      IsOutside (.method receiver name)
  | unboundMethod (kind : Kind) (name : Name) : IsOutside (.unboundMethod kind name)
  | publicModule : IsOutside .publicModule
  | ref {address : Address} (isOpen : fence.IsOpen address) : IsOutside (.ref address)

/-- Values outside. -/
abbrev AreOutside (values : List Value) : Prop := ∀ value ∈ values, value.IsOutside fence

/-- A value outside, if there is one. -/
abbrev MaybeOutside (found : Option Value) : Prop := ∀ value, found = some value → value.IsOutside fence

/-- Entries of which both parts are outside. -/
abbrev EntriesOutside (entries : List (Value × Value)) : Prop :=
  ∀ entry ∈ entries, entry.1.IsOutside fence ∧ entry.2.IsOutside fence

/-- Named values outside. -/
abbrev NamedOutside (named : List (Name × Value)) : Prop :=
  ∀ entry ∈ named, entry.2.IsOutside fence

/-- Where a piece of the program runs, outside; its frames may be the gate. -/
structure Scene.IsOutside (scene : Scene) : Prop where
  frames : ∀ layer ∈ scene.layers, ¬fence.encloses layer.frame
  globals : fence.IsOpen scene.globals
  collector : ∀ address, scene.collector = some address → fence.IsOpen address

/-- Code with these names may run in a scene: it does not read the context if it can see the gate. -/
def Fence.Admits (scene : Scene) (mentions : List Mention) : Prop :=
  .read contextName ∈ mentions → ∀ layer ∈ scene.layers, layer.frame ≠ fence.gate

/-- The names in what a function runs. -/
def FunctionBody.mentions : FunctionBody → List Mention
  | .block body => stmtsMentions body
  | .value body => body.mentions

/-- The names in what a comprehension makes of each round. -/
def Yielded.mentions : Yielded → List Mention
  | .element value => value.mentions
  | .pair key value => key.mentions ++ value.mentions

/-- A function outside. -/
structure Function.IsOutside (function : Function) : Prop where
  standards : ∀ parameter ∈ function.parameters, MaybeOutside fence parameter.standard
  scene : function.scene.IsOutside fence
  admits : fence.Admits function.scene function.body.mentions

/-- A comprehension outside. -/
structure Pipeline.IsOutside (state : Pipeline) : Prop where
  scene : state.scene.IsOutside fence
  yielded : fence.Admits state.scene state.yielded.mentions
  entered : ∀ entry ∈ state.entered,
    entry.1.IsOutside fence ∧ fence.Admits state.scene entry.2.mentions
  waiting : ∀ clause ∈ state.waiting, fence.Admits state.scene clause.mentions

/-- How a statement is left, outside. -/
inductive Flow.IsOutside : Flow → Prop
  | next : IsOutside .next
  | breakLoop : IsOutside .breakLoop
  | continueLoop : IsOutside .continueLoop
  | returned {value : Value} (outside : value.IsOutside fence) : IsOutside (.returned value)

/-- A departure outside. -/
inductive DepartsOutside : Departure → Prop
  | ok {flow : Flow} (outside : flow.IsOutside fence) : DepartsOutside (.ok flow)
  | error {exception : Address} (isOpen : fence.IsOpen exception) :
      DepartsOutside (.error exception)

/-- What is left of the body of a generator, outside. -/
inductive Remainder.IsOutside (scene : Scene) : Remainder → Prop
  | block {rest : List Stmt} (admits : fence.Admits scene (stmtsMentions rest)) :
      IsOutside scene (.block rest)
  | whileLoop {test : Expr} {body otherwise : List Stmt} (testAdmits : fence.Admits scene test.mentions)
      (bodyAdmits : fence.Admits scene (stmtsMentions body))
      (otherwiseAdmits : fence.Admits scene (stmtsMentions otherwise)) :
      IsOutside scene (.whileLoop test body otherwise)
  | forLoop {target : Target} {iterator : Value} {body otherwise : List Stmt}
      (targetAdmits : fence.Admits scene target.mentions) (outside : iterator.IsOutside fence)
      (bodyAdmits : fence.Admits scene (stmtsMentions body))
      (otherwiseAdmits : fence.Admits scene (stmtsMentions otherwise)) :
      IsOutside scene (.forLoop target iterator body otherwise)
  | handOn {iterator : Value} (outside : iterator.IsOutside fence) :
      IsOutside scene (.handOn iterator)
  | guarded {handlers : List Handler} {otherwise always : List Stmt}
      (handlersAdmit : fence.Admits scene (handlersMentions handlers))
      (otherwiseAdmits : fence.Admits scene (stmtsMentions otherwise))
      (alwaysAdmits : fence.Admits scene (stmtsMentions always)) :
      IsOutside scene (.guarded handlers otherwise always)
  | handling {exception : Address} (isOpen : fence.IsOpen exception) (name : Option Name) :
      IsOutside scene (.handling exception name)
  | ensured {always : List Stmt} (admits : fence.Admits scene (stmtsMentions always)) :
      IsOutside scene (.ensured always)
  | concluding {departure : Departure} (outside : DepartsOutside fence departure) :
      IsOutside scene (.concluding departure)

/-- A cursor outside. -/
inductive Cursor.IsOutside : Cursor → Prop
  | finished : IsOutside .finished
  | items {rest : List Value} (outside : AreOutside fence rest) : IsOutside (.items rest)
  | list {address : Address} (isOpen : fence.IsOpen address) (index : Nat) :
      IsOutside (.list address index)
  | listBackwards {address : Address} (isOpen : fence.IsOpen address) (index : Nat) :
      IsOutside (.listBackwards address index)
  | view {walk : ViewWalk} (isOpen : fence.IsOpen walk.dict) : IsOutside (.view walk)
  | viewBackwards {walk : ViewWalk} (isOpen : fence.IsOpen walk.dict) :
      IsOutside (.viewBackwards walk)
  | set {address : Address} (isOpen : fence.IsOpen address) (index size : Nat) :
      IsOutside (.set address index size)
  | range (next step : Int) (count : Nat) : IsOutside (.range next step count)
  | enumerate {source : Value} (outside : source.IsOutside fence) (count : Int) :
      IsOutside (.enumerate source count)
  | zip {sources : List Value} (outside : AreOutside fence sources) (isStrict : Bool) :
      IsOutside (.zip sources isStrict)
  | map {function : Value} {sources : List Value} (functionOutside : function.IsOutside fence)
      (outside : AreOutside fence sources) : IsOutside (.map function sources)
  | filter {test source : Value} (testOutside : test.IsOutside fence)
      (outside : source.IsOutside fence) : IsOutside (.filter test source)
  | pipeline {state : Pipeline} (outside : state.IsOutside fence) : IsOutside (.pipeline state)
  | paused {scene : Scene} {departure : Departure} {rest : List Remainder} {ready : List Value}
      (sceneOutside : scene.IsOutside fence) (departs : DepartsOutside fence departure)
      (restOutside : ∀ remainder ∈ rest, remainder.IsOutside fence scene)
      (readyOutside : AreOutside fence ready) : IsOutside (.paused scene departure rest ready)
  | running {found : Array Value} (outside : AreOutside fence found.toList) :
      IsOutside (.running found)

/-- An object outside. -/
inductive Object.IsOutside : Object → Prop
  | list {items : Array Value} (outside : AreOutside fence items.toList) : IsOutside (.list items)
  | dict {content : Dictionary} (outside : EntriesOutside fence content.entries) :
      IsOutside (.dict content)
  | set {members : List Value} (outside : AreOutside fence members) : IsOutside (.set members)
  | fields {named : List (Name × Value)} (outside : NamedOutside fence named) :
      IsOutside (.namespace named)
  | proxy {dict : Address} (isOpen : fence.IsOpen dict) : IsOutside (.proxy dict)
  | function {function : Function} (outside : function.IsOutside fence) :
      IsOutside (.function function)
  | cursor (kind : Kind) {cursor : Cursor} (outside : cursor.IsOutside fence) :
      IsOutside (.cursor kind cursor)
  | exception (kind : ExceptionKind) {arguments : List Value}
      (outside : AreOutside fence arguments) : IsOutside (.exception kind arguments)
  | frame {slots : List (Name × Value)} (outside : NamedOutside fence slots) :
      IsOutside (.frame slots)

/-- Why a run stops, outside. -/
inductive Stop.IsOutside : Stop → Prop
  | raised {exception : Address} (isOpen : fence.IsOpen exception) : IsOutside (.raised exception)
  | unfinished : IsOutside .unfinished
  | unsupported (part : String) : IsOutside (.unsupported part)

/-- The frame at the gate: all its names but that of the context lead outside. -/
def GateOutside (object : Object) : Prop :=
  ∀ slots, object = .frame slots → ∀ slot ∈ slots, slot.1 ≠ contextName → slot.2.IsOutside fence

/-- Nothing in a store leads behind a fence but the context at the gate, and what lies behind it is
as it was. -/
structure Fence.Holds (store : Store) : Prop where
  lt_size : ∀ address, fence.encloses address → address < store.objects.size
  gate_lt : fence.gate < store.objects.size
  gate_outside : ¬fence.encloses fence.gate
  kept : ∀ address, fence.encloses address → store.object address = fence.content address
  outside : ∀ address, fence.IsOpen address → (store.object address).IsOutside fence
  gate : GateOutside fence (store.object fence.gate)
  handling : ∀ exception ∈ store.handling, fence.IsOpen exception

end

namespace Fence

variable {fence : Fence} {scene : Scene} {mentions others : List Mention} {store : Store}
  {object : Object} {address : Address}

@[simp] theorem admits_append :
    fence.Admits scene (mentions ++ others) ↔ fence.Admits scene mentions ∧ fence.Admits scene others := by
  simp only [Admits, List.mem_append]
  exact ⟨fun admits => ⟨admits ∘ .inl, admits ∘ .inr⟩,
    fun admits isRead => isRead.elim admits.1 admits.2⟩

@[simp] theorem admits_bind_cons {name : Name} :
    fence.Admits scene (.bind name :: mentions) ↔ fence.Admits scene mentions := by
  simp [Admits]

/-- A new object stands outside. -/
theorem Holds.isOpen_size (holds : fence.Holds store) : fence.IsOpen store.objects.size :=
  ⟨fun inside => Nat.lt_irrefl _ (holds.lt_size _ inside), (Nat.ne_of_lt holds.gate_lt).symm⟩

/-- A fence holds on when an object comes that is outside. -/
theorem Holds.push (holds : fence.Holds store) (outside : object.IsOutside fence) :
    fence.Holds (store.push object) := by
  constructor
  case lt_size =>
    intro address inside
    rw [Store.size_push]
    exact Nat.lt_succ_of_lt (holds.lt_size address inside)
  case gate_lt =>
    rw [Store.size_push]
    exact Nat.lt_succ_of_lt holds.gate_lt
  case gate_outside => exact holds.gate_outside
  case kept =>
    intro address inside
    rw [Store.object_push_of_lt (holds.lt_size address inside), holds.kept address inside]
  case outside =>
    intro address isOpen
    rcases Nat.lt_trichotomy address store.objects.size with before | here | behind
    · rw [Store.object_push_of_lt before]
      exact holds.outside address isOpen
    · rw [here, Store.object_push_size]
      exact outside
    · rw [Store.object_of_size_le (Nat.le_trans (Nat.le_of_eq Store.size_push) behind)]
      exact .frame fun slot member => nomatch member
  case gate =>
    rw [Store.object_push_of_lt holds.gate_lt]
    exact holds.gate
  case handling => exact holds.handling

/-- A fence holds on when an object outside is changed to one that is outside. -/
theorem Holds.change (holds : fence.Holds store) (isOpen : fence.IsOpen address)
    {step : Object → Object}
    (outside : ∀ object : Object, object.IsOutside fence → (step object).IsOutside fence) :
    fence.Holds (store.change address step) := by
  have others {other : Address} (differs : other ≠ address) :
      (store.change address step).object other = store.object other :=
    Store.object_change_of_ne differs
  constructor
  case lt_size =>
    intro other inside
    rw [Store.size_change]
    exact holds.lt_size other inside
  case gate_lt =>
    rw [Store.size_change]
    exact holds.gate_lt
  case gate_outside => exact holds.gate_outside
  case kept =>
    intro other inside
    rw [others fun same => isOpen.not_enclosed (same ▸ inside), holds.kept other inside]
  case outside =>
    intro other otherOpen
    by_cases same : other = address
    · subst same
      by_cases within : other < store.objects.size
      · rw [Store.object_change_self within]
        exact outside _ (holds.outside other isOpen)
      · rw [Store.object_of_size_le (Nat.le_trans (Nat.le_of_eq Store.size_change)
          (Nat.le_of_not_lt within))]
        exact .frame fun slot member => nomatch member
    · rw [others same]
      exact holds.outside other otherOpen
  case gate =>
    rw [others isOpen.ne_gate.symm]
    exact holds.gate
  case handling => exact holds.handling

/-- A fence holds on when the gate is changed to a frame that leads outside. -/
theorem Holds.change_gate (holds : fence.Holds store) {step : Object → Object}
    (outside : ∀ object, GateOutside fence object → GateOutside fence (step object)) :
    fence.Holds (store.change fence.gate step) := by
  have others {other : Address} (differs : other ≠ fence.gate) :
      (store.change fence.gate step).object other = store.object other :=
    Store.object_change_of_ne differs
  constructor
  case lt_size =>
    intro other inside
    rw [Store.size_change]
    exact holds.lt_size other inside
  case gate_lt =>
    rw [Store.size_change]
    exact holds.gate_lt
  case gate_outside => exact holds.gate_outside
  case kept =>
    intro other inside
    rw [others fun same => holds.gate_outside (same ▸ inside), holds.kept other inside]
  case outside =>
    intro other isOpen
    rw [others isOpen.ne_gate]
    exact holds.outside other isOpen
  case gate =>
    rw [Store.object_change_self holds.gate_lt]
    exact outside _ holds.gate
  case handling => exact holds.handling

/-- A fence holds on when exceptions outside are handled. -/
theorem Holds.handle (holds : fence.Holds store) {handling : List Address}
    (outside : ∀ exception ∈ handling, fence.IsOpen exception) :
    fence.Holds { store with handling := handling } :=
  { holds with handling := outside }

end Fence

end Stencil.Run
