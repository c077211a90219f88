import Stencil.Proofs.Reach.Classes
import Stencil.Run.Call

/-! # Calls outside a fence

Whatever is called with arguments outside gives a value outside. A function of the program gets a new
frame for its arguments, which is never the gate, so its body may run there whenever it may run where
it was defined.
-/

namespace Stencil.Run

open Script

variable {fence : Fence} {engine : Engine} {value : Value} {arguments : Arguments} {name : Name}

theorem spares_attributeOf? (outside : value.IsOutside fence) :
    Spares fence (MaybeOutside fence) (attributeOf? value name) := by
  refine (spares_attempt (spares_attributeOf outside)).bind fun ended isOutside => ?_
  cases ended with
  | ok found => exact .pure (maybeOutside_some isOutside)
  | error exception =>
      refine (spares_load isOutside).bind fun object _ => ?_
      split
      · exact .pure maybeOutside_none
      · exact .throw (.raised isOutside)

theorem spares_calleeLabel : SparesAll fence (calleeLabel value) := by
  refine Spares.get.bind fun store _ => ?_
  split
  case h_6 =>
    split
    · exact .pure trivial
    · exact spares_textOf
  case h_7 => exact spares_textOf
  all_goals exact .pure trivial

/-- The arguments that have found their parameters are outside. -/
structure Bound.IsOutside (fence : Fence) (bound : Bound) : Prop where
  slots : NamedOutside fence bound.slots
  others : NamedOutside fence bound.others

namespace ParameterList

variable {list : ParameterList}

theorem namedOutside_concat {named : List (Name × Value)} (outside : NamedOutside fence named)
    (valueOutside : value.IsOutside fence) : NamedOutside fence (named ++ [(name, value)]) :=
  List.forall_mem_append.mpr ⟨outside, List.forall_mem_singleton.mpr valueOutside⟩

theorem spares_bindNamed {named rest : List (Name × Value)} (restOutside : NamedOutside fence rest)
    {bound : Bound} (outside : bound.IsOutside fence) :
    Spares fence (Bound.IsOutside fence) (list.bindNamed named rest bound) := by
  induction rest generalizing bound with
  | nil => exact .pure outside
  | cons first rest ih =>
      obtain ⟨firstOutside, others⟩ := List.forall_mem_cons.mp restOutside
      refine .ite (fun _ => .ite (fun _ => spares_complain) fun _ => ?_) fun _ =>
        .ite (fun _ => ?_) fun _ => spares_complain
      · exact ih others { outside with slots := namedOutside_concat outside.slots firstOutside }
      · exact ih others { outside with others := namedOutside_concat outside.others firstOutside }

theorem namedOutside_defaults {parameters : List FormalParameter} {slots : List (Name × Value)}
    (outside : ∀ parameter ∈ parameters, MaybeOutside fence parameter.standard) :
    NamedOutside fence (defaults parameters slots) := by
  intro slot member
  obtain ⟨parameter, isParameter, found⟩ := List.mem_filterMap.mp member
  split at found
  · cases found
  · obtain ⟨standard, isStandard, rfl⟩ := Option.map_eq_some_iff.mp found
    exact outside parameter isParameter standard isStandard

/-- The positional arguments that find no parameter are outside together. -/
theorem namedOutside_rest (list : ParameterList) (given : arguments.AreOutside fence) :
    NamedOutside fence (match list.only? .rest with
      | some parameter =>
          [(parameter.name, Value.tuple (arguments.positional.drop list.positional.length))]
      | none => []) := by
  split
  · exact List.forall_mem_singleton.mpr
      (.tuple fun value member => given.positional value (List.mem_of_mem_drop member))
  · exact namedOutside_nil

/-- The named arguments that find no parameter are outside together. -/
theorem spares_withOthers {slots others : List (Name × Value)} (slotsOutside : NamedOutside fence slots)
    (othersOutside : NamedOutside fence others) :
    Spares fence (NamedOutside fence) (do
      match list.only? .restKeywords with
      | none => return slots
      | some parameter => do
          let others ← newDict (others.map fun entry => (.string entry.1, entry.2))
          return slots ++ [(parameter.name, others)]) := by
  split
  · exact .pure slotsOutside
  · exact (spares_newDict (entriesOutside_named othersOutside)).bind fun others isOutside =>
      .pure (namedOutside_concat slotsOutside isOutside)

/-- Arguments outside become slots outside. -/
theorem spares_bind (given : arguments.AreOutside fence)
    (outside : ∀ parameter ∈ list.parameters, MaybeOutside fence parameter.standard) :
    Spares fence (NamedOutside fence) (list.bind arguments) := by
  have direct : NamedOutside fence
      ((list.positional.zip arguments.positional).map fun entry => (entry.1.name, entry.2)) := by
    intro slot member
    obtain ⟨entry, inside, rfl⟩ := List.mem_map.mp member
    exact given.positional entry.2 (List.of_mem_zip inside).2
  have first : Bound.IsOutside fence ⟨_, []⟩ :=
    ⟨List.forall_mem_append.mpr ⟨direct, namedOutside_rest list given⟩, namedOutside_nil⟩
  refine (spares_bindNamed given.named first).bind fun bound boundOutside => ?_
  have filled : NamedOutside fence (bound.slots ++ defaults (list.positional ++
      list.parameters.filter fun parameter => parameter.kind == .keywordOnly) bound.slots) := by
    refine List.forall_mem_append.mpr ⟨boundOutside.slots, namedOutside_defaults fun parameter member => ?_⟩
    rcases List.mem_append.mp member with isPositional | isNamed
    · exact outside parameter (List.mem_filter.mp isPositional).1
    · exact outside parameter (List.mem_filter.mp isNamed).1
  refine .ite (fun _ => spares_complain) fun _ => .ite (fun _ => spares_complain) fun _ => ?_
  exact .ite (fun _ => spares_complain) fun _ => spares_withOthers filled boundOutside.others

end ParameterList

/-- A scene with one more layer is outside when the frame of the layer is. -/
theorem Scene.IsOutside.enter {scene inner : Scene} (outside : scene.IsOutside fence) {layer : Layer}
    (isOpen : fence.IsOpen layer.frame) (layers : inner.layers = layer :: scene.layers)
    (globals : inner.globals = scene.globals)
    (collects : ∀ address, inner.collector = some address → fence.IsOpen address) :
    inner.IsOutside fence where
  frames := by
    rw [layers]
    exact List.forall_mem_cons.mpr ⟨isOpen.not_enclosed, outside.frames⟩
  globals := globals ▸ outside.globals
  collector := collects

/-- What may run in a scene may run in it with one more layer. -/
theorem Fence.Admits.enter {scene inner : Scene} {mentions : List Mention}
    (admits : fence.Admits scene mentions) {layer : Layer} (isOpen : fence.IsOpen layer.frame)
    (layers : inner.layers = layer :: scene.layers) : fence.Admits inner mentions := by
  intro isRead
  rw [layers]
  exact List.forall_mem_cons.mpr ⟨isOpen.ne_gate, admits isRead⟩

end Stencil.Run
