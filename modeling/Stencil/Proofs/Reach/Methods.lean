import Stencil.Proofs.Reach.Operators
import Stencil.Run.Method.Lists
import Stencil.Run.Method.Mappings
import Stencil.Run.Method.Strings

/-! # Methods outside a fence

A method of a value outside, called with arguments outside, changes that value at most and gives a
value outside. What is put into a list, a dictionary or a set comes from the arguments.
-/

namespace Stencil.Run

open Script

variable {fence : Fence} {engine : Engine} {address : Address} {arguments : Arguments}
  {value : Value}

/-- The first of the arguments by position, and the others. -/
theorem Arguments.AreOutside.cons {first : Value} {rest : List Value}
    (outside : arguments.AreOutside fence) (split : arguments.positional = first :: rest) :
    first.IsOutside fence ∧ Run.AreOutside fence rest := by
  have whole := outside.positional
  rw [split] at whole
  exact areOutside_cons.mp whole

theorem isOutside_headD {values : List Value} (outside : AreOutside fence values)
    (usual : value.IsOutside fence) : (values.headD value).IsOutside fence := by
  cases values with
  | nil => exact usual
  | cons first rest => exact outside first List.mem_cons_self

/-- A method of a list keeps a fence. -/
def ListMethod.Spares (fence : Fence) (method : ListMethod) : Prop :=
  ∀ {engine address arguments}, engine.Spares fence → fence.IsOpen address →
    arguments.AreOutside fence →
    Run.Spares fence (Value.IsOutside fence) (method engine address arguments)

namespace ListMethod

theorem spares_itemsOf (isOpen : fence.IsOpen address) :
    Run.Spares fence (fun items => AreOutside fence items.toList) (itemsOf address) := by
  refine (spares_load isOpen).bind fun object outside => ?_
  cases outside with
  | list itemsOutside => exact .pure itemsOutside
  | _ => exact .pure nofun

theorem spares_changeItems {step : Array Value → Array Value} (isOpen : fence.IsOpen address)
    (outside : ∀ items : Array Value, AreOutside fence items.toList →
      AreOutside fence (step items).toList) :
    SparesAll fence (changeItems address step) := by
  refine spares_change isOpen fun object isOutside => ?_
  cases object with
  | list items =>
      cases isOutside with
      | list itemsOutside => exact .list (outside _ itemsOutside)
  | _ => exact isOutside

theorem spares_push (isOpen : fence.IsOpen address) (outside : value.IsOutside fence) :
    SparesAll fence (changeItems address (·.push value)) := by
  refine spares_changeItems isOpen fun items itemsOutside => ?_
  rw [Array.toList_push]
  exact areOutside_append.mpr ⟨itemsOutside, areOutside_singleton.mpr outside⟩

theorem spares_appendDrawn (sound : engine.Spares fence) (isOpen : fence.IsOpen address)
    {iterator : Value} (outside : iterator.IsOutside fence) (rounds : Nat) :
    SparesAll fence (appendDrawn engine address iterator rounds) := by
  induction rounds with
  | zero => exact .throw .unfinished
  | succ rounds ih =>
      refine (spares_draw sound outside).bind fun drawn isOutside => ?_
      cases drawn with
      | none => exact .pure trivial
      | some value => exact (spares_push isOpen (isOutside value rfl)).andThen ih

theorem spares_appendIterated (sound : engine.Spares fence) (isOpen : fence.IsOpen address)
    (outside : value.IsOutside fence) : SparesAll fence (appendIterated engine address value) :=
  (spares_iterate outside).bind fun _ iteratorOutside =>
    (spares_roundsOf iteratorOutside).bind fun rounds _ =>
      spares_appendDrawn sound isOpen iteratorOutside rounds

theorem spares_appendAll (sound : engine.Spares fence) (isOpen : fence.IsOpen address)
    (outside : value.IsOutside fence) : SparesAll fence (appendAll engine address value) := by
  have joined {others : Array Value} (othersOutside : AreOutside fence others.toList) :
      SparesAll fence (changeItems address (· ++ others)) := by
    refine spares_changeItems isOpen fun items itemsOutside => ?_
    rw [Array.toList_append]
    exact areOutside_append.mpr ⟨itemsOutside, othersOutside⟩
  have iterated := spares_appendIterated sound isOpen outside
  cases outside with
  | tuple parts => exact joined parts
  | ref otherOpen =>
      refine (spares_load otherOpen).bind fun object objectOutside => ?_
      cases objectOutside with
      | list itemsOutside => exact joined itemsOutside
      | _ => exact iterated
  | _ => exact iterated

theorem spares_sortArguments (outside : arguments.AreOutside fence) :
    Run.Spares fence (fun found => found.1.IsOutside fence) (sortArguments arguments) := by
  refine (Signature.spares_bind outside).bind fun bound boundOutside => ?_
  have key : (((bound.head?).getD none).getD .nothing).IsOutside fence := by
    rw [List.head?_eq_getElem?]
    exact isOutside_argument boundOutside 0 .nothing
  dsimp only
  split
  · exact sparesAll_wholeArgument.bind fun _ _ => .pure key
  · exact .pure key

theorem spares_sort : ListMethod.Spares fence sort := by
  intro engine address arguments sound isOpen outside
  refine .ite (fun _ => spares_complain) fun _ => ?_
  refine (spares_sortArguments outside).bind fun found keyOutside => ?_
  refine (spares_itemsOf isOpen).bind fun items itemsOutside => ?_
  refine (spares_sortValues sound keyOutside itemsOutside).bind fun sorted sortedOutside => ?_
  exact (spares_changeItems isOpen fun _ _ => sortedOutside).andThen (.pure .nothing)

end ListMethod

/-- A method of a mapping or a set keeps a fence. -/
def MappingMethod.Spares (fence : Fence) (method : MappingMethod) : Prop :=
  ∀ {engine address arguments}, engine.Spares fence → fence.IsOpen address →
    arguments.AreOutside fence →
    Run.Spares fence (Value.IsOutside fence) (method engine address arguments)

namespace MappingMethod

theorem spares_changeContent {step : Dictionary → Dictionary} (isOpen : fence.IsOpen address)
    (outside : ∀ content : Dictionary, EntriesOutside fence content.entries →
      EntriesOutside fence (step content).entries) :
    SparesAll fence (changeContent address step) := by
  refine spares_change isOpen fun object isOutside => ?_
  cases object with
  | dict content =>
      cases isOutside with
      | dict entriesOutside => exact .dict (outside _ entriesOutside)
  | _ => exact isOutside

theorem spares_insertEntry {key : Value} (isOpen : fence.IsOpen address)
    (keyOutside : key.IsOutside fence) (outside : value.IsOutside fence) :
    SparesAll fence (changeContent address (.insert key value)) :=
  spares_changeContent isOpen fun _ entriesOutside =>
    entriesOutside_insertKey entriesOutside keyOutside outside

theorem spares_pairOf (sound : engine.Spares fence) {place : Nat} (outside : value.IsOutside fence) :
    Run.Spares fence (fun pair => pair.1.IsOutside fence ∧ pair.2.IsOutside fence)
      (pairOf engine place value) := by
  refine (spares_collectOr sound outside).bind fun items itemsOutside => ?_
  split
  · obtain ⟨keyOutside, valueOutside⟩ := areOutside_cons.mp itemsOutside
    exact spares_requireKey.andThen (.pure ⟨keyOutside, areOutside_singleton.mp valueOutside⟩)
  · exact spares_complain

theorem spares_insertDrawn (sound : engine.Spares fence) (isOpen : fence.IsOpen address)
    {iterator : Value} (outside : iterator.IsOutside fence) (rounds place : Nat) :
    SparesAll fence (insertDrawn engine address iterator rounds place) := by
  induction rounds generalizing place with
  | zero => exact .throw .unfinished
  | succ rounds ih =>
      refine (spares_draw sound outside).bind fun drawn isOutside => ?_
      cases drawn with
      | none => exact .pure trivial
      | some element =>
          refine (spares_pairOf sound (isOutside element rfl)).bind fun pair pairOutside => ?_
          exact (spares_insertEntry isOpen pairOutside.1 pairOutside.2).andThen (ih (place + 1))

theorem spares_updateFrom (sound : engine.Spares fence) (isOpen : fence.IsOpen address)
    {source : Option Value} (outside : MaybeOutside fence source) {named : List (Name × Value)}
    (namedOutside : NamedOutside fence named) :
    SparesAll fence (updateFrom engine address source named) := by
  have merged {entries : List (Value × Value)} (entriesOutside : EntriesOutside fence entries) :
      SparesAll fence (changeContent address (.merge entries)) :=
    spares_changeContent isOpen fun _ contentOutside =>
      entriesOutside_merge contentOutside entriesOutside
  have last := merged (entriesOutside_named namedOutside)
  cases source with
  | none => exact last
  | some source =>
      have sourceOutside := outside source rfl
      refine Spares.get.bind fun store fenced => ?_
      cases isMapping : source.entriesIn? store with
      | some entries => exact (merged (fenced.entriesIn sourceOutside isMapping)).andThen last
      | none =>
          refine (spares_iterate sourceOutside).bind fun iterator iteratorOutside => ?_
          refine (spares_roundsOf iteratorOutside).bind fun rounds _ => ?_
          exact (spares_insertDrawn sound isOpen iteratorOutside rounds 0).andThen last

theorem maybeOutside_head? {values : List Value} (outside : AreOutside fence values) :
    MaybeOutside fence values.head? :=
  fun _ found => outside _ (List.mem_of_head? found)

theorem spares_changeMembers {step : List Value → List Value} (isOpen : fence.IsOpen address)
    (outside : ∀ members, AreOutside fence members → AreOutside fence (step members)) :
    SparesAll fence (changeMembers address step) := by
  refine spares_change isOpen fun object isOutside => ?_
  cases object with
  | set members =>
      cases isOutside with
      | set membersOutside => exact .set (outside _ membersOutside)
  | _ => exact isOutside

theorem areOutside_insertMember {members : List Value} (outside : AreOutside fence members)
    (valueOutside : value.IsOutside fence) : AreOutside fence (insertMember value members) := by
  rw [insertMember]
  split
  · exact outside
  · exact areOutside_append.mpr ⟨outside, areOutside_singleton.mpr valueOutside⟩

theorem spares_insertMember (isOpen : fence.IsOpen address) (outside : value.IsOutside fence) :
    SparesAll fence (changeMembers address (insertMember value)) :=
  spares_changeMembers isOpen fun _ membersOutside =>
    areOutside_insertMember membersOutside outside

end MappingMethod

/-- A method of a text keeps a fence. -/
def StringMethod.Spares (fence : Fence) (method : StringMethod) : Prop :=
  ∀ {engine content arguments}, engine.Spares fence → arguments.AreOutside fence →
    Run.Spares fence (Value.IsOutside fence) (method engine content arguments)

namespace StringMethod

variable {name : String} {content : Text}

end StringMethod

end Stencil.Run
