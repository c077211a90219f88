import Stencil.Proofs.Reach.Methods
import Stencil.Run.Construction

/-! # Attributes and classes outside a fence

An attribute of a value outside is outside: a field of the value, a part of an exception, or a method
of the value. A class that is called makes a new value of what its arguments hold.
-/

namespace Stencil.Run

open Script

variable {fence : Fence} {engine : Engine} {value : Value} {arguments : Arguments} {name : Name}

theorem maybeOutside_ite {condition : Prop} [Decidable condition] {first second : Option Value}
    (firstOutside : MaybeOutside fence first) (secondOutside : MaybeOutside fence second) :
    MaybeOutside fence (if condition then first else second) := by
  split
  · exact firstOutside
  · exact secondOutside

namespace ExceptionKind

variable {kind : ExceptionKind} {parts : List Value}

theorem areOutside_files (outside : AreOutside fence parts) : AreOutside fence (kind.files parts) := by
  have behind : AreOutside fence (parts.drop 2) := fun part member =>
    outside part (List.mem_of_mem_drop member)
  rw [files]
  split
  case isFalse => exact areOutside_nil
  split
  case h_1 => exact areOutside_nil
  case h_2 => exact areOutside_nil
  case h_3 first rest _ isFirst =>
    rw [isFirst] at behind
    obtain ⟨firstOutside, restOutside⟩ := areOutside_cons.mp behind
    have others : AreOutside fence (rest.drop 1) := fun part member =>
      restOutside part (List.mem_of_mem_drop member)
    split
    · exact areOutside_nil
    split
    case h_1 => exact areOutside_singleton.mpr firstOutside
    case h_2 => exact areOutside_singleton.mpr firstOutside
    case h_3 second rest _ isSecond =>
      rw [isSecond] at others
      exact areOutside_cons.mpr
        ⟨firstOutside, areOutside_singleton.mpr (areOutside_cons.mp others).1⟩

theorem areOutside_shown (outside : AreOutside fence parts) : AreOutside fence (kind.shown parts) := by
  rw [shown]
  split
  · exact fun part member => outside part (List.mem_of_mem_take member)
  · exact outside

theorem areOutside_gathered (outside : AreOutside fence parts) : AreOutside fence (gathered parts) := by
  rw [gathered]
  split
  case h_1 exceptions rest isDropped =>
    have member : Value.tuple exceptions ∈ parts.drop 2 := isDropped ▸ List.mem_cons_self
    cases outside _ (List.mem_of_mem_drop member) with
    | tuple parts => exact parts
  case h_2 => exact areOutside_nil

/-- An attribute of an exception is outside when its arguments are. -/
theorem maybeOutside_field (outside : AreOutside fence parts) :
    MaybeOutside fence (kind.field? parts name) := by
  have head := isOutside_headD outside .nothing
  have nth {values : List Value} (outside : AreOutside fence values) (place : Nat) :
      MaybeOutside fence (some ((values[place]?).getD .nothing)) :=
    maybeOutside_some (isOutside_getD (maybeOutside_getElem outside place) .nothing)
  have part (place : Nat) : MaybeOutside fence (some
      (if kind.hasSystemParts parts then (parts[place]?).getD .nothing else .nothing)) := by
    by_cases isSystem : kind.hasSystemParts parts
    · rw [if_pos isSystem]
      exact nth outside place
    · rw [if_neg isSystem]
      exact maybeOutside_some .nothing
  refine maybeOutside_ite (maybeOutside_some (.tuple (areOutside_shown outside)))
    (maybeOutside_ite ?group (maybeOutside_ite (maybeOutside_some head) (maybeOutside_ite ?code
      (maybeOutside_ite (maybeOutside_some head)
        (maybeOutside_ite ?message (maybeOutside_ite ?system maybeOutside_none))))))
  case group =>
    refine maybeOutside_ite (MappingMethod.maybeOutside_head? outside) ?_
    exact maybeOutside_ite (maybeOutside_some (.tuple (areOutside_gathered outside))) maybeOutside_none
  case code =>
    cases parts with
    | nil => exact maybeOutside_some .nothing
    | cons only others =>
        cases others with
        | nil => exact maybeOutside_some head
        | cons second others => exact maybeOutside_some (.tuple outside)
  case message =>
    cases parts with
    | nil => exact maybeOutside_some .nothing
    | cons only others =>
        cases others with
        | nil => exact maybeOutside_some head
        | cons second others => exact maybeOutside_some .nothing
  case system =>
    refine maybeOutside_ite (part 0) (maybeOutside_ite (part 1) ?_)
    refine maybeOutside_ite (nth (areOutside_files outside) 0) ?_
    exact maybeOutside_ite (nth (areOutside_files outside) 1) maybeOutside_none

end ExceptionKind

theorem maybeOutside_numericField (outside : value.IsOutside fence) :
    MaybeOutside fence (numericField? value name) := by
  unfold numericField?
  split
  case h_2 lower upper step =>
    cases outside with
    | slice lowerOutside upperOutside stepOutside =>
        repeat' split
        all_goals first
          | exact maybeOutside_none
          | exact maybeOutside_some lowerOutside
          | exact maybeOutside_some upperOutside
          | exact maybeOutside_some stepOutside
  all_goals
    repeat' split
    all_goals first
      | exact maybeOutside_none
      | exact maybeOutside_some (.int _)
      | exact maybeOutside_some (.float _)

/-- A field of a value outside is outside. -/
theorem Fence.Holds.fieldIn {store : Store} (fenced : fence.Holds store)
    (outside : value.IsOutside fence) : MaybeOutside fence (value.fieldIn? store name) := by
  unfold Value.fieldIn?
  split
  case h_1 address =>
    cases outside with
    | ref isOpen =>
        have object := fenced.outside address isOpen
        split
        case h_1 fields holds =>
          rw [holds] at object
          cases object with
          | fields fieldsOutside => exact maybeOutside_lookup fieldsOutside
        case h_2 kind parts holds =>
          rw [holds] at object
          cases object with
          | exception _ partsOutside => exact ExceptionKind.maybeOutside_field partsOutside
        case h_3 => exact maybeOutside_none
  case h_2 => exact isOutside_publicValue
  case h_3 => exact maybeOutside_numericField outside

theorem spares_lacksAttribute {α : Type} {result : α → Prop} :
    Spares fence result (lacksAttribute value name) := by
  unfold lacksAttribute
  split
  · exact spares_complain
  · exact spares_complain
  · exact spares_kindOf.bind fun _ _ => spares_complain

theorem maybeOutside_kindMethod {kind : Kind} : MaybeOutside fence (kind.method? name) := by
  rw [Kind.method?]
  split
  · exact maybeOutside_none
  split
  · exact maybeOutside_some (.method (.ofKind kind) name)
  · exact maybeOutside_some (.unboundMethod _ name)

/-- An attribute of a value outside is outside. -/
theorem spares_attributeOf (outside : value.IsOutside fence) :
    Spares fence (Value.IsOutside fence) (attributeOf value name) := by
  refine Spares.get.bind fun store fenced => ?_
  have field : MaybeOutside fence (value.fieldIn? store name) := fenced.fieldIn outside
  dsimp only
  split
  case h_1 found isFound => exact .pure (field found isFound)
  case h_2 =>
    refine .ite (fun _ => .pure (.ofKind _)) fun _ => .ite (fun _ => ?_) fun _ => ?_
    · split
      · exact .pure (.string _)
      · exact spares_lacksAttribute
    refine .ite (fun _ => .pure (.method outside name)) fun _ => ?_
    have otherwise {condition : Bool} : Spares fence (Value.IsOutside fence)
        (if condition then unsupported "special attributes" else lacksAttribute value name) :=
      .ite (fun _ => spares_unsupported) fun _ => spares_lacksAttribute
    split
    case h_1 method inherited =>
      refine .pure ?_
      split at inherited
      · exact maybeOutside_kindMethod method inherited
      · cases inherited
    case h_2 => exact otherwise

theorem namedOutside_insertField {fields : List (Name × Value)} (outside : NamedOutside fence fields)
    (valueOutside : value.IsOutside fence) : NamedOutside fence (insertField name value fields) := by
  induction fields with
  | nil => exact List.forall_mem_singleton.mpr valueOutside
  | cons first rest ih =>
      obtain ⟨firstOutside, restOutside⟩ := List.forall_mem_cons.mp outside
      rw [insertField]
      split
      · exact List.forall_mem_cons.mpr ⟨valueOutside, restOutside⟩
      · exact List.forall_mem_cons.mpr ⟨firstOutside, ih restOutside⟩

theorem spares_refuseChange : SparesAll fence (refuseChange value name) := by
  refine spares_kindOf.bind fun kind _ => ?_
  split
  · exact spares_complain
  · exact .ite (fun _ => spares_complain) fun _ => spares_lacksAttribute

theorem spares_assignAttribute {object : Value} (outside : object.IsOutside fence)
    (valueOutside : value.IsOutside fence) : SparesAll fence (assignAttribute object name value) := by
  cases outside with
  | ref isOpen =>
      refine (spares_load isOpen).bind fun object objectOutside => ?_
      cases objectOutside with
      | fields fieldsOutside =>
          exact spares_save isOpen (.fields (namedOutside_insertField fieldsOutside valueOutside))
      | function _ => exact spares_unsupported
      | exception _ _ => exact spares_unsupported
      | _ => exact spares_refuseChange
  | publicModule => exact spares_unsupported
  | _ => exact spares_refuseChange

theorem spares_deleteAttribute {object : Value} (outside : object.IsOutside fence) :
    SparesAll fence (deleteAttribute object name) := by
  cases outside with
  | ref isOpen =>
      refine (spares_load isOpen).bind fun object objectOutside => ?_
      cases objectOutside with
      | fields fieldsOutside =>
          refine .ite (fun _ => spares_save isOpen (.fields fun field member => ?_)) fun _ => ?_
          · exact fieldsOutside field (List.mem_filter.mp member).1
          · exact spares_raiseWith (areOutside_singleton.mpr (.string name))
      | function _ => exact spares_unsupported
      | exception _ _ => exact spares_unsupported
      | _ => exact spares_refuseChange
  | publicModule => exact spares_unsupported
  | _ => exact spares_refuseChange

theorem spares_insertMembers (sound : engine.Spares fence) {address : Address}
    (isOpen : fence.IsOpen address) {iterator : Value} (outside : iterator.IsOutside fence)
    (rounds : Nat) : SparesAll fence (insertMembers engine address iterator rounds) := by
  induction rounds with
  | zero => exact .throw .unfinished
  | succ rounds ih =>
      refine (spares_draw sound outside).bind fun drawn isOutside => ?_
      cases drawn with
      | none => exact .pure trivial
      | some member =>
          exact spares_requireKey.andThen
            ((MappingMethod.spares_insertMember isOpen (isOutside member rfl)).andThen ih)

end Stencil.Run
