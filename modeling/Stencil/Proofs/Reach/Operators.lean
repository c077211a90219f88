import Stencil.Proofs.Reach.Collections

/-! # Operators outside a fence

The value of an operator is outside when its operands are: numbers and texts lead nowhere, and what
is joined, repeated or combined is made of the parts of the operands. The values that a text with
percent signs is filled with are those on its right.
-/

namespace Stencil.Run

open Script

variable {fence : Fence} {engine : Engine} {value left right : Value} {α β : Type}

/-- The values that are left for a text are outside. -/
structure PercentValues.AreOutside (fence : Fence) (values : PercentValues) : Prop where
  rest : Run.AreOutside fence values.rest
  mapping : MaybeOutside fence values.mapping

/-- A step of filling a text keeps a fence and gives a result with a property. -/
def Percent.Spares (fence : Fence) (result : α → Prop) (step : Percent α) : Prop :=
  ∀ values : PercentValues, values.AreOutside fence →
    Run.Spares fence (fun found => result found.1 ∧ found.2.AreOutside fence) (step.run values)

namespace Percent.Spares

variable {result : α → Prop} {found : β → Prop}

theorem pure {value : α} (holds : result value) : Percent.Spares fence result (pure value) :=
  fun _ outside => .pure ⟨holds, outside⟩

theorem bind {step : Percent α} {next : α → Percent β} (spares : Percent.Spares fence result step)
    (continues : ∀ value, result value → Percent.Spares fence found (next value)) :
    Percent.Spares fence found (step >>= next) :=
  fun values outside => (spares values outside).bind fun after isFound =>
    continues after.1 isFound.1 after.2 isFound.2

theorem lift {action : Action α} (spares : Run.Spares fence result action) :
    Percent.Spares fence result (liftM action) :=
  fun _ outside => spares.bind fun _ holds => .pure ⟨holds, outside⟩

theorem complain {complaint : Complaint} :
    Percent.Spares fence result (liftM (complain complaint : Action α)) := lift spares_complain

theorem ite {condition : Prop} [Decidable condition] {first second : Percent α}
    (ifTrue : condition → Percent.Spares fence result first)
    (ifFalse : ¬condition → Percent.Spares fence result second) :
    Percent.Spares fence result (if condition then first else second) := by
  by_cases holds : condition
  · rw [if_pos holds]
    exact ifTrue holds
  · rw [if_neg holds]
    exact ifFalse holds

theorem get : Percent.Spares fence (PercentValues.AreOutside fence) (get : Percent PercentValues) :=
  fun _ outside => .pure ⟨outside, outside⟩

theorem set {values : PercentValues} (outside : values.AreOutside fence) :
    Percent.Spares fence (fun _ => True) (set values : Percent PUnit) :=
  fun _ _ => .pure ⟨trivial, outside⟩

end Percent.Spares

theorem spares_nextValue : Percent.Spares fence (Value.IsOutside fence) nextValue := by
  refine Percent.Spares.get.bind fun values outside => ?_
  split
  case h_1 first rest isRest =>
    have whole := outside.rest
    rw [isRest] at whole
    obtain ⟨firstOutside, restOutside⟩ := areOutside_cons.mp whole
    exact .bind (.set ⟨restOutside, outside.mapping⟩) fun _ _ => .pure firstOutside
  case h_2 => exact .complain

theorem spares_takeCount {bound : Nat} {tooBig tooLarge : String} {rest : Text} :
    Percent.Spares fence (fun _ => True) (takeCount bound tooBig tooLarge rest) := by
  unfold takeCount
  split
  · exact .ite (fun _ => .complain) fun _ => .pure trivial
  · refine spares_nextValue.bind fun value _ => ?_
    split
    · exact .complain
    · exact .ite (fun _ => .complain) fun _ => .pure trivial

theorem spares_placeValue {field : PercentField} {style : CodePoint} {index : Nat} :
    SparesAll fence (field.placeValue style index value) := by
  have refused {complaint : Kind → Complaint} : SparesAll fence (do
      complain (complaint (← kindOf value)) : Action Text) :=
    spares_kindOf.bind fun _ _ => spares_complain
  have settled {content : Except Complaint Text} : SparesAll fence (settle content) :=
    spares_settle fun _ _ => trivial
  unfold PercentField.placeValue
  refine .ite (fun _ => spares_textOf.bind fun _ _ => .pure trivial) fun _ => ?_
  refine .ite (fun _ => spares_display.bind fun _ _ => .pure trivial) fun _ => ?_
  refine .ite (fun _ => spares_display.bind fun _ _ => .pure trivial) fun _ => ?_
  refine .ite (fun _ => ?whole) fun _ => .ite (fun _ => ?based) fun _ => .ite (fun _ => ?float) fun _ =>
    .ite (fun _ => ?character) fun _ => spares_complain
  case whole =>
    split
    · exact settled
    · split
      · exact settled
      · exact refused
  case based =>
    split
    · exact settled
    · exact refused
  case float =>
    split
    · exact .pure trivial
    · split
      · split
        · exact .pure trivial
        · exact spares_complain
      · exact refused
  case character =>
    split
    · exact .pure trivial
    · exact .ite (fun _ => spares_complain) fun _ =>
        .ite (fun _ => .pure trivial) fun _ => spares_complain
    · exact spares_complain

theorem spares_valueOfKey {mapping : Value} {key : Text} (outside : mapping.IsOutside fence) :
    Spares fence (Value.IsOutside fence) (valueOfKey mapping key) := by
  refine Spares.get.bind fun store fenced => ?_
  dsimp only
  split
  case h_1 entries isMapping =>
    split
    case h_1 value found =>
      exact .pure (isOutside_lookupKey (fenced.entriesIn outside isMapping) value found)
    case h_2 => exact spares_missingKey (.string key)
  all_goals exact spares_complain

theorem spares_takeNamed {rest : Text} : Percent.Spares fence (fun _ => True) (takeNamed rest) := by
  unfold takeNamed
  split
  · exact .pure trivial
  · refine Percent.Spares.get.bind fun values outside => ?_
    split
    · exact .complain
    case h_2 mapping isMapping =>
      split
      · exact .complain
      · refine (Percent.Spares.lift (spares_valueOfKey (outside.mapping mapping isMapping))).bind
          fun value valueOutside => ?_
        exact .bind (.set ⟨areOutside_singleton.mpr valueOutside, outside.mapping⟩) fun _ _ =>
          .pure trivial

/-- The end of a field is read and the field is filled. -/
theorem spares_percentStyle {whole : Nat} (field : PercentField) (rest : Text) :
    Percent.Spares fence (fun _ => True) (match rest with
      | [] => liftM (complain (.value "incomplete format"))
      | style :: after =>
          if style = letter "%" then return (text "%", after)
          else do
            let value ← nextValue
            if roomLimit < field.width then liftM outOfRoom
            else return (← field.placeValue style (whole - rest.length) value, after)) := by
  cases rest with
  | nil => exact .complain
  | cons style after =>
      refine .ite (fun _ => .pure trivial) fun _ => spares_nextValue.bind fun value _ => ?_
      refine .ite (fun _ => .lift spares_outOfRoom) fun _ => ?_
      exact (Percent.Spares.lift spares_placeValue).bind fun _ _ => .pure trivial

theorem spares_percentField {whole : Nat} {rest : Text} :
    Percent.Spares fence (fun _ => True) (percentField whole rest) := by
  unfold percentField
  refine spares_takeNamed.bind fun rest _ => spares_takeCount.bind fun count _ => ?_
  dsimp only
  split
  · exact spares_percentStyle _ _
  · exact spares_takeCount.bind fun precision _ => spares_percentStyle _ _

theorem spares_fillPercent {whole fuel : Nat} {template : Text} :
    Percent.Spares fence (fun _ => True) (fillPercent whole fuel template) := by
  induction fuel generalizing template with
  | zero => exact .pure trivial
  | succ fuel ih =>
      cases template with
      | nil => exact .pure trivial
      | cons point rest =>
          refine .ite (fun _ => ?_) fun _ => ih.bind fun _ _ => .pure trivial
          exact spares_percentField.bind fun _ _ => ih.bind fun _ _ => .pure trivial

theorem spares_formatPercent {template : Text} (outside : value.IsOutside fence) :
    SparesAll fence (formatPercent template value) := by
  have only : AreOutside fence [value] := areOutside_singleton.mpr outside
  refine Spares.get.bind fun store fenced => ?_
  refine Spares.bind (spares_fillPercent _ ?_) fun filled _ => ?_
  · split
    case h_1 items =>
      cases outside with
      | tuple parts => exact ⟨parts, maybeOutside_none⟩
    case h_5 =>
      split
      all_goals first
        | exact ⟨only, maybeOutside_some outside⟩
        | exact ⟨only, maybeOutside_none⟩
    all_goals first
      | exact ⟨only, maybeOutside_some outside⟩
      | exact ⟨only, maybeOutside_none⟩
  · exact .ite (fun _ => spares_complain) fun _ => .pure trivial

theorem spares_formatValue {written : Text} : SparesAll fence (formatValue value written) := by
  refine .ite (fun _ => spares_textOf) fun _ => ?_
  split
  all_goals first
    | exact spares_settle fun _ _ => trivial
    | exact spares_kindOf.bind fun _ _ => spares_complain

theorem spares_powerFloats {base exponent : Float} :
    Spares fence (Value.IsOutside fence) (powerFloats base exponent) := by
  refine .ite (fun _ => spares_complain) fun _ => .ite (fun _ => spares_unsupported) fun _ => ?_
  refine .ite (fun _ => spares_raiseWith ?_) fun _ => .pure (.float _)
  exact areOutside_cons.mpr ⟨.int 34, areOutside_singleton.mpr (.string _)⟩

theorem spares_combineInts {operator : BinaryOperator} {left right : Int} :
    Spares fence (Value.IsOutside fence) (combineInts operator left right) := by
  have number {value : Int} : Spares fence (Value.IsOutside fence) (pure (.int value)) :=
    .pure (.int value)
  cases operator with
  | divide =>
      refine .ite (fun _ => spares_complain) fun _ => ?_
      split
      · exact .pure (.float _)
      · exact spares_complain
  | floorDivide => exact .ite (fun _ => spares_complain) fun _ => number
  | modulo => exact .ite (fun _ => spares_complain) fun _ => number
  | power =>
      refine .ite (fun _ => ?_) fun _ => number
      refine (spares_settle fun _ _ => trivial).bind fun base _ => ?_
      exact (spares_settle fun _ _ => trivial).bind fun exponent _ => spares_powerFloats
  | shiftLeft =>
      unfold combineInts
      dsimp only
      split
      · exact spares_complain
      split
      · exact number
      split
      · exact spares_complain
      split
      · exact spares_outOfRoom
      · exact number
  | shiftRight => exact .ite (fun _ => spares_complain) fun _ => number
  | matrixMultiply => exact spares_complain
  | _ => exact number

theorem spares_combineFloats {operator : BinaryOperator} {left right : Float} :
    Spares fence (Value.IsOutside fence) (combineFloats operator left right) := by
  cases operator with
  | divide => exact .ite (fun _ => spares_complain) fun _ => .pure (.float _)
  | floorDivide => exact .ite (fun _ => spares_complain) fun _ => .pure (.float _)
  | modulo => exact .ite (fun _ => spares_complain) fun _ => .pure (.float _)
  | power => exact spares_powerFloats
  | add => exact .pure (.float _)
  | subtract => exact .pure (.float _)
  | multiply => exact .pure (.float _)
  | _ => exact spares_complain

/-- A sequence with items outside. -/
inductive Sequence.IsOutside (fence : Fence) : Sequence → Prop
  | string (value : Text) : IsOutside fence (.string value)
  | bytes (value : List Nat) : IsOutside fence (.bytes value)
  | tuple {items : List Value} (outside : AreOutside fence items) : IsOutside fence (.tuple items)
  | list {items : Array Value} (outside : AreOutside fence items.toList) :
      IsOutside fence (.list items)

theorem Fence.Holds.sequenceIn {store : Store} (fenced : fence.Holds store)
    (outside : value.IsOutside fence) {sequence : Sequence}
    (found : value.sequenceIn? store = some sequence) : sequence.IsOutside fence := by
  cases outside with
  | string value =>
      cases found
      exact .string value
  | bytes value =>
      cases found
      exact .bytes value
  | tuple parts =>
      cases found
      exact .tuple parts
  | @ref address isOpen =>
      have object := fenced.outside address isOpen
      rw [Value.sequenceIn?] at found
      split at found
      case h_1 items holds =>
        cases found
        rw [holds] at object
        cases object with
        | list outside => exact .list outside
      case h_2 => cases found
  | _ => cases found

theorem mem_of_mem_repeatItems {count : Int} {items : List α} {item : α}
    (member : item ∈ repeatItems count items) : item ∈ items := by
  obtain ⟨copy, isCopy, inside⟩ := List.mem_flatten.mp member
  exact (List.mem_replicate.mp isCopy).2 ▸ inside

/-- What is repeated consists of the same items. -/
theorem spares_repeatWithin {size : Nat} {tooLong : Action (List α)} {count : Int} {items : List α}
    (spares : Spares fence (fun repeated => ∀ item ∈ repeated, item ∈ items) tooLong) :
    Spares fence (fun repeated => ∀ item ∈ repeated, item ∈ items)
      (repeatWithin size tooLong count items) := by
  unfold repeatWithin
  dsimp only
  split
  · exact .pure nofun
  split
  · exact spares
  split
  · exact spares_outOfRoom
  · exact .pure fun item => mem_of_mem_repeatItems

theorem spares_repetitions : SparesAll fence (repetitions value) := by
  unfold repetitions
  split
  · exact spares_complainOf
  · exact .ite (fun _ => .pure trivial) fun _ => spares_complainOf

theorem spares_repeatSequence {count : Int} {sequence : Sequence}
    (outside : sequence.IsOutside fence) :
    Spares fence (Value.IsOutside fence) (repeatSequence count sequence) := by
  cases outside with
  | string value =>
      exact (spares_repeatWithin spares_complain).bind fun _ _ => .pure (.string _)
  | bytes value => exact (spares_repeatWithin spares_complain).bind fun _ _ => .pure (.bytes _)
  | tuple outside =>
      exact (spares_repeatWithin spares_outOfRoom).bind fun repeated inside =>
        .pure (.tuple fun item member => outside item (inside item member))
  | list outside =>
      exact (spares_repeatWithin spares_outOfRoom).bind fun repeated inside =>
        spares_newList fun item member => outside item (inside item member)

theorem spares_joinSequences {sequence : Sequence} (outside : sequence.IsOutside fence)
    (rightOutside : right.IsOutside fence) :
    Spares fence (Value.IsOutside fence) (joinSequences sequence right) := by
  refine Spares.get.bind fun store fenced => ?_
  split
  case h_1 => exact .pure (.string _)
  case h_2 => exact .pure (.bytes _)
  case h_3 found =>
    cases outside with
    | tuple leftOutside =>
        cases fenced.sequenceIn rightOutside found with
        | tuple rightOutside =>
            exact .pure (.tuple (areOutside_append.mpr ⟨leftOutside, rightOutside⟩))
  case h_4 found =>
    cases outside with
    | list leftOutside =>
        cases fenced.sequenceIn rightOutside found with
        | list rightOutside =>
            refine spares_newList ?_
            rw [Array.toList_append]
            exact areOutside_append.mpr ⟨leftOutside, rightOutside⟩
  all_goals exact spares_complainOf

theorem areOutside_combineSets {operator : BinaryOperator} {lefts rights members : List Value}
    (leftOutside : AreOutside fence lefts) (rightOutside : AreOutside fence rights)
    (combined : combineSets operator lefts rights = some members) : AreOutside fence members := by
  have filtered {values : List Value} (outside : AreOutside fence values) (test : Value → Bool) :
      AreOutside fence (values.filter test) :=
    fun value member => outside value (List.mem_filter.mp member).1
  cases operator with
  | bitOr =>
      cases combined
      exact areOutside_append.mpr ⟨leftOutside, filtered rightOutside _⟩
  | bitAnd =>
      cases combined
      exact filtered leftOutside _
  | subtract =>
      cases combined
      exact filtered leftOutside _
  | bitXor =>
      cases combined
      exact areOutside_append.mpr ⟨filtered leftOutside _, filtered rightOutside _⟩
  | _ => cases combined

theorem spares_combineOthers {operator : BinaryOperator} {isAugmented : Bool}
    (leftOutside : left.IsOutside fence) (rightOutside : right.IsOutside fence) :
    Spares fence (Value.IsOutside fence) (combineOthers operator isAugmented left right) := by
  refine Spares.get.bind fun store fenced => ?_
  dsimp only
  split
  case h_1 found => exact spares_joinSequences (fenced.sequenceIn leftOutside found) rightOutside
  case h_2 found =>
    exact spares_repetitions.bind fun _ _ =>
      spares_repeatSequence (fenced.sequenceIn leftOutside found)
  case h_3 found =>
    exact spares_repetitions.bind fun _ _ =>
      spares_repeatSequence (fenced.sequenceIn rightOutside found)
  case h_4 => exact (spares_formatPercent rightOutside).bind fun _ _ => .pure (.string _)
  case h_5 =>
    split
    case h_1 lefts rights areLefts areRights =>
      split
      case h_1 members combined =>
        refine (spares_allocate (.set ?_)).bind fun _ isOpen => .pure (.ref isOpen)
        exact areOutside_combineSets (fenced.membersIn leftOutside areLefts)
          (fenced.membersIn rightOutside areRights) combined
      case h_2 => exact spares_complain
    case h_2 =>
      split
      case h_1 lefts rights areLefts areRights _ _ _ _ =>
        exact spares_newDict (entriesOutside_mergeEntries (fenced.entriesIn leftOutside areLefts)
          (fenced.entriesIn rightOutside areRights))
      case h_2 => exact spares_complain

/-- The value of an operator is outside when its operands are. -/
theorem spares_combine {operator : BinaryOperator} {isAugmented : Bool}
    (leftOutside : left.IsOutside fence) (rightOutside : right.IsOutside fence) :
    Spares fence (Value.IsOutside fence) (combine operator isAugmented left right) := by
  have refused : Spares fence (Value.IsOutside fence) (do
      let store ← get
      complain (.operands (operatorSign operator isAugmented) (left.kindIn store)
        (right.kindIn store))) :=
    Spares.get.bind fun _ _ => spares_complain
  unfold combine
  dsimp only
  split
  · split
    · exact .pure (.bool _)
    · exact .ite (fun _ => refused) fun _ => spares_combineInts
  · split
    · exact .ite (fun _ => refused) fun _ => spares_combineInts
    · split
      · refine .ite (fun _ => ?_) fun _ => refused
        refine (spares_settle fun _ _ => trivial).bind fun first _ => ?_
        exact (spares_settle fun _ _ => trivial).bind fun second _ => spares_combineFloats
      · exact spares_combineOthers leftOutside rightOutside

theorem spares_applyUnary {operator : UnaryOperator} {operand : Value} :
    Spares fence (Value.IsOutside fence) (applyUnary operator operand) := by
  unfold applyUnary
  split
  all_goals first
    | exact spares_isTrue.bind fun _ _ => .pure (.bool _)
    | exact .pure (.float _)
    | exact .pure (.int _)
    | exact spares_complainOf

end Stencil.Run
