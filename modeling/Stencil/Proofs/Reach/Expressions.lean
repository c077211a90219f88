import Stencil.Proofs.Reach.Calls
import Stencil.Run.Matching

/-! # Expressions outside a fence

An expression that may run in a scene outside has a value outside, and it keeps the fence whatever
it calls, draws or assigns on its way. What it makes runs in the same scene or in one with a layer
more, so a function or a comprehension that it makes is outside too.
-/

namespace Stencil.Run

open Script

variable {fence : Fence} {engine : Engine} {scene : Scene} {value : Value}

theorem spares_numberValue {literal : NumberLiteral} :
    Spares fence (Value.IsOutside fence) (numberValue literal) := by
  cases literal with
  | whole value => exact .pure (.int _)
  | decimal mantissa exponent => exact .pure (.float _)
  | imaginary _ _ => exact spares_unsupported

theorem spares_constantValue {constant : Constant} :
    Spares fence (Value.IsOutside fence) (constantValue constant) := by
  cases constant with
  | none => exact .pure .nothing
  | bool value => exact .pure (.bool value)
  | ellipsis => exact .pure .ellipsis
  | number literal => exact spares_numberValue
  | text value => exact .pure (.string value)
  | bytes value => exact .pure (.bytes value)

theorem spares_relate (sound : engine.Spares fence) {relation : Relation} {left right : Value}
    (rightOutside : right.IsOutside fence) :
    SparesAll fence (relate engine relation left right) := by
  cases relation with
  | equal => exact spares_areEqual
  | notEqual => exact spares_areEqual.bind fun _ _ => .pure trivial
  | less => exact spares_areOrdered
  | lessEqual => exact spares_areOrdered
  | greater => exact spares_areOrdered
  | greaterEqual => exact spares_areOrdered
  | same => exact .pure trivial
  | notSame => exact .pure trivial
  | within => exact spares_isMember sound rightOutside
  | notWithin => exact (spares_isMember sound rightOutside).bind fun _ _ => .pure trivial

theorem spares_formatConverted {conversion : Conversion} {format : Text} :
    SparesAll fence (formatConverted conversion value format) := by
  cases conversion with
  | plain => exact spares_formatValue
  | display => exact spares_textOf.bind fun _ _ => spares_formatValue
  | quoted => exact spares_display.bind fun _ _ => spares_formatValue
  | ascii => exact spares_display.bind fun _ _ => spares_formatValue

theorem spares_spreadItems (sound : engine.Spares fence) {complaint : Kind → Complaint}
    (outside : value.IsOutside fence) :
    Spares fence (AreOutside fence) (spreadItems engine complaint value) := by
  refine (spares_iterator? outside).bind fun found isOutside => ?_
  cases found with
  | none => exact spares_complainOf
  | some iterator => exact (spares_drainAll sound (isOutside iterator rfl)).map fun _ => id

theorem spares_spreadEntries (outside : value.IsOutside fence) :
    Spares fence (EntriesOutside fence) (spreadEntries value) := by
  refine Spares.get.bind fun store fenced => ?_
  cases found : value.entriesIn? store with
  | some entries => exact .pure (fenced.entriesIn outside found)
  | none => exact spares_complainOf

theorem spares_insertPending {found pending : List (Value × Value)}
    (foundOutside : EntriesOutside fence found) (pendingOutside : EntriesOutside fence pending) :
    Spares fence (EntriesOutside fence) (insertPending found pending) :=
  (spares_forM fun _ _ => spares_requireKey).andThen
    (.pure (entriesOutside_mergeEntries foundOutside pendingOutside))

theorem spares_insertAllNamed {callee : Value} {named : List (Name × Value)}
    {entries : List (Value × Value)} (namedOutside : NamedOutside fence named)
    (outside : EntriesOutside fence entries) :
    Spares fence (NamedOutside fence) (spreadArguments.insertAll callee named entries) := by
  induction entries generalizing named with
  | nil => exact .pure namedOutside
  | cons first rest ih =>
      obtain ⟨firstOutside, restOutside⟩ := List.forall_mem_cons.mp outside
      obtain ⟨key, value⟩ := first
      cases key with
      | string name =>
          refine .ite (fun _ => spares_calleeLabel.bind fun _ _ => spares_complain) fun _ => ?_
          exact ih (ParameterList.namedOutside_concat namedOutside firstOutside.2) restOutside
      | _ => exact spares_complain

theorem spares_spreadArguments {callee : Value} (outside : value.IsOutside fence)
    {named : List (Name × Value)} (namedOutside : NamedOutside fence named) :
    Spares fence (NamedOutside fence) (spreadArguments callee value named) := by
  refine Spares.get.bind fun store fenced => ?_
  cases found : value.entriesIn? store with
  | none => exact spares_calleeLabel.bind fun _ _ => spares_kindOf.bind fun _ _ => spares_complain
  | some entries => exact spares_insertAllNamed namedOutside (fenced.entriesIn outside found)

theorem areOutside_insertMembers {found members : List Value} (foundOutside : AreOutside fence found)
    (outside : AreOutside fence members) :
    AreOutside fence (members.foldl (fun found member => insertMember member found) found) := by
  induction members generalizing found with
  | nil => exact foundOutside
  | cons first rest ih =>
      obtain ⟨firstOutside, restOutside⟩ := areOutside_cons.mp outside
      exact ih (MappingMethod.areOutside_insertMember foundOutside firstOutside) restOutside

theorem spares_takeDrawn (sound : engine.Spares fence) {iterator : Value}
    (outside : iterator.IsOutside fence) (count : Nat) :
    Spares fence (fun taken => AreOutside fence taken.1) (takeDrawn engine iterator count) := by
  induction count with
  | zero => exact .pure areOutside_nil
  | succ count ih =>
      refine (spares_draw sound outside).bind fun drawn isOutside => ?_
      cases drawn with
      | none => exact .pure areOutside_nil
      | some value =>
          exact ih.bind fun taken takenOutside =>
            .pure (areOutside_cons.mpr ⟨isOutside value rfl, takenOutside⟩)

theorem spares_iterateUnpacked (outside : value.IsOutside fence) :
    Spares fence (Value.IsOutside fence) (iterateUnpacked value) := by
  refine (spares_iterator? outside).bind fun found isOutside => ?_
  cases found with
  | none => exact spares_complainOf
  | some iterator => exact .pure (isOutside iterator rfl)

theorem spares_unpack (sound : engine.Spares fence) {count : Nat} (outside : value.IsOutside fence) :
    Spares fence (AreOutside fence) (unpack engine count value) := by
  refine (spares_iterateUnpacked outside).bind fun iterator iteratorOutside => ?_
  refine (spares_takeDrawn sound iteratorOutside count).bind fun taken takenOutside => ?_
  refine .ite (fun _ => spares_complain) fun _ => ?_
  refine (spares_draw sound iteratorOutside).bind fun drawn _ => ?_
  cases drawn with
  | none => exact .pure takenOutside
  | some value => exact spares_complain

theorem spares_unpackAround (sound : engine.Spares fence) {before after : Nat}
    (outside : value.IsOutside fence) :
    Spares fence (AreOutside fence) (unpackAround engine before after value) := by
  refine (spares_iterateUnpacked outside).bind fun iterator iteratorOutside => ?_
  refine (spares_takeDrawn sound iteratorOutside before).bind fun taken takenOutside => ?_
  refine .ite (fun _ => spares_complain) fun _ => ?_
  refine (spares_drainAll sound iteratorOutside).bind fun rest restOutside => ?_
  refine .ite (fun _ => spares_complain) fun _ => ?_
  have part (start stop : Nat) : AreOutside fence (rest.extract start stop).toList := by
    intro item member
    rw [Array.toList_extract] at member
    exact restOutside item (List.mem_of_mem_drop (List.mem_of_mem_take member))
  refine (spares_newList (part _ _)).bind fun middle middleOutside => .pure ?_
  exact areOutside_append.mpr ⟨takenOutside, areOutside_cons.mpr ⟨middleOutside, part _ _⟩⟩

theorem spares_unpackFor (sound : engine.Spares fence) {targets : List Target}
    (outside : value.IsOutside fence) :
    Spares fence (AreOutside fence) (unpackFor engine targets value) := by
  unfold unpackFor
  split
  · exact spares_unpack sound outside
  · exact spares_unpackAround sound outside

/-- A call with the items of one iterable gives a value outside. -/
theorem spares_callSpread (sound : engine.Spares fence) {callee : Value}
    (calleeOutside : callee.IsOutside fence) (outside : value.IsOutside fence)
    {named : List (Name × Value)} (namedOutside : NamedOutside fence named) :
    Spares fence (Value.IsOutside fence) (do
      match ← iterator? value with
      | some iterator => do
          let values ← drainAll engine iterator
          engine.call callee values.toList named
      | none => complain (.starArgument (← calleeLabel callee) (← kindOf value))) := by
  refine (spares_iterator? outside).bind fun found iteratorOutside => ?_
  cases found with
  | none => exact spares_calleeLabel.bind fun _ _ => spares_kindOf.bind fun _ _ => spares_complain
  | some iterator =>
      exact (spares_drainAll sound (iteratorOutside iterator rfl)).bind
        fun _ drained => sound.call calleeOutside drained namedOutside

theorem spares_newPipeline (outside : scene.IsOutside fence) {collection : Option Collection}
    {yielded : Yielded} {elements : List Expr} {clauses : List Clause}
    (yieldedAdmits : fence.Admits scene yielded.mentions)
    (clausesAdmit : fence.Admits scene (clausesMentions clauses))
    (valueOutside : value.IsOutside fence) :
    Spares fence (Value.IsOutside fence)
      (newPipeline scene collection yielded elements clauses value) := by
  refine .ite (fun _ => spares_unsupported) fun _ => ?_
  refine (spares_iterate valueOutside).bind fun iterator iteratorOutside => ?_
  refine (spares_allocate (.frame namedOutside_nil)).bind fun frame isOpen => ?_
  let inner : Scene :=
    { scene with
      layers := ⟨(Scope.ofClauses collection clauses elements).ownNames, [], frame⟩ :: scene.layers
      path := scene.path ++ text (comprehensionName collection) ++ text "." }
  have entered : inner.IsOutside fence := outside.enter isOpen rfl rfl outside.collector
  have admits {mentions : List Mention} (admits : fence.Admits scene mentions) :
      fence.Admits inner mentions := admits.enter isOpen rfl
  have each (clauses : List Clause) (clausesAdmit : fence.Admits scene (clausesMentions clauses)) :
      ∀ clause ∈ clauses, fence.Admits inner clause.mentions := by
    induction clauses with
    | nil => exact nofun
    | cons first rest ih =>
        obtain ⟨first, rest⟩ := Fence.admits_append.mp clausesAdmit
        exact List.forall_mem_cons.mpr ⟨admits first, ih rest⟩
  cases clauses with
  | nil => exact spares_newCursor .finished
  | cons first waiting =>
      obtain ⟨firstAdmits, waitingAdmit⟩ := List.forall_mem_cons.mp (each _ clausesAdmit)
      exact spares_newCursor (.pipeline
        { scene := entered
          yielded := admits yieldedAdmits
          entered := List.forall_mem_singleton.mpr ⟨iteratorOutside, firstAdmits⟩
          waiting := waitingAdmit })

theorem spares_insertPairs (sound : engine.Spares fence) {address : Address}
    (isOpen : fence.IsOpen address) {iterator : Value} (outside : iterator.IsOutside fence)
    (rounds : Nat) : SparesAll fence (insertPairs engine address iterator rounds) := by
  induction rounds with
  | zero => exact .throw .unfinished
  | succ rounds ih =>
      refine (spares_draw sound outside).bind fun drawn isOutside => ?_
      split
      case h_1 key value =>
        cases isOutside _ rfl with
        | tuple parts =>
            obtain ⟨keyOutside, others⟩ := areOutside_cons.mp parts
            exact spares_requireKey.andThen ((MappingMethod.spares_insertEntry isOpen keyOutside
              (areOutside_singleton.mp others)).andThen ih)
      case h_2 => exact .pure trivial

theorem spares_collectPipeline (sound : engine.Spares fence) {collection : Option Collection}
    {iterator : Value} (outside : iterator.IsOutside fence) :
    Spares fence (Value.IsOutside fence) (collectPipeline engine collection iterator) := by
  cases collection with
  | none =>
      refine (spares_allocate (.dict entriesOutside_nil)).bind fun address isOpen => ?_
      refine (spares_roundsOf outside).bind fun rounds _ => ?_
      exact (spares_insertPairs sound isOpen outside rounds).andThen (.pure (.ref isOpen))
  | some collection =>
      cases collection with
      | list => exact (spares_drainAll sound outside).bind fun _ drained => spares_newList drained
      | set =>
          refine (spares_allocate (.set areOutside_nil)).bind fun address isOpen => ?_
          refine (spares_roundsOf outside).bind fun rounds _ => ?_
          exact (spares_insertMembers sound isOpen outside rounds).andThen (.pure (.ref isOpen))
      | generator => exact .pure outside

theorem spares_newFunction (outside : scene.IsOutside fence) {name : Name}
    {parameters : List FormalParameter} {body : FunctionBody} {scope : Scope}
    (standards : ∀ parameter ∈ parameters, MaybeOutside fence parameter.standard)
    (admits : fence.Admits scene body.mentions) :
    Spares fence (Value.IsOutside fence) (newFunction scene name parameters body scope) :=
  (spares_allocate (.function ⟨standards, outside, admits⟩)).bind fun _ isOpen =>
    .pure (.ref isOpen)

mutual

/-- **The value of an expression is outside.** -/
theorem spares_evaluate (sound : engine.Spares fence) (outside : scene.IsOutside fence) :
    ∀ {expression : Expr}, fence.Admits scene expression.mentions →
      Spares fence (Value.IsOutside fence) (evaluate engine scene expression)
  | .name identifier, admits =>
      .ite (fun _ => .pure (.bool true)) fun _ => spares_readName outside admits
  | .constant value, _ => spares_constantValue
  | .unary operator operand, admits => by
      have operandAdmits : fence.Admits scene operand.mentions := admits
      exact (spares_evaluate sound outside operandAdmits).bind fun _ _ => spares_applyUnary
  | .binary operator left right, admits => by
      obtain ⟨left, right⟩ := Fence.admits_append.mp admits
      refine (spares_evaluate sound outside left).bind fun _ leftOutside => ?_
      exact (spares_evaluate sound outside right).bind fun _ rightOutside =>
        spares_combine leftOutside rightOutside
  | .connected connective operands, admits => spares_evaluateConnected sound outside admits
  | .compared first relations others, admits => by
      obtain ⟨first, others⟩ := Fence.admits_append.mp admits
      exact (spares_evaluate sound outside first).bind fun _ _ =>
        spares_evaluateCompared sound outside others
  | .conditional test whenTrue whenFalse, admits => by
      obtain ⟨before, whenFalse⟩ := Fence.admits_append.mp admits
      obtain ⟨test, whenTrue⟩ := Fence.admits_append.mp before
      refine (spares_evaluate sound outside test).bind fun _ _ => spares_isTrue.bind fun _ _ => ?_
      exact .ite (fun _ => spares_evaluate sound outside whenTrue) fun _ =>
        spares_evaluate sound outside whenFalse
  | .lambda parameters body, admits => by
      obtain ⟨parameters, body⟩ := Fence.admits_append.mp admits
      exact (spares_evaluateParameters sound outside parameters).bind fun _ standards =>
        spares_newFunction outside standards body
  | .tuple items, admits =>
      (spares_evaluateItems sound outside admits).bind fun _ isOutside => .pure (.tuple isOutside)
  | .list items, admits =>
      (spares_evaluateItems sound outside admits).bind fun _ isOutside => spares_newList isOutside
  | .set items, admits => by
      refine (spares_evaluateItems sound outside admits).bind fun members isOutside => ?_
      refine (spares_forM fun _ _ => spares_requireKey).andThen ?_
      exact (spares_allocate (.set (areOutside_insertMembers areOutside_nil isOutside))).bind
        fun _ isOpen => .pure (.ref isOpen)
  | .dict entries, admits =>
      (spares_evaluateEntries sound outside entriesOutside_nil entriesOutside_nil admits).bind
        fun _ isOutside => spares_newDict isOutside
  | .comprehension collection element clauses, admits => by
      obtain ⟨elementAdmits, clauses⟩ := Fence.admits_append.mp admits
      have yielded : fence.Admits scene (Yielded.element element).mentions := elementAdmits
      refine (spares_evaluateSource sound outside clauses).bind fun _ sourceOutside => ?_
      refine (spares_newPipeline outside yielded clauses sourceOutside).bind fun _ isOutside => ?_
      exact spares_collectPipeline sound isOutside
  | .dictComprehension key value clauses, admits => by
      obtain ⟨pairAdmits, clauses⟩ := Fence.admits_append.mp admits
      have yielded : fence.Admits scene (Yielded.pair key value).mentions := pairAdmits
      refine (spares_evaluateSource sound outside clauses).bind fun _ sourceOutside => ?_
      refine (spares_newPipeline outside yielded clauses sourceOutside).bind fun _ isOutside => ?_
      exact spares_collectPipeline sound isOutside
  | .await _, _ => spares_unsupported
  | .yield value, admits =>
      (spares_evaluateOption sound outside admits).bind fun _ isOutside =>
        (spares_handOver outside isOutside).andThen (.pure .nothing)
  | .yieldFrom source, admits => by
      have sourceAdmits : fence.Admits scene source.mentions := admits
      refine (spares_evaluate sound outside sourceAdmits).bind fun _ isOutside => ?_
      refine (spares_collect sound isOutside).bind fun values valuesOutside => ?_
      exact (spares_forM fun value member => spares_handOver outside
        (valuesOutside value member)).andThen (.pure .nothing)
  | .call callee positional named, admits => by
      obtain ⟨before, namedAdmit⟩ := Fence.admits_append.mp admits
      obtain ⟨calleeAdmits, positionalAdmit⟩ := Fence.admits_append.mp before
      have calleeSpares := spares_evaluate sound outside calleeAdmits
      have itemsSpare {complaint : Kind → Complaint} : Spares fence (AreOutside fence)
          (evaluateItems engine scene complaint positional) :=
        spares_evaluateItems sound outside positionalAdmit
      have namedSpare {callee : Value} :
          Spares fence (NamedOutside fence) (evaluateNamed engine scene callee [] named) :=
        spares_evaluateNamed sound outside namedOutside_nil namedAdmit
      -- A star that stands alone is evaluated differently.
      have withItems (isPlain : ∀ spread, positional ≠ [.starred spread]) :
          Spares fence (Value.IsOutside fence)
            (evaluate engine scene (.call callee positional named)) := by
        unfold evaluate
        refine calleeSpares.bind fun _ calleeOutside => ?_
        split
        case h_1 spread => exact absurd rfl (isPlain spread)
        case h_2 =>
          exact itemsSpare.bind fun _ valuesOutside => namedSpare.bind fun _ namedOutside =>
            sound.call calleeOutside valuesOutside namedOutside
      cases positional with
      | nil => exact withItems nofun
      | cons first rest =>
          cases rest with
          | cons second rest => exact withItems nofun
          | nil =>
              cases first with
              | starred spread =>
                  have spreadAdmits : fence.Admits scene spread.mentions :=
                    (Fence.admits_append.mp positionalAdmit).1
                  have spreadSpares := spares_evaluate sound outside spreadAdmits
                  unfold evaluate
                  exact calleeSpares.bind fun _ calleeOutside =>
                    spreadSpares.bind fun _ isOutside => namedSpare.bind fun _ namedOutside =>
                      spares_callSpread sound calleeOutside isOutside namedOutside
              | _ => exact withItems nofun
  | .formatted pieces, admits =>
      (spares_evaluatePieces sound outside admits).bind fun _ _ => .pure (.string _)
  | .attribute object field, admits => by
      have objectAdmits : fence.Admits scene object.mentions := admits
      exact (spares_evaluate sound outside objectAdmits).bind fun _ isOutside =>
        spares_attributeOf isOutside
  | .subscript object index, admits => by
      obtain ⟨object, index⟩ := Fence.admits_append.mp admits
      refine (spares_evaluate sound outside object).bind fun _ objectOutside => ?_
      exact (spares_evaluate sound outside index).bind fun _ indexOutside =>
        spares_elementOf objectOutside indexOutside
  | .starred _, _ => spares_unsupported
  | .slice lower upper step, admits => by
      obtain ⟨before, step⟩ := Fence.admits_append.mp admits
      obtain ⟨lower, upper⟩ := Fence.admits_append.mp before
      refine (spares_evaluateOption sound outside lower).bind fun _ lowerOutside => ?_
      refine (spares_evaluateOption sound outside upper).bind fun _ upperOutside => ?_
      exact (spares_evaluateOption sound outside step).bind fun _ stepOutside =>
        .pure (.slice lowerOutside upperOutside stepOutside)
  | .walrus target value, admits =>
      (spares_evaluate sound outside (Fence.admits_bind_cons.mp admits)).bind fun _ isOutside =>
        (spares_bindName outside isOutside).andThen (.pure isOutside)

theorem spares_evaluateOption (sound : engine.Spares fence) (outside : scene.IsOutside fence) :
    ∀ {maybe : Option Expr}, fence.Admits scene (optionMentions maybe) →
      Spares fence (Value.IsOutside fence) (evaluateOption engine scene maybe)
  | none, _ => .pure .nothing
  | some _, admits => spares_evaluate sound outside admits

theorem spares_evaluateItems (sound : engine.Spares fence) (outside : scene.IsOutside fence)
    {complaint : Kind → Complaint} :
    ∀ {items : List Expr}, fence.Admits scene (exprsMentions items) →
      Spares fence (AreOutside fence) (evaluateItems engine scene complaint items)
  | [], _ => .pure areOutside_nil
  | first :: rest, admits => by
      obtain ⟨firstAdmits, restAdmit⟩ := Fence.admits_append.mp admits
      have firstSpares := spares_evaluate sound outside firstAdmits
      have others : Spares fence (AreOutside fence) (evaluateItems engine scene complaint rest) :=
        spares_evaluateItems sound outside restAdmit
      cases first with
      | starred spread =>
          have spreadAdmits : fence.Admits scene spread.mentions := firstAdmits
          refine (spares_evaluate sound outside spreadAdmits).bind fun _ isOutside => ?_
          refine (spares_spreadItems sound isOutside).bind fun _ itemsOutside => ?_
          exact others.bind fun _ othersOutside =>
            .pure (areOutside_append.mpr ⟨itemsOutside, othersOutside⟩)
      | _ =>
          exact firstSpares.bind fun _ isOutside => others.bind fun _ othersOutside =>
            .pure (areOutside_cons.mpr ⟨isOutside, othersOutside⟩)

theorem spares_evaluateConnected (sound : engine.Spares fence) (outside : scene.IsOutside fence)
    {connective : Connective} :
    ∀ {operands : List Expr}, fence.Admits scene (exprsMentions operands) →
      Spares fence (Value.IsOutside fence) (evaluateConnected engine scene connective operands)
  | [], _ => .pure .nothing
  | [last], admits => spares_evaluate sound outside (Fence.admits_append.mp admits).1
  | first :: second :: rest, admits => by
      obtain ⟨first, others⟩ := Fence.admits_append.mp admits
      refine (spares_evaluate sound outside first).bind fun _ isOutside => ?_
      refine spares_isTrue.bind fun _ _ => .ite (fun _ => .pure isOutside) fun _ => ?_
      exact spares_evaluateConnected sound outside others

theorem spares_evaluateCompared (sound : engine.Spares fence) (outside : scene.IsOutside fence)
    {left : Value} {relations : List Relation} :
    ∀ {others : List Expr}, fence.Admits scene (exprsMentions others) →
      Spares fence (Value.IsOutside fence) (evaluateCompared engine scene left relations others)
  | [], _ => .pure (.bool true)
  | next :: rest, admits => by
      obtain ⟨next, others⟩ := Fence.admits_append.mp admits
      refine (spares_evaluate sound outside next).bind fun right rightOutside => ?_
      cases relations with
      | nil => exact .pure (.bool true)
      | cons relation relations =>
          refine (spares_relate sound rightOutside).bind fun _ _ => ?_
          refine .ite (fun _ => .ite (fun _ => .pure (.bool true)) fun _ => ?_) fun _ =>
            .pure (.bool false)
          exact spares_evaluateCompared sound outside others

theorem spares_evaluateEntries (sound : engine.Spares fence) (outside : scene.IsOutside fence)
    {found pending : List (Value × Value)} (foundOutside : EntriesOutside fence found)
    (pendingOutside : EntriesOutside fence pending) :
    ∀ {entries : List DictEntry}, fence.Admits scene (entriesMentions entries) →
      Spares fence (EntriesOutside fence) (evaluateEntries engine scene found pending entries)
  | [], _ => spares_insertPending foundOutside pendingOutside
  | .pair key value :: rest, admits => by
      obtain ⟨pair, others⟩ := Fence.admits_append.mp admits
      obtain ⟨key, value⟩ := Fence.admits_append.mp pair
      refine (spares_evaluate sound outside key).bind fun _ keyOutside => ?_
      refine (spares_evaluate sound outside value).bind fun _ valueOutside => ?_
      refine spares_evaluateEntries sound outside foundOutside ?_ others
      exact List.forall_mem_append.mpr
        ⟨pendingOutside, List.forall_mem_singleton.mpr ⟨keyOutside, valueOutside⟩⟩
  | .spread mapping :: rest, admits => by
      obtain ⟨mapping, others⟩ := Fence.admits_append.mp admits
      refine (spares_insertPending foundOutside pendingOutside).bind fun _ insertedOutside => ?_
      refine (spares_evaluate sound outside mapping).bind fun _ mappingOutside => ?_
      refine (spares_spreadEntries mappingOutside).bind fun _ entriesOutside => ?_
      exact spares_evaluateEntries sound outside
        (entriesOutside_mergeEntries insertedOutside entriesOutside) entriesOutside_nil others

theorem spares_evaluateNamed (sound : engine.Spares fence) (outside : scene.IsOutside fence)
    {callee : Value} {found : List (Name × Value)} (foundOutside : NamedOutside fence found) :
    ∀ {named : List NamedArgument}, fence.Admits scene (namedMentions named) →
      Spares fence (NamedOutside fence) (evaluateNamed engine scene callee found named)
  | [], _ => .pure foundOutside
  | .named parameter value :: rest, admits => by
      obtain ⟨value, others⟩ := Fence.admits_append.mp admits
      refine (spares_evaluate sound outside value).bind fun _ valueOutside => ?_
      refine (spares_insertAllNamed foundOutside
        (List.forall_mem_singleton.mpr ⟨.string _, valueOutside⟩)).bind fun _ insertedOutside => ?_
      exact spares_evaluateNamed sound outside insertedOutside others
  | .spread mapping :: rest, admits => by
      obtain ⟨mapping, others⟩ := Fence.admits_append.mp admits
      refine (spares_evaluate sound outside mapping).bind fun _ mappingOutside => ?_
      refine (spares_spreadArguments mappingOutside foundOutside).bind fun _ spreadOutside => ?_
      exact spares_evaluateNamed sound outside spreadOutside others

theorem spares_evaluatePieces (sound : engine.Spares fence) (outside : scene.IsOutside fence) :
    ∀ {pieces : List Piece}, fence.Admits scene (piecesMentions pieces) →
      SparesAll fence (evaluatePieces engine scene pieces)
  | [], _ => .pure trivial
  | .literal value :: rest, admits =>
      (spares_evaluatePieces sound outside (Fence.admits_append.mp admits).2).bind fun _ _ =>
        .pure trivial
  | .value value conversion format :: rest, admits => by
      obtain ⟨piece, others⟩ := Fence.admits_append.mp admits
      obtain ⟨value, format⟩ := Fence.admits_append.mp piece
      refine (spares_evaluate sound outside value).bind fun _ _ => ?_
      refine (spares_evaluatePieces sound outside format).bind fun _ _ => ?_
      refine spares_formatConverted.bind fun _ _ => ?_
      exact (spares_evaluatePieces sound outside others).bind fun _ _ => .pure trivial

theorem spares_evaluateParameters (sound : engine.Spares fence) (outside : scene.IsOutside fence) :
    ∀ {parameters : List Parameter}, fence.Admits scene (parametersMentions parameters) →
      Spares fence (fun formal => ∀ parameter ∈ formal, MaybeOutside fence parameter.standard)
        (evaluateParameters engine scene parameters)
  | [], _ => .pure nofun
  | .mk kind name hint standard :: rest, admits => by
      obtain ⟨parameter, others⟩ := Fence.admits_append.mp admits
      obtain ⟨-, standard⟩ := Fence.admits_append.mp (Fence.admits_bind_cons.mp parameter)
      refine (spares_evaluateStandard sound outside standard).bind fun _ standardOutside => ?_
      exact (spares_evaluateParameters sound outside others).bind fun _ othersOutside =>
        .pure (List.forall_mem_cons.mpr ⟨standardOutside, othersOutside⟩)

theorem spares_evaluateStandard (sound : engine.Spares fence) (outside : scene.IsOutside fence) :
    ∀ {standard : Option Expr}, fence.Admits scene (optionMentions standard) →
      Spares fence (MaybeOutside fence) (evaluateStandard engine scene standard)
  | none, _ => .pure maybeOutside_none
  | some _, admits => (spares_evaluate sound outside admits).map fun _ => maybeOutside_some

theorem spares_evaluateSource (sound : engine.Spares fence) (outside : scene.IsOutside fence) :
    ∀ {clauses : List Clause}, fence.Admits scene (clausesMentions clauses) →
      Spares fence (Value.IsOutside fence) (evaluateSource engine scene clauses)
  | [], _ => .pure .nothing
  | .mk _ target source tests :: _, admits => by
      obtain ⟨clause, -⟩ := Fence.admits_append.mp admits
      obtain ⟨head, -⟩ := Fence.admits_append.mp clause
      obtain ⟨-, source⟩ := Fence.admits_append.mp head
      exact spares_evaluate sound outside source

end

end Stencil.Run
