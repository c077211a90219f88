import Stencil.Proofs.Reach.Binding
import Stencil.Run.Statement

/-! # Statements outside a fence

A statement that may run in a scene outside keeps the fence, however it is left: what it returns
and what it raises is outside. The rounds of a loop keep the fence because one round does.
-/

namespace Stencil.Run

open Script

variable {fence : Fence} {engine : Engine} {scene : Scene} {value : Value}

theorem spares_augmented (sound : engine.Spares fence) {operator : BinaryOperator} {old : Value}
    (oldOutside : old.IsOutside fence) (outside : value.IsOutside fence) :
    Spares fence (Value.IsOutside fence) (augmented engine operator old value) := by
  have combined {operator : BinaryOperator} :
      Spares fence (Value.IsOutside fence) (combine operator true old value) :=
    spares_combine oldOutside outside
  cases oldOutside with
  | @ref address isOpen =>
      refine (spares_load isOpen).bind fun object objectOutside => ?_
      split
      · exact (ListMethod.spares_appendAll sound isOpen outside).andThen (.pure (.ref isOpen))
      case h_2 items =>
        cases objectOutside with
        | list itemsOutside =>
            refine spares_repetitions.bind fun count _ => ?_
            refine (spares_repeatWithin (spares_outOfRoom)).bind fun repeated isRepeated => ?_
            refine (spares_save isOpen (.list ?_)).andThen (.pure (.ref isOpen))
            exact fun item member => itemsOutside item (isRepeated item member)
      · exact (MappingMethod.spares_updateFrom sound isOpen (maybeOutside_some outside)
          namedOutside_nil).andThen (.pure (.ref isOpen))
      case h_4 members _ =>
        cases objectOutside with
        | set membersOutside =>
            refine Spares.get.bind fun store fenced => ?_
            split
            case h_1 others areOthers =>
              split
              case h_1 combinedMembers isCombined =>
                have combinedOutside := areOutside_combineSets membersOutside
                  (fenced.membersIn outside areOthers) isCombined
                exact (spares_save isOpen (.set combinedOutside)).andThen (.pure (.ref isOpen))
              · exact combined
            · exact combined
      · exact combined
  | _ => exact combined

theorem spares_augmentTarget (sound : engine.Spares fence) (outside : scene.IsOutside fence)
    {operator : BinaryOperator} {expression : Expr} {target : Target}
    (admits : fence.Admits scene (Stmt.augment target operator expression).mentions) :
    SparesAll fence (augmentTarget engine scene operator expression target) := by
  obtain ⟨before, expressionAdmits⟩ := Fence.admits_append.mp admits
  obtain ⟨read, targetAdmits⟩ := Fence.admits_append.mp before
  match target, read, targetAdmits with
  | .name identifier, read, _ =>
      refine (spares_readName outside read).bind fun old oldOutside => ?_
      refine (spares_evaluate sound outside expressionAdmits).bind fun _ valueOutside => ?_
      exact (spares_augmented sound oldOutside valueOutside).bind fun _ newOutside =>
        spares_bindName outside newOutside
  | .attribute object field, _, objectAdmits =>
      refine (spares_evaluate sound outside objectAdmits).bind fun _ objectOutside => ?_
      refine (spares_attributeOf objectOutside).bind fun old oldOutside => ?_
      refine (spares_evaluate sound outside expressionAdmits).bind fun _ valueOutside => ?_
      exact (spares_augmented sound oldOutside valueOutside).bind fun _ newOutside =>
        spares_assignAttribute objectOutside newOutside
  | .subscript object index, _, targetAdmits =>
      obtain ⟨object, index⟩ := Fence.admits_append.mp targetAdmits
      refine (spares_evaluate sound outside object).bind fun _ objectOutside => ?_
      refine (spares_evaluate sound outside index).bind fun _ indexOutside => ?_
      refine (spares_elementOf objectOutside indexOutside).bind fun old oldOutside => ?_
      refine (spares_evaluate sound outside expressionAdmits).bind fun _ valueOutside => ?_
      exact (spares_augmented sound oldOutside valueOutside).bind fun _ newOutside =>
        spares_assignElement sound objectOutside indexOutside newOutside
  | .tuple items, _, _ => exact .pure trivial
  | .list items, _, _ => exact .pure trivial
  | .starred target, _, _ => exact .pure trivial

theorem spares_evaluateHinted (sound : engine.Spares fence) (outside : scene.IsOutside fence)
    {target : Target} (admits : fence.Admits scene target.mentions) :
    SparesAll fence (evaluateHinted engine scene target) := by
  match target, admits with
  | .attribute object field, objectAdmits =>
      exact (spares_evaluate sound outside objectAdmits).andThen (.pure trivial)
  | .subscript object index, admits =>
      obtain ⟨object, index⟩ := Fence.admits_append.mp admits
      exact (spares_evaluate sound outside object).andThen
        ((spares_evaluate sound outside index).andThen (.pure trivial))
  | .name _, _ | .tuple _, _ | .list _, _ | .starred _, _ => exact .pure trivial

/-- An exception that was found is outside. -/
abbrev MaybeOpen (fence : Fence) (found : Option Address) : Prop :=
  ∀ address, found = some address → fence.IsOpen address

theorem spares_instanceOf : value.IsOutside fence →
    Spares fence (MaybeOpen fence) (match value with
      | .ref address => do
          match ← load address with
          | .exception _ _ => return some address
          | _ => return none
      | _ => return none) := by
  intro outside
  have noneOpen : MaybeOpen fence none := by
    intro found same
    cases same
  cases outside with
  | @ref address isOpen =>
      refine (spares_load isOpen).bind fun object _ => ?_
      split
      · exact .pure fun found same => Option.some.inj same ▸ isOpen
      · exact .pure noneOpen
  | _ => exact .pure noneOpen

theorem spares_exceptionOf? (sound : engine.Spares fence) (outside : value.IsOutside fence) :
    Spares fence (MaybeOpen fence) (exceptionOf? engine value) := by
  unfold exceptionOf?
  dsimp only
  split
  · exact (sound.call outside areOutside_nil namedOutside_nil).bind fun _ madeOutside =>
      spares_instanceOf madeOutside
  · exact spares_instanceOf outside

theorem spares_raise (sound : engine.Spares fence) (outside : scene.IsOutside fence)
    {exception cause : Option Expr} (exceptionAdmits : fence.Admits scene (optionMentions exception))
    (causeAdmits : fence.Admits scene (optionMentions cause)) {result : Flow → Prop} :
    Spares fence result (raise engine scene exception cause) := by
  cases exception with
  | none =>
      refine Spares.get.bind fun store fenced => ?_
      split
      case h_1 active others isActive =>
        refine .throw (.raised (fenced.handling active ?_))
        rw [isActive]
        exact List.mem_cons_self
      · exact spares_complain
  | some exception =>
      refine (spares_evaluate sound outside exceptionAdmits).bind fun value valueOutside => ?_
      refine (spares_evaluateOption sound outside causeAdmits).bind fun cause causeOutside => ?_
      refine (spares_exceptionOf? sound valueOutside).bind fun found isOpen => ?_
      cases found with
      | none => exact spares_complain
      | some address =>
          refine (spares_exceptionOf? sound causeOutside).bind fun _ _ => ?_
          exact .ite (fun _ => .throw (.raised (isOpen address rfl))) fun _ => spares_complain

theorem spares_handles {kind : Kind} : SparesAll fence (handles value kind) :=
  .ite (fun _ => .pure trivial) fun _ => spares_complain

theorem spares_setHandling {handling : List Address}
    (outside : ∀ exception ∈ handling, fence.IsOpen exception) :
    SparesAll fence (modify fun store => { store with handling := handling }) :=
  fun _ fenced => ⟨trivial, fenced.handle outside⟩

theorem spares_whileHandling {α : Type} {result : α → Prop} {action : Action α} {exception : Address}
    (isOpen : fence.IsOpen exception) (spares : Spares fence result action) :
    Spares fence result (whileHandling exception action) := by
  refine Spares.get.bind fun store fenced => ?_
  refine (spares_setHandling (List.forall_mem_cons.mpr ⟨isOpen, fenced.handling⟩)).andThen ?_
  refine (spares_attempt spares).bind fun ended isOutside => ?_
  refine (spares_setHandling fenced.handling).andThen ?_
  cases ended with
  | ok value => exact .pure isOutside
  | error exception => exact .throw (.raised isOutside)

theorem spares_decorate (sound : engine.Spares fence) (outside : value.IsOutside fence)
    {decorators : List Value} (decoratorsOutside : AreOutside fence decorators) :
    Spares fence (Value.IsOutside fence) (decorate engine value decorators) := by
  induction decorators with
  | nil => exact .pure outside
  | cons decorator rest ih =>
      obtain ⟨decoratorOutside, restOutside⟩ := areOutside_cons.mp decoratorsOutside
      exact (ih restOutside).bind fun _ innerOutside =>
        sound.call decoratorOutside (areOutside_singleton.mpr innerOutside) namedOutside_nil

/-- The flow behind a loop is outside. -/
abbrev MaybeFlowOutside (fence : Fence) (found : Option Flow) : Prop :=
  ∀ flow, found = some flow → flow.IsOutside fence

theorem maybeFlowOutside_some {flow : Flow} (outside : flow.IsOutside fence) :
    MaybeFlowOutside fence (some flow) :=
  fun _ same => Option.some.inj same ▸ outside

/-- The rounds of a loop keep a fence. -/
theorem spares_runRounds {proceed : Action Bool} {body : Action Flow}
    (proceedSpares : SparesAll fence proceed) (bodySpares : Spares fence (Flow.IsOutside fence) body)
    (rounds : Nat) : Spares fence (MaybeFlowOutside fence) (runRounds proceed body rounds) := by
  induction rounds with
  | zero => exact .throw .unfinished
  | succ rounds ih =>
      refine proceedSpares.bind fun goesOn _ => .ite (fun _ => ?_) fun _ => .pure nofun
      refine bodySpares.bind fun flow flowOutside => ?_
      cases flowOutside with
      | next => exact ih
      | continueLoop => exact ih
      | breakLoop => exact .pure (maybeFlowOutside_some .next)
      | returned outside => exact .pure (maybeFlowOutside_some (.returned outside))

/-- A block with handlers keeps a fence. -/
theorem spares_guarded {body otherwise : Action Flow} {handlers : Address → Action (Option Flow)}
    (bodySpares : Spares fence (Flow.IsOutside fence) body)
    (otherwiseSpares : Spares fence (Flow.IsOutside fence) otherwise)
    (handlersSpare : ∀ {exception}, fence.IsOpen exception →
      Spares fence (MaybeFlowOutside fence) (handlers exception)) :
    Spares fence (Flow.IsOutside fence) (do
      match ← attempt body with
      | .ok .next => otherwise
      | .ok flow => return flow
      | .error exception =>
          match ← whileHandling exception (handlers exception) with
          | some flow => return flow
          | none => throw (.raised exception)) := by
  refine (spares_attempt bodySpares).bind fun ended isOutside => ?_
  split
  · exact otherwiseSpares
  · exact .pure isOutside
  case h_3 exception =>
    refine (spares_whileHandling isOutside (handlersSpare isOutside)).bind
      fun found flowOutside => ?_
    cases found with
    | some flow => exact .pure (flowOutside flow rfl)
    | none => exact .throw (.raised isOutside)

/-- A block that runs in any case keeps a fence. -/
theorem spares_ensured {main always : Action Flow} (mainSpares : Spares fence (Flow.IsOutside fence) main)
    (alwaysSpares : Spares fence (Flow.IsOutside fence) always) :
    Spares fence (Flow.IsOutside fence) (do
      match ← attempt main with
      | .ok flow =>
          match ← always with
          | .next => return flow
          | other => return other
      | .error exception =>
          match ← whileHandling exception always with
          | .next => throw (.raised exception)
          | other => return other) := by
  refine (spares_attempt mainSpares).bind fun ended isOutside => ?_
  cases ended with
  | ok flow =>
      refine alwaysSpares.bind fun last lastOutside => ?_
      cases lastOutside with
      | next => exact .pure isOutside
      | returned valueOutside => exact .pure (.returned valueOutside)
      | breakLoop => exact .pure .breakLoop
      | continueLoop => exact .pure .continueLoop
  | error exception =>
      refine (spares_whileHandling isOutside alwaysSpares).bind fun last lastOutside => ?_
      cases lastOutside with
      | next => exact .throw (.raised isOutside)
      | returned valueOutside => exact .pure (.returned valueOutside)
      | breakLoop => exact .pure .breakLoop
      | continueLoop => exact .pure .continueLoop

/-- The block of a handler keeps a fence, with or without a name for the exception. -/
theorem spares_handled (outside : scene.IsOutside fence) {exception : Address}
    (isOpen : fence.IsOpen exception) {body : Action Flow}
    (bodySpares : Spares fence (Flow.IsOutside fence) body) {name : Option Name} :
    Spares fence (MaybeFlowOutside fence) (match name with
      | none => some <$> body
      | some name => do
          bindName scene name (.ref exception)
          let result ← attempt body
          clearName scene name
          match result with
          | .ok flow => return some flow
          | .error exception => throw (.raised exception)) := by
  cases name with
  | none => exact bodySpares.map fun _ => maybeFlowOutside_some
  | some name =>
      refine (spares_bindName outside (.ref isOpen)).andThen ?_
      refine (spares_attempt bodySpares).bind fun ended isOutside => ?_
      refine (spares_clearName outside).andThen ?_
      cases ended with
      | ok flow => exact .pure (maybeFlowOutside_some isOutside)
      | error exception => exact .throw (.raised isOutside)

mutual

/-- **A statement keeps a fence, and it is left outside.** -/
theorem spares_runStatement (sound : engine.Spares fence) (outside : scene.IsOutside fence) :
    ∀ {statement : Stmt}, fence.Admits scene statement.mentions →
      Spares fence (Flow.IsOutside fence) (runStatement engine scene statement)
  | .expression value, admits => by
      have valueAdmits : fence.Admits scene value.mentions := admits
      exact (spares_evaluate sound outside valueAdmits).andThen (.pure .next)
  | .assign targets value, admits => by
      obtain ⟨targets, value⟩ := Fence.admits_append.mp admits
      refine (spares_evaluate sound outside value).bind fun _ valueOutside => ?_
      exact (spares_assignTargets sound outside targets valueOutside).andThen (.pure .next)
  | .augment target operator value, admits =>
      (spares_augmentTarget sound outside admits).andThen (.pure .next)
  | .hinted target _ hint value, admits => by
      obtain ⟨before, valueAdmits⟩ := Fence.admits_append.mp admits
      obtain ⟨targetAdmits, -⟩ := Fence.admits_append.mp before
      cases value with
      | some value =>
          refine (spares_evaluate sound outside valueAdmits).bind fun _ valueOutside => ?_
          exact (spares_assignTarget sound outside targetAdmits valueOutside).andThen (.pure .next)
      | none => exact (spares_evaluateHinted sound outside targetAdmits).andThen (.pure .next)
  | .returnValue value, admits => by
      have valueAdmits : fence.Admits scene (optionMentions value) := admits
      exact (spares_evaluateOption sound outside valueAdmits).bind fun _ valueOutside =>
        .pure (.returned valueOutside)
  | .delete targets, admits =>
      (spares_deleteTargets sound outside admits).andThen (.pure .next)
  | .raise exception cause, admits => by
      obtain ⟨exception, cause⟩ := Fence.admits_append.mp admits
      exact spares_raise sound outside exception cause
  | .assert test message, admits => by
      obtain ⟨test, messageAdmits⟩ := Fence.admits_append.mp admits
      refine (spares_evaluate sound outside test).bind fun _ _ => spares_isTrue.bind fun _ _ => ?_
      refine .ite (fun _ => .pure .next) fun _ => ?_
      cases message with
      | none => exact spares_raiseWith areOutside_nil
      | some message =>
          exact (spares_evaluate sound outside messageAdmits).bind fun _ messageOutside =>
            spares_raiseWith (areOutside_singleton.mpr messageOutside)
  | .pass, _ => .pure .next
  | .breakLoop, _ => .pure .breakLoop
  | .continueLoop, _ => .pure .continueLoop
  | .importModules _, _ => spares_unsupported
  | .importNames _ _ _, _ => spares_unsupported
  | .importAll _ _, _ => spares_unsupported
  | .globalNames _, _ => .pure .next
  | .nonlocalNames _, _ => .pure .next
  | .ifBlock test body otherwise, admits => by
      obtain ⟨before, otherwise⟩ := Fence.admits_append.mp admits
      obtain ⟨test, body⟩ := Fence.admits_append.mp before
      refine (spares_evaluate sound outside test).bind fun _ _ => spares_isTrue.bind fun _ _ => ?_
      exact .ite (fun _ => spares_runBlock sound outside body) fun _ =>
        spares_runBlock sound outside otherwise
  | .whileLoop test body otherwise, admits => by
      obtain ⟨before, otherwise⟩ := Fence.admits_append.mp admits
      obtain ⟨testAdmits, bodyAdmits⟩ := Fence.admits_append.mp before
      have holds : SparesAll fence (do isTrue (← evaluate engine scene test)) :=
        (spares_evaluate sound outside testAdmits).bind fun _ _ => spares_isTrue
      have bodySpares := spares_runBlock sound outside bodyAdmits
      -- A flow that leaves the loop comes out of its body; without one the loop ends by its test.
      refine (spares_runRounds holds bodySpares roundLimit).bind fun found flowOutside => ?_
      cases found with
      | some flow => exact .pure (flowOutside flow rfl)
      | none => exact spares_runBlock sound outside otherwise
  | .forLoop isAsync target source body otherwise, admits => by
      obtain ⟨before, otherwise⟩ := Fence.admits_append.mp admits
      obtain ⟨head, body⟩ := Fence.admits_append.mp before
      obtain ⟨target, source⟩ := Fence.admits_append.mp head
      refine .ite (fun _ => spares_unsupported) fun _ => ?_
      refine (spares_evaluate sound outside source).bind fun _ sourceOutside => ?_
      refine (spares_iterate sourceOutside).bind fun iterator iteratorOutside => ?_
      refine (spares_roundsOf iteratorOutside).bind fun rounds _ => ?_
      have body := spares_runBlock sound outside body
      refine (spares_runRounds ?_ body rounds).bind fun found flowOutside => ?_
      · refine (spares_draw sound iteratorOutside).bind fun drawn isOutside => ?_
        cases drawn with
        | none => exact .pure trivial
        | some value =>
            exact (spares_assignTarget sound outside target (isOutside value rfl)).andThen
              (.pure trivial)
      · cases found with
        | some flow => exact .pure (flowOutside flow rfl)
        | none => exact spares_runBlock sound outside otherwise
  | .tryBlock isGroup body handlers otherwise always, admits => by
      obtain ⟨before, always⟩ := Fence.admits_append.mp admits
      obtain ⟨head, otherwise⟩ := Fence.admits_append.mp before
      obtain ⟨body, handlers⟩ := Fence.admits_append.mp head
      refine .ite (fun _ => spares_unsupported) fun _ => ?_
      refine spares_ensured ?_ (spares_runBlock sound outside always)
      exact spares_guarded (spares_runBlock sound outside body)
        (spares_runBlock sound outside otherwise)
        fun isOpen => spares_runHandlers sound outside isOpen handlers
  | .withBlock isAsync items body, admits => by
      refine .ite (fun _ => spares_unsupported) fun _ => ?_
      cases items with
      | nil => exact .pure .next
      | cons first rest =>
          obtain ⟨context, target⟩ := first
          obtain ⟨itemsAdmit, -⟩ := Fence.admits_append.mp admits
          rw [List.flatMap_cons] at itemsAdmit
          obtain ⟨firstAdmits, -⟩ := Fence.admits_append.mp itemsAdmit
          obtain ⟨contextAdmits, -⟩ := Fence.admits_append.mp firstAdmits
          exact (spares_evaluate sound outside contextAdmits).bind fun _ _ => spares_complainOf
  | .matchBlock subject cases, admits => by
      obtain ⟨subject, cases⟩ := Fence.admits_append.mp admits
      exact (spares_evaluate sound outside subject).bind fun _ subjectOutside =>
        spares_runCases sound outside subjectOutside cases
  | .functionDef isAsync name parameters hint decorators body, admits => by
      obtain ⟨before, bodyAdmits⟩ := Fence.admits_append.mp (Fence.admits_bind_cons.mp admits)
      obtain ⟨head, decorators⟩ := Fence.admits_append.mp before
      obtain ⟨parameters, -⟩ := Fence.admits_append.mp head
      have blockAdmits : fence.Admits scene (FunctionBody.block body).mentions := bodyAdmits
      refine (spares_evaluateItems sound outside decorators).bind fun _ decoratorsOutside => ?_
      refine (spares_evaluateParameters sound outside parameters).bind fun _ standards => ?_
      refine (spares_newFunction outside standards blockAdmits).bind fun _ functionOutside => ?_
      refine (spares_decorate sound functionOutside decoratorsOutside).bind fun _ isOutside => ?_
      exact (spares_bindName outside isOutside).andThen (.pure .next)
  | .classDef _ _ _ _ _, _ => spares_unsupported

theorem spares_runBlock (sound : engine.Spares fence) (outside : scene.IsOutside fence) :
    ∀ {block : List Stmt}, fence.Admits scene (stmtsMentions block) →
      Spares fence (Flow.IsOutside fence) (runBlock engine scene block)
  | [], _ => .pure .next
  | _ :: _, admits => by
      obtain ⟨first, rest⟩ := Fence.admits_append.mp admits
      have restSpares := spares_runBlock sound outside rest
      refine (spares_runStatement sound outside first).bind fun flow flowOutside => ?_
      cases flowOutside with
      | next => exact restSpares
      | returned valueOutside => exact .pure (.returned valueOutside)
      | breakLoop => exact .pure .breakLoop
      | continueLoop => exact .pure .continueLoop

theorem spares_runHandlers (sound : engine.Spares fence) (outside : scene.IsOutside fence)
    {exception : Address} (isOpen : fence.IsOpen exception) :
    ∀ {handlers : List Handler}, fence.Admits scene (handlersMentions handlers) →
      Spares fence (MaybeFlowOutside fence) (runHandlers engine scene exception handlers)
  | [], _ => .pure nofun
  | .mk kind name body :: rest, admits => by
      obtain ⟨first, rest⟩ := Fence.admits_append.mp admits
      obtain ⟨head, body⟩ := Fence.admits_append.mp first
      obtain ⟨kindAdmits, -⟩ := Fence.admits_append.mp head
      have bodySpares := spares_runBlock sound outside body
      have restSpares := spares_runHandlers sound outside isOpen rest
      have always : SparesAll fence (pure true) := .pure trivial
      cases kind with
      | none =>
          exact always.bind fun _ _ =>
            .ite (fun _ => restSpares) fun _ => spares_handled outside isOpen bodySpares
      | some kind =>
          refine (spares_evaluate sound outside kindAdmits).bind fun _ _ =>
            spares_kindOf.bind fun _ _ => spares_handles.bind fun _ _ => ?_
          exact .ite (fun _ => restSpares) fun _ => spares_handled outside isOpen bodySpares

theorem spares_runCases (sound : engine.Spares fence) (outside : scene.IsOutside fence)
    {value : Value} (valueOutside : value.IsOutside fence) :
    ∀ {cases : List MatchCase}, fence.Admits scene (casesMentions cases) →
      Spares fence (Flow.IsOutside fence) (runCases engine scene value cases)
  | [], _ => .pure .next
  | .mk pattern guard body :: rest, admits => by
      obtain ⟨first, rest⟩ := Fence.admits_append.mp admits
      obtain ⟨head, body⟩ := Fence.admits_append.mp first
      obtain ⟨pattern, guardAdmits⟩ := Fence.admits_append.mp head
      have bodySpares := spares_runBlock sound outside body
      have restSpares := spares_runCases sound outside valueOutside rest
      have always : SparesAll fence (pure true) := .pure trivial
      refine (spares_fitPattern sound outside pattern valueOutside).bind fun fit fitOutside => ?_
      cases fit with
      | none => exact restSpares
      | some found =>
          refine (spares_bindNames outside (fitOutside found rfl)).andThen ?_
          cases guard with
          | none => exact always.bind fun _ _ => .ite (fun _ => bodySpares) fun _ => restSpares
          | some guard =>
              refine (spares_evaluate sound outside guardAdmits).bind fun _ _ =>
                spares_isTrue.bind fun _ _ => ?_
              exact .ite (fun _ => bodySpares) fun _ => restSpares

end

end Stencil.Run
