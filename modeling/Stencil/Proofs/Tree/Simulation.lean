import Stencil.Proofs.Tree.Names
import Stencil.Proofs.Tree.Walk

/-! # Render functions do what walks do

Every statement of a render function's body does in a run what the walk does there: it writes the
same text, leaves the same values to the variables, or ends with an exception of the same kind.
Following the structure of a tree, so do all of its statements
(`Stencil.RenderCall.simulates_tree`).
-/

namespace Stencil

open Script Run

namespace RenderCall

variable {call : RenderCall} {values : VariableValues} {written : Text} {start now : Store}

/-- What an action gives without changing the store is what a walk finds. -/
def Gives {α : Type} (found : Except ExceptionKind α) (now : Store)
    (result : EStateM.Result Stop Store α) : Prop :=
  match found with
  | .ok value => result = .ok value now
  | .error kind => RaisesAfter now kind result

theorem home_own {name : Name} (member : name ∈ call.own) :
    call.scene.home name = .running call.before.objects.size :=
  home_running call.layers member

/-- The value of a variable. -/
theorem State.evaluate_variable (state : call.State values written now) {shown : Variable}
    (isBound : shown ∈ call.bound) : Gives (values.value shown) now
      (evaluate call.engine call.scene (.name shown.name) now) := by
  obtain ⟨slots, holds, hasSlots⟩ := state.frame
  have home := home_own (call.bound_own shown isBound)
  have reads : evaluate call.engine call.scene (.name shown.name) =
      readName call.scene shown.name := by
    rw [evaluate]
    exact if_neg fun same => shown.ne_fixedName (beq_iff_eq.mp same)
  rw [reads, VariableValues.value, ← hasSlots.lookup_eq shown isBound]
  cases found : slots.lookup shown.name with
  | none => exact raises_readName home holds found
  | some value => exact readName_running home holds found

/-- What a walk finds as the value of a variable is data. -/
theorem State.isData_value (state : call.State values written now) {shown : Variable}
    (isBound : shown ∈ call.bound) {value : Value} (found : values.value shown = .ok value) :
    IsData call.region value := by
  rw [VariableValues.value] at found
  cases bound : values shown.name with
  | none =>
      rw [bound] at found
      cases found
  | some other =>
      rw [bound] at found
      cases found
      exact state.data shown isBound value bound

theorem State.evaluate_append (state : call.State values written now) :
    evaluate call.engine call.scene (.name (text "_append")) now =
      .ok (.method (.ref call.buffer) (text "append")) now := by
  obtain ⟨slots, holds, hasSlots⟩ := state.frame
  exact readName_running (home_own (call.reserved_own _ (by decide))) holds hasSlots.method

theorem State.evaluate_str (state : call.State values written now) :
    evaluate call.engine call.scene (.name (text "_str")) now = .ok (.builtin .written) now := by
  obtain ⟨slots, holds, knows⟩ := call.knowsWritten
  exact readName_program (home_program call.layers call.str_not_own)
    ((state.kept _ call.globals_lt).trans holds) knows

/-- Objects of the region have not changed. -/
theorem State.same_region (state : call.State values written now) (address : Address)
    (inside : call.region address) : now.object address = call.before.object address :=
  state.kept address (call.isRegion.lt_size address inside)

/-- The text that is written for data. -/
theorem State.gives_written (state : call.State values written now) {value : Value}
    (data : IsData call.region value) :
    Gives (writtenText call.before value) now (Run.written value now) := by
  rw [writtenText, Run.written]
  cases isNothing : value.isNothing with
  | true => exact rfl
  | false =>
      have same := textIn_congr call.isRegion state.same_region data
      have settled : textOf value now = settle (value.textIn now) now := rfl
      simp only [Bool.false_eq_true, ↓reduceIte]
      rw [settled, same]
      cases value.textIn call.before with
      | ok content => exact rfl
      | error complaint => exact raises_complain

/-- The text of a variable's value. -/
theorem State.evaluate_written (state : call.State values written now) {shown : Variable}
    (isBound : shown ∈ call.bound) :
    Gives ((values.value shown >>= writtenText call.before).map Value.string) now
      (evaluate call.engine call.scene (writtenValue shown) now) := by
  have reads := state.evaluate_variable isBound
  rw [writtenValue, evaluate_call rfl, call.calls, bind_ok state.evaluate_str]
  cases found : values.value shown with
  | error kind =>
      rw [found] at reads
      exact reads.bind
  | ok value =>
      rw [found] at reads
      have gives := state.gives_written (state.isData_value isBound found)
      rw [bind_ok reads, callValue_written]
      change Gives ((writtenText call.before value).map Value.string) now _
      cases content : writtenText call.before value with
      | ok content =>
          rw [content] at gives
          exact bind_ok gives
      | error kind =>
          rw [content] at gives
          exact gives.bind

theorem simulates_nothing : call.Simulates (pure .next) .nothing := by
  intro values written start state
  refine ⟨start, rfl, ?_, .refl⟩
  rwa [List.append_nil]

/-- A text more in the list has been written. -/
theorem State.push (state : call.State values written now) (content : Text) :
    call.State values (written ++ content)
      (now.change call.buffer (pushed (.string content))) where
  kept address within := by
    have differs : address ≠ call.buffer := Nat.ne_of_lt (Nat.lt_succ_of_lt within)
    rw [Store.object_change_of_ne differs, state.kept address within]
  larger := Nat.lt_of_lt_of_eq state.larger Store.size_change.symm
  frame := by
    have differs : call.before.objects.size ≠ call.buffer := Nat.ne_of_lt (Nat.lt_succ_self _)
    rw [Store.object_change_of_ne differs]
    exact state.frame
  pieces := by
    obtain ⟨pieces, holds, flat⟩ := state.pieces
    refine ⟨pieces ++ [content], ?_, ?_⟩
    · rw [Store.object_change_self state.larger, holds]
      simp only [pushed, List.push_toArray, List.map_append, List.map_cons, List.map_nil]
    · rw [List.flatten_append, flat, List.flatten_singleton]
  data := state.data

/-- A change of the list changes nothing else that the call has made. -/
theorem advances_change {step : Object → Object} :
    call.Advances now (now.change call.buffer step) where
  size_le := Nat.le_of_eq Store.size_change.symm
  object_eq _ behind _ := Store.object_change_of_ne (Nat.ne_of_gt behind)

/-- Writing the text of an expression is simulated by writing what the expression gives. -/
theorem simulates_writeStatement {argument : Expr}
    (content : VariableValues → Except ExceptionKind Text) (unstarred : argument.isStarred = false)
    (gives : ∀ (values : VariableValues) (written : Text) (now : Store),
      call.State values written now → Gives ((content values).map Value.string) now
        (evaluate call.engine call.scene argument now)) :
    call.Simulates (runStatement call.engine call.scene (writeStatement argument))
      (fun values => (content values).map (·, values)) := by
  intro values written start state
  have argumentGives := gives values written start state
  obtain ⟨pieces, holds, -⟩ := state.pieces
  change call.Follows ((content values).map (·, values)) written start Flow.next
    ((evaluate call.engine call.scene (.call (.name (text "_append")) [argument] []) >>=
      fun _ => pure Flow.next) start)
  rw [evaluate_call unstarred, call.calls]
  cases found : content values with
  | error kind =>
      rw [found] at argumentGives
      have raises : RaisesAfter start kind (evaluate call.engine call.scene argument start) :=
        argumentGives
      refine .of_remains state.remains (.bind ?_)
      rw [bind_ok state.evaluate_append]
      exact raises.bind
  | ok content =>
      rw [found] at argumentGives
      have ran : evaluate call.engine call.scene argument start = .ok (.string content) start :=
        argumentGives
      refine ⟨start.change call.buffer (pushed (.string content)), ?_, state.push content,
        advances_change⟩
      have appended : (do
          let function ← evaluate call.engine call.scene (.name (text "_append"))
          let value ← evaluate call.engine call.scene argument
          callValue call.below function [value] []) start =
            .ok .nothing (start.change call.buffer (pushed (.string content))) := by
        rw [bind_ok state.evaluate_append, bind_ok ran]
        exact callValue_append holds
      exact bind_ok appended

theorem simulates_literal (content : Text) :
    call.Simulates (runStatement call.engine call.scene
      (writeStatement (.constant (.text content)))) (.write content) :=
  simulates_writeStatement (fun _ => .ok content) rfl fun _ _ _ _ => rfl

theorem simulates_output {shown : Variable} (isBound : shown ∈ call.bound) :
    call.Simulates (runStatement call.engine call.scene (writeStatement (writtenValue shown)))
      (.writeValue call.before shown) := by
  have walk : Walk.writeValue call.before shown = fun values =>
      (values.value shown >>= writtenText call.before).map (·, values) := by
    funext values
    rw [Walk.writeValue]
    cases values.value shown <;> rfl
  rw [walk]
  exact simulates_writeStatement _ rfl fun _ _ _ state => state.evaluate_written isBound

/-- A statement before a block is simulated by one walk before another. -/
theorem simulates_cons {first : Stmt} {rest : List Stmt} {upper lower : Walk}
    (simulatesFirst : call.Simulates (runStatement call.engine call.scene first) upper)
    (simulatesRest : call.Simulates (runBlock call.engine call.scene rest) lower) :
    call.Simulates (runBlock call.engine call.scene (first :: rest)) (upper.andThen lower) := by
  intro values written start state
  have follows := simulatesFirst values written start state
  rw [runBlock]
  cases ended : upper values with
  | error kind =>
      rw [ended] at follows
      rw [Walk.andThen_of_error ended]
      exact follows.bind
  | ok above =>
      obtain ⟨content, between⟩ := above
      rw [ended] at follows
      obtain ⟨now, ran, stateNow, advances⟩ := follows
      have followsRest := simulatesRest _ _ _ stateNow
      rw [bind_ok ran, Walk.andThen_of_ok ended]
      cases endedRest : lower between with
      | error kind =>
          rw [endedRest] at followsRest
          exact followsRest
      | ok below =>
          obtain ⟨others, after⟩ := below
          rw [endedRest] at followsRest
          obtain ⟨last, ranRest, stateLast, advancesRest⟩ := followsRest
          refine ⟨last, ranRest, ?_, advances.trans advancesRest⟩
          rwa [← List.append_assoc]

/-- A block that begins with the empty statement is simulated like the rest of it. -/
theorem simulates_pass {rest : List Stmt} {walk : Walk}
    (simulatesRest : call.Simulates (runBlock call.engine call.scene rest) walk) :
    call.Simulates (runBlock call.engine call.scene (.pass :: rest)) walk := by
  have whole : call.Simulates (runBlock call.engine call.scene (.pass :: rest))
      (Walk.nothing.andThen walk) := simulates_cons simulates_nothing simulatesRest
  rwa [Walk.nothing_andThen] at whole

/-- A choice by the truth of a variable's value. -/
theorem simulates_choice {test : Variable} (isBound : test ∈ call.bound)
    {body others : List Stmt} {whenTrue whenFalse : Walk}
    (simulatesBody : call.Simulates (runBlock call.engine call.scene body) whenTrue)
    (simulatesOthers : call.Simulates (runBlock call.engine call.scene others) whenFalse) :
    call.Simulates (runStatement call.engine call.scene (.ifBlock (.name test.name) body others))
      (.choose call.before test whenTrue whenFalse) := by
  intro values written start state
  have reads := state.evaluate_variable isBound
  rw [runStatement]
  cases found : values.value test with
  | error kind =>
      rw [found] at reads
      rw [Walk.choose_of_error found]
      exact .of_remains state.remains reads.bind
  | ok value =>
      rw [found] at reads
      have same := isTrueIn_congr call.isRegion state.same_region (state.isData_value isBound found)
      have tested : isTrue value start = .ok (value.isTrueIn call.before) start :=
        congrArg (EStateM.Result.ok · start) same
      rw [bind_ok reads, bind_ok tested, Walk.choose_of_ok found]
      cases value.isTrueIn call.before with
      | true => exact simulatesBody values written start state
      | false => exact simulatesOthers values written start state

/-- Objects behind those of the call itself do not matter to it. -/
theorem State.change_behind (state : call.State values written now) {address : Address}
    {step : Object → Object} (behind : call.buffer < address) :
    call.State values written (now.change address step) where
  kept other within := by
    have differs : other ≠ address :=
      Nat.ne_of_lt (Nat.lt_trans (Nat.lt_succ_of_lt within) behind)
    rw [Store.object_change_of_ne differs, state.kept other within]
  larger := Nat.lt_of_lt_of_eq state.larger Store.size_change.symm
  frame := by
    have differs : call.before.objects.size ≠ address :=
      Nat.ne_of_lt (Nat.lt_trans (Nat.lt_succ_self _) behind)
    rw [Store.object_change_of_ne differs]
    exact state.frame
  pieces := by
    rw [Store.object_change_of_ne (Nat.ne_of_lt behind)]
    exact state.pieces
  data := state.data

theorem State.new (state : call.State values written now) {object : Object} :
    call.State values written (now.push object) where
  kept address within := by
    have inside : address < now.objects.size :=
      Nat.lt_trans (Nat.lt_succ_of_lt within) state.larger
    rw [Store.object_push_of_lt inside, state.kept address within]
  larger := Nat.lt_of_lt_of_eq (Nat.lt_succ_of_lt state.larger) Store.size_push.symm
  frame := by
    rw [Store.object_push_of_lt (Nat.lt_trans (Nat.lt_succ_self _) state.larger)]
    exact state.frame
  pieces := by
    rw [Store.object_push_of_lt state.larger]
    exact state.pieces
  data := state.data

/-- A slot of a variable does not matter to the others. -/
theorem HasSlots.insert {slots : List (Name × Value)} (hasSlots : call.HasSlots values slots)
    {target : Variable} {value : Value} :
    call.HasSlots (Function.update values target.name (some value))
      (insertSlot target.name value slots) where
  context := by
    rw [lookup_insertSlot_of_ne (target.ne_of_mem_reservedNames (by decide)).symm,
      hasSlots.context]
  list := by
    rw [lookup_insertSlot_of_ne (target.ne_of_mem_reservedNames (by decide)).symm, hasSlots.list]
  method := by
    rw [lookup_insertSlot_of_ne (target.ne_of_mem_reservedNames (by decide)).symm,
      hasSlots.method]
  lookup_eq shown isBound := by
    by_cases sameName : shown.name = target.name
    · rw [sameName, lookup_insertSlot_self, Function.update_self]
    · rw [lookup_insertSlot_of_ne sameName, Function.update_of_ne sameName,
        hasSlots.lookup_eq shown isBound]

/-- A variable of the call gets a value. -/
theorem State.bind (state : call.State values written now) {target : Variable} {value : Value}
    (data : IsData call.region value) :
    call.State (Function.update values target.name (some value)) written
      (now.change call.before.objects.size (inserted target.name value)) := by
  obtain ⟨slots, holds, hasSlots⟩ := state.frame
  have inside : call.before.objects.size < now.objects.size :=
    Nat.lt_trans (Nat.lt_succ_self _) state.larger
  constructor
  case kept =>
    intro address within
    rw [Store.object_change_of_ne (Nat.ne_of_lt within), state.kept address within]
  case larger => exact Nat.lt_of_lt_of_eq state.larger Store.size_change.symm
  case frame =>
    refine ⟨insertSlot target.name value slots, ?_, ?_⟩
    · rw [Store.object_change_self inside, holds, inserted]
    · exact hasSlots.insert
  case pieces =>
    have differs : call.buffer ≠ call.before.objects.size := Nat.succ_ne_self _
    rw [Store.object_change_of_ne differs]
    exact state.pieces
  case data =>
    intro shown isBound other found
    by_cases sameName : shown.name = target.name
    · rw [sameName, Function.update_self] at found
      exact Option.some.inj found ▸ data
    · rw [Function.update_of_ne sameName] at found
      exact state.data shown isBound other found

/-- Changes of what a store does not have yet are further steps from it. -/
theorem Advances.change (advances : call.Advances start now) {address : Address}
    {step : Object → Object} (later : address ≤ call.buffer ∨ start.objects.size ≤ address) :
    call.Advances start (now.change address step) where
  size_le := Nat.le_trans advances.size_le (Nat.le_of_eq Store.size_change.symm)
  object_eq other behind within := by
    have differs : other ≠ address := by
      rcases later with before | after
      · exact Nat.ne_of_gt (Nat.lt_of_le_of_lt before behind)
      · exact Nat.ne_of_lt (Nat.lt_of_lt_of_le within after)
    rw [Store.object_change_of_ne differs, advances.object_eq other behind within]

theorem advances_push {object : Object} : call.Advances start (start.push object) where
  size_le := Nat.le_of_lt (Nat.lt_of_lt_of_eq (Nat.lt_succ_self _) Store.size_push.symm)
  object_eq _ _ within := Store.object_push_of_lt within

/-- The next round of a loop, if there is one. -/
def advance (call : RenderCall) (target : Variable) (iterator : Address) : Action Bool := do
  match ← draw call.engine (.ref iterator) with
  | none => return false
  | some value => do
      assignTarget call.engine call.scene (.name target.name) value
      return true

/-- The rounds of a loop are simulated by a walk for each of the values that the iterator hands
out. -/
theorem follows_rounds {target : Variable} (isOwn : target.name ∈ call.own) {body : List Stmt}
    {walk : Walk} (simulatesBody : call.Simulates (runBlock call.engine call.scene body) walk)
    {base : Store} {iterator : Address} (later : base.objects.size ≤ iterator)
    (behind : call.buffer < iterator) {elements : List Value}
    (areData : ∀ element ∈ elements, IsData call.region element) {rounds : Nat}
    (enough : elements.length < rounds) {kind : Kind} {cursor : Cursor}
    (yields : cursor.Yields call.before elements)
    (state : call.State values written now) (advances : call.Advances base now)
    (holds : now.object iterator = .cursor kind cursor) (within : iterator < now.objects.size) :
    call.Follows (Walk.rounds target walk elements values) written base (none : Option Flow)
      (runRounds (call.advance target iterator) (runBlock call.engine call.scene body) rounds
        now) := by
  -- The cursor yields values of the store before the call, whatever the rounds have changed since.
  induction elements generalizing rounds cursor values written now with
  | nil =>
      obtain ⟨rounds, rfl⟩ := Nat.exists_eq_succ_of_ne_zero (Nat.ne_of_gt enough)
      have drawn : draw call.engine (.ref iterator) now =
          .ok none (now.change iterator (movedTo .finished)) :=
        (draw_cursor holds).trans (yields.draw_nil state.kept rfl)
      have advanced : call.advance target iterator now =
          .ok false (now.change iterator (movedTo .finished)) := bind_ok drawn
      refine ⟨now.change iterator (movedTo .finished), ?_, ?_, advances.change (.inr later)⟩
      · rw [runRounds, bind_ok advanced]
        rfl
      · rw [List.append_nil]
        exact state.change_behind behind
  | cons element elements ih =>
      obtain ⟨rounds, rfl⟩ := Nat.exists_eq_succ_of_ne_zero (Nat.ne_of_gt (Nat.zero_lt_of_lt enough))
      obtain ⟨next, yieldsNext, moved⟩ := yields.draw_cons state.kept rfl
      have drawn : draw call.engine (.ref iterator) now =
          .ok (some element) (now.change iterator (movedTo next)) := (draw_cursor holds).trans moved
      have stateMoved : call.State values written (now.change iterator (movedTo next)) :=
        state.change_behind behind
      have stateBound : call.State (Function.update values target.name (some element)) written
          ((now.change iterator (movedTo next)).change call.before.objects.size
            (inserted target.name element)) :=
        stateMoved.bind (areData element List.mem_cons_self)
      let between := (now.change iterator (movedTo next)).change call.before.objects.size
        (inserted target.name element)
      have advanced : call.advance target iterator now = .ok true between := by
        rw [advance, bind_ok drawn]
        exact bind_ok (bindName_running (home_own isOwn))
      have withinBetween : iterator < between.objects.size :=
        Nat.lt_of_lt_of_eq within (Store.size_change.trans Store.size_change).symm
      have holdsBetween : between.object iterator = .cursor kind next := by
        have differs : iterator ≠ call.before.objects.size :=
          Nat.ne_of_gt (Nat.lt_trans (Nat.lt_succ_self _) behind)
        rw [Store.object_change_of_ne differs, Store.object_change_self within, holds]
        rfl
      have advancesBetween : call.Advances base between :=
        (advances.change (.inr later)).change (.inl (Nat.le_succ _))
      have follows : call.Follows (Walk.binding target element walk values) written between .next
          (runBlock call.engine call.scene body between) := simulatesBody _ _ between stateBound
      rw [runRounds, bind_ok advanced, Walk.rounds]
      simp only [↓reduceIte]
      cases ended : Walk.binding target element walk values with
      | error kind =>
          rw [ended] at follows
          rw [Walk.andThen_of_error ended]
          exact follows.bind
      | ok above =>
          obtain ⟨content, valuesAfter⟩ := above
          rw [ended] at follows
          obtain ⟨after, ran, stateAfter, advancesBody⟩ := follows
          -- The body does not move the cursor: it comes behind what the call itself changes.
          have holdsAfter : after.object iterator = .cursor kind next :=
            (advancesBody.object_eq iterator behind withinBetween).trans holdsBetween
          have followsRest := ih (fun other member => areData other (List.mem_cons_of_mem _ member))
            (Nat.lt_of_succ_lt_succ enough) yieldsNext stateAfter
            (advancesBetween.trans advancesBody) holdsAfter
            (Nat.lt_of_lt_of_le withinBetween advancesBody.size_le)
          rw [bind_ok ran, Walk.andThen_of_ok ended]
          cases endedRest : Walk.rounds target walk elements valuesAfter with
          | error kind =>
              rw [endedRest] at followsRest
              exact followsRest
          | ok below =>
              obtain ⟨others, valuesLast⟩ := below
              rw [endedRest] at followsRest
              obtain ⟨last, ranRest, stateLast, advancesLast⟩ := followsRest
              refine ⟨last, ranRest, ?_, advancesLast⟩
              rwa [← List.append_assoc]

/-- A loop over the elements of a variable's value. -/
theorem simulates_loop {target source : Variable} (isOwn : target.name ∈ call.own)
    (isBound : source ∈ call.bound) {body : List Stmt} {walk : Walk}
    (simulatesBody : call.Simulates (runBlock call.engine call.scene body) walk) :
    call.Simulates (runStatement call.engine call.scene
      (.forLoop false (.name target.name) (.name source.name) body []))
      (.each call.before target source walk) := by
  intro values written start state
  have reads := state.evaluate_variable isBound
  rw [runStatement, if_neg Bool.false_ne_true]
  dsimp only
  cases found : values.value source with
  | error kind =>
      rw [found] at reads
      have raises : RaisesAfter start kind (evaluate call.engine call.scene (.name source.name) start) :=
        reads
      rw [Walk.each_of_error found]
      exact .of_remains state.remains raises.bind
  | ok value =>
      rw [found] at reads
      have data := state.isData_value isBound found
      rw [bind_ok reads]
      cases elementsFound : value.elementsIn? call.before with
      | none =>
          have raises : RaisesAfter start .typeError (iterate value start) :=
            raises_iterate call.isRegion data elementsFound
          rw [Walk.each_of_none found elementsFound]
          exact .of_remains state.remains raises.bind
      | some elements =>
          have larger : call.before.objects.size ≤ start.objects.size :=
            Nat.le_of_lt (Nat.lt_trans (Nat.lt_succ_self _) state.larger)
          obtain ⟨kind, cursor, yields, iterated, enough⟩ :=
            iterate_elements call.isRegion state.kept larger data elementsFound
          have holds : (start.push (.cursor kind cursor)).object start.objects.size =
              .cursor kind cursor := Store.object_push_size
          have follows := follows_rounds isOwn simulatesBody (Nat.le_refl _) state.larger
            (fun element member => data.of_mem_elements call.isRegion elementsFound member)
            (lt_roundLimit_add enough) yields state.new
            advances_push holds (Nat.lt_of_lt_of_eq (Nat.lt_succ_self _) Store.size_push.symm)
          rw [bind_ok iterated, bind_ok (roundsOf_cursor holds),
            Walk.each_of_some found elementsFound]
          cases ended : Walk.rounds target walk elements values with
          | error kind =>
              rw [ended] at follows
              exact follows.bind
          | ok walked =>
              rw [ended] at follows
              obtain ⟨after, ran, kept⟩ := follows
              exact ⟨after, bind_ok ran, kept⟩

/-- The variables that a tree reads are taken from the context, and its names live in the
call. -/
def Knows (call : RenderCall) (mentions : List Mention) : Prop :=
  (∀ shown : Variable, .read shown.name ∈ mentions → shown ∈ call.bound) ∧
    ∀ shown : Variable, .bind shown.name ∈ mentions → shown.name ∈ call.own

theorem Knows.mono {fewer more : List Mention} (knows : call.Knows more) (within : fewer ⊆ more) :
    call.Knows fewer :=
  ⟨fun shown member => knows.1 shown (within member),
    fun shown member => knows.2 shown (within member)⟩

mutual

/-- **The statements of a tree do what the walk along the tree does.** -/
theorem simulates_tree : ∀ tree : BlockTree, call.Knows tree.mentions →
    call.Simulates (runBlock call.engine call.scene tree.statements) (tree.walk call.before)
  | .done, _ => simulates_nothing
  | .literal content rest, knows =>
      simulates_cons (simulates_literal content)
        (simulates_tree rest (knows.mono (List.subset_cons_self _ _)))
  | .output shown rest, knows => by
      have isBound : shown ∈ call.bound :=
        knows.1 shown (List.mem_cons_of_mem _ (List.mem_cons_of_mem _ List.mem_cons_self))
      have inRest : rest.mentions ⊆ (BlockTree.output shown rest).mentions := fun _ member =>
        List.mem_cons_of_mem _ (List.mem_cons_of_mem _ (List.mem_cons_of_mem _ member))
      exact simulates_cons (simulates_output isBound) (simulates_tree rest (knows.mono inRest))
  | .loop target source body rest, knows => by
      have isOwn : target.name ∈ call.own := knows.2 target List.mem_cons_self
      have isBound : source ∈ call.bound :=
        knows.1 source (List.mem_cons_of_mem _ List.mem_cons_self)
      have inBody : body.mentions ⊆ (BlockTree.loop target source body rest).mentions :=
        fun _ member => List.mem_cons_of_mem _ (List.mem_cons_of_mem _
          (List.mem_append_left _ member))
      have inRest : rest.mentions ⊆ (BlockTree.loop target source body rest).mentions :=
        fun _ member => List.mem_cons_of_mem _ (List.mem_cons_of_mem _
          (List.mem_append_right _ member))
      exact simulates_cons (simulates_loop isOwn isBound
        (simulates_pass (simulates_tree body (knows.mono inBody))))
        (simulates_tree rest (knows.mono inRest))
  | .choice test body others rest, knows => by
      have isBound : test ∈ call.bound := knows.1 test List.mem_cons_self
      have inBody : body.mentions ⊆ (BlockTree.choice test body others rest).mentions :=
        fun _ member => List.mem_cons_of_mem _ (List.mem_append_left _ member)
      have inOthers : others.mentions ⊆ (BlockTree.choice test body others rest).mentions :=
        fun _ member => List.mem_cons_of_mem _ (List.mem_append_right _
          (List.mem_append_left _ member))
      have inRest : rest.mentions ⊆ (BlockTree.choice test body others rest).mentions :=
        fun _ member => List.mem_cons_of_mem _ (List.mem_append_right _
          (List.mem_append_right _ member))
      exact simulates_cons (simulates_choice isBound
        (simulates_pass (simulates_tree body (knows.mono inBody)))
        (simulates_branches others (knows.mono inOthers)))
        (simulates_tree rest (knows.mono inRest))

theorem simulates_branches : ∀ others : Branches, call.Knows others.mentions →
    call.Simulates (runBlock call.engine call.scene others.statements)
      (others.walk call.before)
  | .none, _ => simulates_nothing
  | .otherwise body, knows => simulates_pass (simulates_tree body knows)
  | .test test body others, knows => by
      have isBound : test ∈ call.bound := knows.1 test List.mem_cons_self
      have inBody : body.mentions ⊆ (Branches.test test body others).mentions :=
        fun _ member => List.mem_cons_of_mem _ (List.mem_append_left _ member)
      have inOthers : others.mentions ⊆ (Branches.test test body others).mentions :=
        fun _ member => List.mem_cons_of_mem _ (List.mem_append_right _ member)
      have whole : call.Simulates (runBlock call.engine call.scene
          (Branches.test test body others).statements)
          ((Branches.test test body others).walk call.before |>.andThen .nothing) :=
        simulates_cons (simulates_choice isBound
          (simulates_pass (simulates_tree body (knows.mono inBody)))
          (simulates_branches others (knows.mono inOthers))) simulates_nothing
      rwa [Walk.andThen_nothing] at whole

end

end RenderCall

end Stencil
