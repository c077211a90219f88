import Stencil.Proofs.Reach.Action

/-! # Iteration outside a fence

An engine spares what lies behind a fence when its operations do (`Stencil.Run.Engine.Spares`), and
then so does every iteration: a cursor outside hands out values outside, whatever it walks along or
runs for them.
-/

namespace Stencil.Run

open Script

/-- The operations of an engine keep a fence when they get what is outside. -/
structure Engine.Spares (engine : Engine) (fence : Fence) : Prop where
  call : ∀ {callee positional named}, callee.IsOutside fence → AreOutside fence positional →
    NamedOutside fence named →
    Run.Spares fence (Value.IsOutside fence) (engine.call callee positional named)
  draw : ∀ {iterator}, iterator.IsOutside fence →
    Run.Spares fence (MaybeOutside fence) (engine.draw iterator)
  expression : ∀ {scene expression}, scene.IsOutside fence →
    fence.Admits scene expression.mentions →
    Run.Spares fence (Value.IsOutside fence) (engine.expression scene expression)
  assign : ∀ {scene target value}, scene.IsOutside fence → fence.Admits scene target.mentions →
    value.IsOutside fence → SparesAll fence (engine.assign scene target value)
  body : ∀ {scene body}, scene.IsOutside fence → fence.Admits scene body.mentions →
    Run.Spares fence (Value.IsOutside fence) (engine.body scene body)
  resume : ∀ {address scene departure rest}, fence.IsOpen address → scene.IsOutside fence →
    DepartsOutside fence departure → (∀ remainder ∈ rest, remainder.IsOutside fence scene) →
    Run.Spares fence (MaybeOutside fence) (engine.resume address scene departure rest)

variable {fence : Fence} {store : Store} {address : Address} {value : Value}

theorem maybeOutside_some (outside : value.IsOutside fence) : MaybeOutside fence (some value) :=
  fun _ same => Option.some.inj same ▸ outside

theorem maybeOutside_none : MaybeOutside fence none := fun _ found => nomatch found

theorem areOutside_nil : AreOutside fence [] := fun _ member => nomatch member

theorem namedOutside_nil : NamedOutside fence [] := fun _ member => nomatch member

theorem entriesOutside_nil : EntriesOutside fence [] := fun _ member => nomatch member

theorem areOutside_cons {values : List Value} :
    AreOutside fence (value :: values) ↔ value.IsOutside fence ∧ AreOutside fence values :=
  List.forall_mem_cons

theorem areOutside_append {values others : List Value} :
    AreOutside fence (values ++ others) ↔ AreOutside fence values ∧ AreOutside fence others :=
  List.forall_mem_append

theorem areOutside_singleton : AreOutside fence [value] ↔ value.IsOutside fence :=
  List.forall_mem_singleton

/-- Values that are made of plain parts are outside. -/
theorem areOutside_map {α : Type} {make : α → Value} (items : List α)
    (outside : ∀ item, (make item).IsOutside fence) : AreOutside fence (items.map make) := by
  intro value member
  obtain ⟨item, -, rfl⟩ := List.mem_map.mp member
  exact outside item

theorem maybeOutside_getElem {values : List Value} (outside : AreOutside fence values) (place : Nat) :
    MaybeOutside fence values[place]? :=
  fun _ found => outside _ (List.mem_of_getElem? found)

namespace Fence.Holds

/-- The entries of a dictionary outside are outside. -/
theorem dictionary (fenced : fence.Holds store) (isOpen : fence.IsOpen address) :
    EntriesOutside fence (store.dictionary address).entries := by
  have plain {dict : Address} (isOpen : fence.IsOpen dict) {content : Dictionary}
      (holds : store.object dict = .dict content) : EntriesOutside fence content.entries := by
    have outside := fenced.outside dict isOpen
    rw [holds] at outside
    cases outside with
    | dict outside => exact outside
  rw [Store.dictionary]
  split
  case h_1 content holds => exact plain isOpen holds
  case h_2 dict holds =>
    have outside := fenced.outside address isOpen
    rw [holds] at outside
    cases outside with
    | proxy behind =>
        split
        case h_1 content holds => exact plain behind holds
        case h_2 => exact entriesOutside_nil
  case h_3 => exact entriesOutside_nil

theorem entries (fenced : fence.Holds store) (isOpen : fence.IsOpen address) :
    EntriesOutside fence (store.entries address) := fenced.dictionary isOpen

theorem entriesIn (fenced : fence.Holds store) (outside : value.IsOutside fence)
    {entries : List (Value × Value)} (found : value.entriesIn? store = some entries) :
    EntriesOutside fence entries := by
  cases outside with
  | @ref address isOpen =>
      rw [Value.entriesIn?] at found
      split at found
      · cases found
        exact fenced.entries isOpen
      · cases found
        exact fenced.entries isOpen
      · cases found
  | _ => cases found

theorem membersIn (fenced : fence.Holds store) (outside : value.IsOutside fence)
    {members : List Value} (found : value.membersIn? store = some members) :
    AreOutside fence members := by
  cases outside with
  | @ref address isOpen =>
      have object := fenced.outside address isOpen
      rw [Value.membersIn?] at found
      split at found
      case h_1 members holds =>
        cases found
        rw [holds] at object
        cases object with
        | set outside => exact outside
      case h_2 => cases found
  | _ => cases found

end Fence.Holds

theorem spares_entriesOf (isOpen : fence.IsOpen address) :
    Spares fence (EntriesOutside fence) (entriesOf address) :=
  Spares.get.bind fun _ fenced => .pure (fenced.entries isOpen)

/-- The entry that a dictionary has from a slot on is one of its entries. -/
theorem mem_of_firstFrom {content : Dictionary} {slot here : Nat} {entry : Value × Value}
    (found : content.firstFrom slot = some (here, entry)) : entry ∈ content.entries := by
  have search (slots : List Nat) (entries : List (Value × Value))
      (found : Dictionary.firstFrom.search slot slots entries = some (here, entry)) :
      entry ∈ entries := by
    fun_induction Dictionary.firstFrom.search slot slots entries with
    | case1 =>
        cases found
        exact List.mem_cons_self
    | case2 _ _ _ _ _ ih => exact List.mem_cons_of_mem _ (ih found)
    | case3 => cases found
  exact search _ _ found

/-- The entry that a dictionary has before a slot is one of its entries. -/
theorem mem_of_lastBefore {content : Dictionary} {slot here : Nat} {entry : Value × Value}
    (found : content.lastBefore slot = some (here, entry)) : entry ∈ content.entries := by
  have search (earlier : Option (Nat × Value × Value)) (slots : List Nat)
      (entries : List (Value × Value))
      (found : Dictionary.lastBefore.search slot earlier slots entries = some (here, entry)) :
      entry ∈ entries ∨ earlier = some (here, entry) := by
    fun_induction Dictionary.lastBefore.search slot earlier slots entries with
    | case1 _ _ _ _ _ _ ih =>
        rcases ih found with member | same
        · exact .inl (List.mem_cons_of_mem _ member)
        · cases same
          exact .inl List.mem_cons_self
    | case2 => exact .inr found
    | case3 => exact .inr found
  exact (search none _ _ found).resolve_right nofun

theorem spares_roundsOf {iterator : Value} (outside : iterator.IsOutside fence) :
    SparesAll fence (roundsOf iterator) := by
  cases outside with
  | ref isOpen =>
      refine (spares_load isOpen).bind fun object _ => ?_
      cases object with
      | cursor kind cursor => exact Spares.get.bind fun _ _ => .pure trivial
      | _ => exact .pure trivial
  | _ => exact .pure trivial

theorem spares_iterateView {kind : ViewKind} (isOpen : fence.IsOpen address) :
    Spares fence (Value.IsOutside fence) (iterateView kind address) :=
  (spares_entriesOf isOpen).bind fun _ _ => spares_newCursor (.view isOpen)

theorem isOutside_shown {kind : ViewKind} {entry : Value × Value}
    (outside : entry.1.IsOutside fence ∧ entry.2.IsOutside fence) :
    (kind.shown entry).IsOutside fence := by
  cases kind with
  | keys => exact outside.1
  | values => exact outside.2
  | items => exact .tuple (areOutside_cons.mpr ⟨outside.1, areOutside_singleton.mpr outside.2⟩)

/-- The iterator of a value outside is outside. -/
theorem spares_iterator? (outside : value.IsOutside fence) :
    Spares fence (MaybeOutside fence) (iterator? value) := by
  have made {kind : Kind} {cursor : Cursor} (outside : cursor.IsOutside fence) :
      Spares fence (MaybeOutside fence) (some <$> newCursor kind cursor) :=
    (spares_newCursor outside).map fun _ => maybeOutside_some
  cases outside with
  | string value => exact made (.items (areOutside_map value fun point => .string [point]))
  | bytes value => exact made (.items (areOutside_map value fun byte => .int byte))
  | tuple parts => exact made (.items parts)
  | range start stop step => exact made (.range start step (rangeLength start stop step))
  | view kind isOpen => exact (spares_iterateView isOpen).map fun _ => maybeOutside_some
  | ref isOpen =>
      refine (spares_load isOpen).bind fun object _ => ?_
      cases object with
      | list items => exact made (.list isOpen 0)
      | dict content => exact (spares_iterateView isOpen).map fun _ => maybeOutside_some
      | proxy dict => exact (spares_iterateView isOpen).map fun _ => maybeOutside_some
      | set members => exact made (.set isOpen 0 members.length)
      | cursor kind cursor => exact .pure (maybeOutside_some (.ref isOpen))
      | _ => exact .pure maybeOutside_none
  | _ => exact .pure maybeOutside_none

theorem spares_iterate (outside : value.IsOutside fence) :
    Spares fence (Value.IsOutside fence) (iterate value) := by
  refine (spares_iterator? outside).bind fun found isOutside => ?_
  cases found with
  | none => exact spares_complainOf
  | some iterator => exact .pure (isOutside iterator rfl)

theorem spares_moveTo {cursor : Cursor} (isOpen : fence.IsOpen address)
    (outside : cursor.IsOutside fence) : SparesAll fence (moveTo address cursor) := by
  refine spares_change isOpen fun object isOutside => ?_
  cases object with
  | cursor kind former => exact .cursor kind outside
  | _ => exact isOutside

theorem spares_finish (isOpen : fence.IsOpen address) :
    Spares fence (MaybeOutside fence) (finish address) :=
  (spares_moveTo isOpen .finished).andThen (.pure maybeOutside_none)

/-- A cursor moves on and hands out a value outside. -/
theorem spares_handOut {cursor : Cursor} (isOpen : fence.IsOpen address)
    (cursorOutside : cursor.IsOutside fence) (outside : value.IsOutside fence) :
    Spares fence (MaybeOutside fence) (do
      moveTo address cursor
      return some value) :=
  (spares_moveTo isOpen cursorOutside).andThen (.pure (maybeOutside_some outside))

theorem spares_requireSize {place : ViewWalk → Cursor} {walk : ViewWalk}
    (isOpen : fence.IsOpen address) (dictOpen : fence.IsOpen walk.dict)
    (outside : (place { walk with size := none }).IsOutside fence) :
    Spares fence (fun content => EntriesOutside fence content.entries)
      (walk.requireSize address place) := by
  refine Spares.get.bind fun store fenced => ?_
  refine .ite (fun _ => .pure (fenced.dictionary dictOpen)) fun _ => ?_
  exact (spares_moveTo isOpen outside).andThen spares_complain

theorem spares_walkOn {walk : ViewWalk} (isOpen : fence.IsOpen address)
    (dictOpen : fence.IsOpen walk.dict) :
    Spares fence (MaybeOutside fence) (walk.advance address) := by
  refine (spares_requireSize isOpen dictOpen (.view dictOpen)).bind fun content outside => ?_
  cases found : content.firstFrom walk.slot with
  | none => exact spares_finish isOpen
  | some place =>
      refine .ite (fun _ => (spares_moveTo isOpen .finished).andThen spares_complain) fun _ => ?_
      exact spares_handOut isOpen (.view dictOpen)
        (isOutside_shown (outside place.2 (mem_of_firstFrom found)))

theorem spares_retreat {walk : ViewWalk} (isOpen : fence.IsOpen address)
    (dictOpen : fence.IsOpen walk.dict) :
    Spares fence (MaybeOutside fence) (walk.retreat address) := by
  refine (spares_requireSize isOpen dictOpen (.viewBackwards dictOpen)).bind fun content outside => ?_
  cases found : content.lastBefore walk.slot with
  | none => exact spares_finish isOpen
  | some place =>
      exact spares_handOut isOpen (.viewBackwards dictOpen)
        (isOutside_shown (outside place.2 (mem_of_lastBefore found)))

theorem spares_drawItem {rest : List Value} (isOpen : fence.IsOpen address)
    (outside : AreOutside fence rest) :
    Spares fence (MaybeOutside fence) (drawItem address rest) := by
  cases rest with
  | nil => exact spares_finish isOpen
  | cons first rest =>
      obtain ⟨first, rest⟩ := areOutside_cons.mp outside
      exact spares_handOut isOpen (.items rest) first

section

variable {engine : Engine} {scene : Scene}

theorem spares_allHold (sound : engine.Spares fence) (outside : scene.IsOutside fence)
    {tests : List Expr} (admits : fence.Admits scene (exprsMentions tests)) :
    SparesAll fence (allHold engine scene tests) := by
  induction tests with
  | nil => exact .pure trivial
  | cons first rest ih =>
      obtain ⟨first, rest⟩ := Fence.admits_append.mp admits
      refine (sound.expression outside first).bind fun value _ => ?_
      exact spares_isTrue.bind fun _ _ => .ite (fun _ => ih rest) fun _ => .pure trivial

theorem spares_yielded (sound : engine.Spares fence) (outside : scene.IsOutside fence)
    {yielded : Yielded} (admits : fence.Admits scene yielded.mentions) :
    Spares fence (Value.IsOutside fence) (yielded.evaluate engine scene) := by
  cases yielded with
  | element value => exact sound.expression outside admits
  | pair key value =>
      obtain ⟨keyAdmits, valueAdmits⟩ := Fence.admits_append.mp admits
      refine (sound.expression outside keyAdmits).bind fun key keyOutside => ?_
      refine (sound.expression outside valueAdmits).bind fun value valueOutside => ?_
      exact .pure (.tuple (areOutside_cons.mpr ⟨keyOutside, areOutside_singleton.mpr valueOutside⟩))

/-- The next value of a comprehension outside is outside. -/
theorem spares_pipeline (sound : engine.Spares fence) (isOpen : fence.IsOpen address) (rounds : Nat)
    {state : Pipeline} (outside : state.IsOutside fence) :
    Spares fence (MaybeOutside fence) (state.advance engine address rounds) := by
  induction rounds generalizing state with
  | zero => exact .throw .unfinished
  | succ rounds ih =>
      rw [Pipeline.advance]
      split
      case h_1 => exact spares_finish isOpen
      case h_2 iterator isAsync target source tests outer entered =>
        have whole := outside.entered
        rw [entered] at whole
        obtain ⟨⟨iteratorOutside, clauseAdmits⟩, outerOutside⟩ := List.forall_mem_cons.mp whole
        obtain ⟨headAdmits, testsAdmit⟩ := Fence.admits_append.mp clauseAdmits
        obtain ⟨targetAdmits, -⟩ := Fence.admits_append.mp headAdmits
        refine (sound.draw iteratorOutside).bind fun found isOutside => ?_
        -- Where an iterator ends, its clause waits again and the clause around it goes on.
        cases found with
        | none =>
            exact ih
              { outside with
                entered := outerOutside
                waiting := List.forall_mem_cons.mpr ⟨clauseAdmits, outside.waiting⟩ }
        | some value =>
            refine (sound.assign outside.scene targetAdmits (isOutside value rfl)).andThen ?_
            refine (spares_allHold sound outside.scene testsAdmit).bind fun holds _ => ?_
            refine .ite (fun _ => ?_) fun _ => ih outside
            split
            case h_1 =>
              refine (spares_moveTo isOpen (.pipeline outside)).andThen ?_
              exact (spares_yielded sound outside.scene outside.yielded).map fun _ => maybeOutside_some
            case h_2 isAsync target source tests waiting isWaiting =>
              have others := outside.waiting
              rw [isWaiting] at others
              obtain ⟨nextAdmits, waitingAdmit⟩ := List.forall_mem_cons.mp others
              obtain ⟨nextHead, -⟩ := Fence.admits_append.mp nextAdmits
              obtain ⟨-, sourceAdmits⟩ := Fence.admits_append.mp nextHead
              refine (sound.expression outside.scene sourceAdmits).bind fun value valueOutside => ?_
              refine (spares_iterate valueOutside).bind fun inner innerOutside => ?_
              exact ih
                { outside with
                  entered := List.forall_mem_cons.mpr ⟨⟨innerOutside, nextAdmits⟩, outside.entered⟩
                  waiting := waitingAdmit }

/-- Drawn values, if there are all of them. -/
abbrev AllDrawnOutside (fence : Fence) (found : Option (List Value)) : Prop :=
  ∀ values, found = some values → AreOutside fence values

theorem allDrawnOutside_cons {found : Option (List Value)} (valueOutside : value.IsOutside fence)
    (outside : AllDrawnOutside fence found) : AllDrawnOutside fence (found.map (value :: ·)) := by
  intro values isFound
  obtain ⟨rest, rfl, rfl⟩ := Option.map_eq_some_iff.mp isFound
  exact areOutside_cons.mpr ⟨valueOutside, outside rest rfl⟩

theorem spares_drawAll (sound : engine.Spares fence) {sources : List Value}
    (outside : AreOutside fence sources) :
    Spares fence (AllDrawnOutside fence) (drawAll engine sources) := by
  induction sources with
  | nil => exact .pure fun _ found => Option.some.inj found ▸ areOutside_nil
  | cons first rest ih =>
      obtain ⟨firstOutside, restOutside⟩ := areOutside_cons.mp outside
      refine (sound.draw firstOutside).bind fun found isOutside => ?_
      cases found with
      | none => exact .pure nofun
      | some value =>
          exact (ih restOutside).bind fun _ drawn =>
            .pure (allDrawnOutside_cons (isOutside value rfl) drawn)

theorem spares_requireEnded (sound : engine.Spares fence) {sources : List Value}
    (outside : AreOutside fence sources) (place : Nat) :
    SparesAll fence (requireEnded engine place sources) := by
  induction sources generalizing place with
  | nil => exact .pure trivial
  | cons first rest ih =>
      obtain ⟨firstOutside, restOutside⟩ := areOutside_cons.mp outside
      refine (sound.draw firstOutside).bind fun found _ => ?_
      cases found with
      | some value => exact spares_complain
      | none => exact ih restOutside (place + 1)

theorem spares_drawTogether (sound : engine.Spares fence) {sources : List Value}
    (outside : AreOutside fence sources) (place : Nat) :
    Spares fence (AllDrawnOutside fence) (drawTogether engine place sources) := by
  induction sources generalizing place with
  | nil => exact .pure fun _ found => Option.some.inj found ▸ areOutside_nil
  | cons first rest ih =>
      obtain ⟨firstOutside, restOutside⟩ := areOutside_cons.mp outside
      refine (sound.draw firstOutside).bind fun found isOutside => ?_
      cases found with
      | some value =>
          exact (ih restOutside (place + 1)).bind fun _ drawn =>
            .pure (allDrawnOutside_cons (isOutside value rfl) drawn)
      | none =>
          refine .ite (fun _ => spares_complain) fun _ => ?_
          exact (spares_requireEnded sound restOutside 1).andThen (.pure nofun)

theorem spares_drawPassing (sound : engine.Spares fence) {test source : Value}
    (testOutside : test.IsOutside fence) (outside : source.IsOutside fence) (rounds : Nat) :
    Spares fence (MaybeOutside fence) (drawPassing engine test source rounds) := by
  induction rounds with
  | zero => exact .throw .unfinished
  | succ rounds ih =>
      refine (sound.draw outside).bind fun found isOutside => ?_
      cases found with
      | none => exact .pure maybeOutside_none
      | some value =>
          have valueOutside := isOutside value rfl
          have decided (passes : Bool) : Spares fence (MaybeOutside fence)
              (if passes then return some value else drawPassing engine test source rounds) :=
            .ite (fun _ => .pure (maybeOutside_some valueOutside)) fun _ => ih
          refine .ite (fun _ => spares_isTrue.bind fun passes _ => decided passes) fun _ => ?_
          refine (sound.call testOutside (areOutside_singleton.mpr valueOutside) namedOutside_nil).bind
            fun _ _ => ?_
          exact spares_isTrue.bind fun passes _ => decided passes

theorem spares_finishing (isOpen : fence.IsOpen address) {step : Action (Option Value)}
    (spares : Spares fence (MaybeOutside fence) step) :
    Spares fence (MaybeOutside fence) (finishing address step) := by
  refine (spares_attempt spares).bind fun ended isOutside => ?_
  cases ended with
  | ok found => exact .pure isOutside
  | error exception => exact (spares_moveTo isOpen .finished).andThen (.throw (.raised isOutside))

theorem spares_drawListed {items : Array Value} (isOpen : fence.IsOpen address) {index : Nat}
    {cursor : Cursor} (cursorOutside : cursor.IsOutside fence)
    (outside : AreOutside fence items.toList) :
    Spares fence (MaybeOutside fence) (match items[index]? with
      | some item => do
          moveTo address cursor
          return some item
      | none => finish address) := by
  cases found : items[index]? with
  | none => exact spares_finish isOpen
  | some item =>
      refine spares_handOut isOpen cursorOutside (outside item ?_)
      exact Array.mem_def.mp (Array.mem_of_getElem? found)

/-- The next value of a cursor outside is outside. -/
theorem spares_drawCursor (sound : engine.Spares fence) (isOpen : fence.IsOpen address)
    {cursor : Cursor} (outside : cursor.IsOutside fence) :
    Spares fence (MaybeOutside fence) (cursor.draw engine address) := by
  cases outside with
  | finished => exact .pure maybeOutside_none
  | items restOutside => exact spares_drawItem isOpen restOutside
  | list listOpen index =>
      refine (spares_load listOpen).bind fun object objectOutside => ?_
      cases objectOutside with
      | list itemsOutside => exact spares_drawListed isOpen (.list listOpen (index + 1)) itemsOutside
      | _ => exact spares_finish isOpen
  | listBackwards listOpen index =>
      refine (spares_load listOpen).bind fun object objectOutside => ?_
      cases objectOutside with
      | list itemsOutside =>
          cases index with
          | zero => exact spares_finish isOpen
          | succ index =>
              exact spares_drawListed isOpen (.listBackwards listOpen index) itemsOutside
      | _ => exact spares_finish isOpen
  | view dictOpen => exact spares_walkOn isOpen dictOpen
  | viewBackwards dictOpen => exact spares_retreat isOpen dictOpen
  | @set place setOpen index size =>
      refine Spares.get.bind fun store fenced => ?_
      refine .ite (fun _ => spares_complain) fun _ => ?_
      cases found : (((Value.ref place).membersIn? store).getD [])[index]? with
      | none => exact spares_finish isOpen
      | some member =>
          refine spares_handOut isOpen (.set setOpen (index + 1) size) ?_
          cases members : (Value.ref place).membersIn? store with
          | none =>
              rw [members] at found
              cases found
          | some whole =>
              rw [members] at found
              exact fenced.membersIn (.ref setOpen) members member (List.mem_of_getElem? found)
  | range next step count =>
      cases count with
      | zero => exact spares_finish isOpen
      | succ count => exact spares_handOut isOpen (.range (next + step) step count) (.int next)
  | enumerate sourceOutside count =>
      refine (sound.draw sourceOutside).bind fun found isOutside => ?_
      cases found with
      | none => exact spares_finish isOpen
      | some value =>
          refine spares_handOut isOpen (.enumerate sourceOutside (count + 1)) (.tuple ?_)
          exact areOutside_cons.mpr ⟨.int count, areOutside_singleton.mpr (isOutside value rfl)⟩
  | zip sourcesOutside isStrict =>
      have tuples {found : Option (List Value)} (drawn : AllDrawnOutside fence found) :
          MaybeOutside fence (found.map .tuple) := by
        intro value isFound
        obtain ⟨values, rfl, rfl⟩ := Option.map_eq_some_iff.mp isFound
        exact .tuple (drawn values rfl)
      refine .ite (fun _ => .pure maybeOutside_none) fun _ => .ite (fun _ => ?_) fun _ => ?_
      · exact (spares_drawTogether sound sourcesOutside 0).bind fun _ drawn => .pure (tuples drawn)
      · exact (spares_drawAll sound sourcesOutside).bind fun _ drawn => .pure (tuples drawn)
  | map functionOutside sourcesOutside =>
      refine (spares_drawAll sound sourcesOutside).bind fun found drawn => ?_
      cases found with
      | none => exact .pure maybeOutside_none
      | some values =>
          exact (sound.call functionOutside (drawn values rfl) namedOutside_nil).map fun _ => maybeOutside_some
  | filter testOutside sourceOutside =>
      exact spares_drawPassing sound testOutside sourceOutside roundLimit
  | pipeline stateOutside =>
      exact spares_finishing isOpen (spares_pipeline sound isOpen roundLimit stateOutside)
  | @paused scene departure rest ready sceneOutside departs restOutside readyOutside =>
      cases ready with
      | nil => exact sound.resume isOpen sceneOutside departs restOutside
      | cons value ready =>
          obtain ⟨valueOutside, othersOutside⟩ := areOutside_cons.mp readyOutside
          exact spares_handOut isOpen (.paused sceneOutside departs restOutside othersOutside)
            valueOutside
  | running foundOutside => exact spares_complain

/-- What is drawn from an iterator outside is outside. -/
theorem spares_draw (sound : engine.Spares fence) {iterator : Value}
    (outside : iterator.IsOutside fence) :
    Spares fence (MaybeOutside fence) (draw engine iterator) := by
  cases outside with
  | ref isOpen =>
      refine (spares_load isOpen).bind fun object objectOutside => ?_
      cases objectOutside with
      | cursor kind cursorOutside => exact spares_drawCursor sound isOpen cursorOutside
      | _ => exact spares_complainOf
  | _ => exact spares_complainOf

theorem spares_drain (sound : engine.Spares fence) {iterator : Value}
    (outside : iterator.IsOutside fence) (rounds : Nat) {found : Array Value}
    (foundOutside : AreOutside fence found.toList) :
    Spares fence (fun values => AreOutside fence values.toList)
      (drain engine iterator rounds found) := by
  induction rounds generalizing found with
  | zero => exact .throw .unfinished
  | succ rounds ih =>
      refine (spares_draw sound outside).bind fun drawn isOutside => ?_
      cases drawn with
      | none => exact .pure foundOutside
      | some value =>
          refine ih ?_
          rw [Array.toList_push]
          exact areOutside_append.mpr ⟨foundOutside, areOutside_singleton.mpr (isOutside value rfl)⟩

theorem spares_requireRoom {iterator : Value} (outside : iterator.IsOutside fence) :
    SparesAll fence (requireRoom iterator) := by
  cases outside with
  | ref isOpen =>
      refine (spares_load isOpen).bind fun object _ => ?_
      split
      · split
        · exact spares_complain
        · split
          · exact spares_outOfRoom
          · exact .pure trivial
      · exact .pure trivial
  | _ => exact .pure trivial

theorem spares_drainAll (sound : engine.Spares fence) {iterator : Value}
    (outside : iterator.IsOutside fence) :
    Spares fence (fun values => AreOutside fence values.toList) (drainAll engine iterator) :=
  (spares_requireRoom outside).andThen ((spares_roundsOf outside).bind fun rounds _ =>
    spares_drain sound outside rounds areOutside_nil)

theorem spares_collect (sound : engine.Spares fence) (outside : value.IsOutside fence) :
    Spares fence (fun values => AreOutside fence values.toList) (collect engine value) :=
  (spares_iterate outside).bind fun _ iteratorOutside => spares_drainAll sound iteratorOutside

theorem spares_handOver (outside : scene.IsOutside fence) (valueOutside : value.IsOutside fence) :
    SparesAll fence (handOver scene value) := by
  rw [handOver]
  cases collects : scene.collector with
  | none => exact spares_unsupported
  | some address =>
      refine spares_change (outside.collector address collects) fun object isOutside => ?_
      split
      · next kind found =>
          cases isOutside with
          | cursor kind cursorOutside =>
              cases cursorOutside with
              | running foundOutside =>
                  refine .cursor kind (.running ?_)
                  rw [Array.toList_push]
                  exact areOutside_append.mpr ⟨foundOutside, areOutside_singleton.mpr valueOutside⟩
      · exact isOutside

theorem spares_isAmong {values : List Value} : SparesAll fence (isAmong value values) := by
  induction values with
  | nil => exact .pure trivial
  | cons first rest ih =>
      refine .ite (fun _ => .pure trivial) fun _ => ?_
      exact spares_areEqual.bind fun _ _ => .ite (fun _ => .pure trivial) fun _ => ih

theorem spares_isDrawn (sound : engine.Spares fence) {iterator : Value}
    (outside : iterator.IsOutside fence) (rounds : Nat) :
    SparesAll fence (isDrawn engine value iterator rounds) := by
  induction rounds with
  | zero => exact .throw .unfinished
  | succ rounds ih =>
      refine (spares_draw sound outside).bind fun drawn _ => ?_
      cases drawn with
      | none => exact .pure trivial
      | some found =>
          refine .ite (fun _ => .pure trivial) fun _ => ?_
          exact spares_areEqual.bind fun _ _ => .ite (fun _ => .pure trivial) fun _ => ih

theorem spares_isFound (sound : engine.Spares fence) {container : Value}
    (outside : container.IsOutside fence) : SparesAll fence (isFound engine value container) :=
  (spares_iterate outside).bind fun _ iteratorOutside =>
    (spares_roundsOf iteratorOutside).bind fun rounds _ =>
      spares_isDrawn sound iteratorOutside rounds

theorem spares_isMember (sound : engine.Spares fence) {container : Value}
    (outside : container.IsOutside fence) : SparesAll fence (isMember engine value container) := by
  have isKey {address : Address} (isOpen : fence.IsOpen address) : SparesAll fence (do
      requireKey value
      return (lookupKey value (← entriesOf address)).isSome) :=
    spares_requireKey.andThen ((spares_entriesOf isOpen).bind fun _ _ => .pure trivial)
  cases outside with
  | string whole =>
      unfold isMember
      dsimp only
      split
      · exact .pure trivial
      · exact spares_complainOf
  | tuple parts => exact spares_isAmong
  | range start stop step =>
      rw [isMember]
      split
      · exact .pure trivial
      · exact spares_isFound sound (.range start stop step)
  | view kind isOpen =>
      cases kind with
      | keys => exact isKey isOpen
      | values => exact spares_isFound sound (.view .values isOpen)
      | items => exact spares_isFound sound (.view .items isOpen)
  | ref isOpen =>
      refine (spares_load isOpen).bind fun object _ => ?_
      cases object with
      | list items => exact spares_isAmong
      | dict content => exact isKey isOpen
      | proxy dict => exact isKey isOpen
      | set members => exact spares_requireKey.andThen (.pure trivial)
      | cursor kind cursor => exact spares_isFound sound (.ref isOpen)
      | _ => exact spares_complainOf
  | bytes whole =>
      unfold isMember
      dsimp only
      split
      · exact .pure trivial
      · split
        · exact .pure trivial
        · exact spares_kindOf.bind fun _ _ => spares_complain
  | _ => exact spares_complainOf

end

end Stencil.Run
