import Stencil.Proofs.Reach.Fence

/-! # Actions outside a fence

An action spares what lies behind a fence when the fence still holds after it, whether it gives a
result or stops, and what comes out of it is outside (`Stencil.Run.Spares`). Actions that spare it
can be put one behind the other, so a run spares it because its smallest steps do: loading and
changing objects outside, making new ones, and reading and binding names.
-/

namespace Stencil.Run

open Script

/-- A run keeps a fence and ends, with a result of a property or outside. -/
def EndsOutside {α : Type} (fence : Fence) (result : α → Prop) :
    EStateM.Result Stop Store α → Prop
  | .ok found after => result found ∧ fence.Holds after
  | .error stop after => stop.IsOutside fence ∧ fence.Holds after

/-- An action keeps a fence and gives a result with a property, or stops outside. -/
def Spares {α : Type} (fence : Fence) (result : α → Prop) (action : Action α) : Prop :=
  ∀ store, fence.Holds store → EndsOutside fence result (action store)

/-- An action keeps a fence. -/
abbrev SparesAll {α : Type} (fence : Fence) (action : Action α) : Prop :=
  Spares fence (fun _ => True) action

variable {fence : Fence} {α β : Type} {result wanted : α → Prop} {found : β → Prop}
  {action : Action α} {next : α → Action β} {address : Address} {object : Object}

/-- What keeps a fence may follow. -/
theorem EndsOutside.bind {store : Store} (ends : EndsOutside fence result (action store))
    (continues : ∀ value, result value → Spares fence found (next value)) :
    EndsOutside fence found ((action >>= next) store) := by
  cases ran : action store with
  | ok value after =>
      rw [ran] at ends
      rw [bind_ok ran]
      exact continues value ends.1 after ends.2
  | error stop after =>
      rw [ran] at ends
      rw [bind_error ran]
      exact ends

namespace Spares

theorem pure {value : α} (holds : result value) : Spares fence result (pure value) :=
  fun _ fenced => ⟨holds, fenced⟩

theorem throw {stop : Stop} (outside : stop.IsOutside fence) :
    Spares fence result (throw stop : Action α) :=
  fun _ fenced => ⟨outside, fenced⟩

theorem bind (spares : Spares fence result action)
    (continues : ∀ value, result value → Spares fence found (next value)) :
    Spares fence found (action >>= next) :=
  fun store fenced => (spares store fenced).bind continues

theorem mono (spares : Spares fence result action) (weaker : ∀ value, result value → wanted value) :
    Spares fence wanted action := by
  intro store fenced
  have first := spares store fenced
  cases ran : action store with
  | ok value after =>
      rw [ran] at first
      exact ⟨weaker value first.1, first.2⟩
  | error stop after =>
      rw [ran] at first
      exact first

theorem map {step : α → β} (spares : Spares fence result action)
    (holds : ∀ value, result value → found (step value)) :
    Spares fence found (step <$> action) :=
  spares.bind fun value isFound => pure (holds value isFound)

/-- A step that gives nothing of interest is followed by another one. -/
theorem andThen {last : Action β} (spares : Spares fence result action)
    (continues : Spares fence found last) : Spares fence found (action >>= fun _ => last) :=
  spares.bind fun _ _ => continues

theorem ite {condition : Prop} [Decidable condition] {first second : Action α}
    (ifTrue : condition → Spares fence result first) (ifFalse : ¬condition → Spares fence result second) :
    Spares fence result (if condition then first else second) := by
  by_cases holds : condition
  · rw [if_pos holds]
    exact ifTrue holds
  · rw [if_neg holds]
    exact ifFalse holds

/-- The store that an action sees is fenced. -/
theorem get : Spares fence fence.Holds (get : Action Store) := fun _ fenced => ⟨fenced, fenced⟩

end Spares

theorem spares_forM {items : List α} {step : α → Action PUnit}
    (each : ∀ item ∈ items, SparesAll fence (step item)) : SparesAll fence (items.forM step) := by
  induction items with
  | nil => exact .pure trivial
  | cons first rest ih =>
      exact (each first List.mem_cons_self).andThen
        (ih fun item member => each item (List.mem_cons_of_mem first member))

/-- The exceptions of an action are outside. -/
theorem spares_attempt (spares : Spares fence result action) :
    Spares fence (fun ended => match ended with
      | .ok value => result value
      | .error exception => fence.IsOpen exception) (attempt action) := by
  intro store fenced
  have first := spares store fenced
  rw [attempt]
  cases ran : action store with
  | ok value after =>
      rw [ran] at first
      exact first
  | error stop after =>
      rw [ran] at first
      cases stop with
      | raised exception =>
          obtain ⟨outside, fenced⟩ := first
          cases outside with
          | raised isOpen => exact ⟨isOpen, fenced⟩
      | unfinished => exact first
      | unsupported part => exact first

theorem spares_allocate (outside : object.IsOutside fence) :
    Spares fence fence.IsOpen (allocate object) :=
  fun _ fenced => ⟨fenced.isOpen_size, fenced.push outside⟩

theorem spares_load (isOpen : fence.IsOpen address) :
    Spares fence (Object.IsOutside fence) (load address) :=
  fun _ fenced => ⟨fenced.outside address isOpen, fenced⟩

theorem spares_change {step : Object → Object} (isOpen : fence.IsOpen address)
    (outside : ∀ object : Object, object.IsOutside fence → (step object).IsOutside fence) :
    SparesAll fence (change address step) :=
  fun _ fenced => ⟨trivial, fenced.change isOpen outside⟩

theorem spares_save (isOpen : fence.IsOpen address) (outside : object.IsOutside fence) :
    SparesAll fence (save address object) :=
  spares_change isOpen fun _ _ => outside

theorem spares_newList {items : Array Value} (outside : AreOutside fence items.toList) :
    Spares fence (Value.IsOutside fence) (newList items) :=
  (spares_allocate (.list outside)).bind fun _ isOpen => .pure (.ref isOpen)

theorem spares_newDict {entries : List (Value × Value)} (outside : EntriesOutside fence entries) :
    Spares fence (Value.IsOutside fence) (newDict entries) :=
  (spares_allocate (.dict outside)).bind fun _ isOpen => .pure (.ref isOpen)

theorem spares_newCursor {kind : Kind} {cursor : Cursor} (outside : cursor.IsOutside fence) :
    Spares fence (Value.IsOutside fence) (newCursor kind cursor) :=
  (spares_allocate (.cursor kind outside)).bind fun _ isOpen => .pure (.ref isOpen)

theorem spares_raiseWith {kind : ExceptionKind} {arguments : List Value}
    (outside : AreOutside fence arguments) : Spares fence result (raiseWith kind arguments) :=
  (spares_allocate (.exception kind outside)).bind fun _ isOpen => .throw (.raised isOpen)

theorem spares_complain {complaint : Complaint} : Spares fence result (complain complaint) :=
  spares_raiseWith fun _ member => by
    rw [List.mem_singleton.mp member]
    exact .string _

theorem spares_missingKey {key : Value} (outside : key.IsOutside fence) :
    Spares fence result (missingKey key) :=
  spares_raiseWith fun _ member => by
    rw [List.mem_singleton.mp member]
    exact outside

theorem spares_outOfRoom : Spares fence result outOfRoom :=
  spares_raiseWith fun _ member => nomatch member

theorem spares_unsupported {part : String} : Spares fence result (unsupported part) :=
  .throw (.unsupported part)

theorem spares_kindOf {value : Value} : SparesAll fence (kindOf value) :=
  Spares.get.bind fun _ _ => .pure trivial

theorem spares_complainOf {complaint : Kind → Complaint} {value : Value} :
    Spares fence result (complainOf complaint value) :=
  spares_kindOf.bind fun _ _ => spares_complain

theorem spares_settle {settled : Except Complaint α} (holds : ∀ value, settled = .ok value → result value) :
    Spares fence result (settle settled) := by
  cases settled with
  | ok value => exact .pure (holds value rfl)
  | error complaint => exact spares_complain

theorem spares_isTrue {value : Value} : SparesAll fence (isTrue value) :=
  Spares.get.bind fun _ _ => .pure trivial

theorem spares_display {value : Value} : SparesAll fence (display value) :=
  Spares.get.bind fun _ _ => spares_settle fun _ _ => trivial

theorem spares_textOf {value : Value} : SparesAll fence (textOf value) :=
  Spares.get.bind fun _ _ => spares_settle fun _ _ => trivial

theorem spares_areEqual {left right : Value} : SparesAll fence (areEqual left right) :=
  Spares.get.bind fun _ _ => spares_settle fun _ _ => trivial

theorem spares_areOrdered {relation : OrderRelation} {left right : Value} :
    SparesAll fence (areOrdered relation left right) :=
  Spares.get.bind fun _ _ => spares_settle fun _ _ => trivial

theorem spares_requireKey {key : Value} : SparesAll fence (requireKey key) := by
  refine Spares.get.bind fun store _ => ?_
  cases key.unhashableIn store with
  | none => exact .pure trivial
  | some kind => exact spares_complain

variable {scene : Scene} {name : Name} {value : Value}

/-- A name belongs to the program or to one of the layers of its scene. -/
theorem Scene.home_cases (scene : Scene) (name : Name) : scene.home name = .program ∨
    ∃ layer ∈ scene.layers,
      scene.home name = .running layer.frame ∨ scene.home name = .enclosing layer.frame := by
  have around (layers : List Layer) : homeAround name layers = .program ∨
      ∃ layer ∈ layers, homeAround name layers = .enclosing layer.frame := by
    induction layers with
    | nil => exact .inl rfl
    | cons first outer ih =>
        rw [homeAround]
        split
        · exact .inl rfl
        split
        · exact .inr ⟨first, List.mem_cons_self, rfl⟩
        · exact ih.imp id fun ⟨layer, member, isHome⟩ =>
            ⟨layer, List.mem_cons_of_mem first member, isHome⟩
  rw [Scene.home]
  split
  case h_1 => exact .inl rfl
  case h_2 first outer layers =>
    rw [layers]
    split
    · exact .inl rfl
    split
    · exact .inr ⟨first, List.mem_cons_self, .inl rfl⟩
    · exact (around outer).imp id fun ⟨layer, member, isHome⟩ =>
        ⟨layer, List.mem_cons_of_mem first member, .inr isHome⟩

/-- The value of a name is one of the named values. -/
theorem mem_of_lookup {named : List (Name × Value)} (found : named.lookup name = some value) :
    (name, value) ∈ named := by
  obtain ⟨before, behind, rfl, -⟩ := List.lookup_eq_some_iff.mp found
  exact List.mem_append_right before List.mem_cons_self

theorem maybeOutside_lookup {named : List (Name × Value)} (outside : NamedOutside fence named) :
    MaybeOutside fence (named.lookup name) :=
  fun _ found => outside _ (mem_of_lookup found)

theorem isOutside_getD {maybe : Option Value} (outside : MaybeOutside fence maybe)
    (usual : value.IsOutside fence) : (maybe.getD value).IsOutside fence := by
  cases maybe with
  | none => exact usual
  | some inner => exact outside inner rfl

/-- What a name has in a frame. -/
def Object.slot? (object : Object) (name : Name) : Option Value :=
  match object with
  | .frame slots => slots.lookup name
  | _ => none

theorem valueInFrame_eq {frame : Address} {store : Store} :
    valueInFrame frame name store = .ok ((store.object frame).slot? name) store := by
  rw [valueInFrame, bind_ok (show load frame store = .ok (store.object frame) store from rfl)]
  cases store.object frame <;> rfl

/-- The value of a name in a frame is outside if the frame is, and at the gate if the name is not
that of the context. -/
theorem spares_valueInFrame {frame : Address}
    (leads : fence.IsOpen frame ∨ frame = fence.gate ∧ name ≠ contextName) :
    Spares fence (MaybeOutside fence) (valueInFrame frame name) := by
  intro store fenced
  rw [valueInFrame_eq]
  refine ⟨fun value found => ?_, fenced⟩
  cases isFrame : store.object frame with
  | frame slots =>
      rw [isFrame] at found
      rcases leads with isOpen | ⟨rfl, differs⟩
      · have outside := fenced.outside frame isOpen
        rw [isFrame] at outside
        cases outside with
        | frame outside => exact maybeOutside_lookup outside value found
      · exact fenced.gate slots isFrame _ (mem_of_lookup found) differs
  | _ =>
      rw [isFrame] at found
      cases found

/-- Looking for a value in a frame changes nothing. -/
theorem sparesAll_valueInFrame {frame : Address} : SparesAll fence (valueInFrame frame name) := by
  intro store fenced
  rw [valueInFrame_eq]
  exact ⟨trivial, fenced⟩

theorem isOutside_publicValue : MaybeOutside fence (publicValue? name) := by
  intro value found
  rw [publicValue?] at found
  repeat' split at found
  all_goals cases found
  · exact .ellipsis
  · exact .notImplemented
  · exact .nothing
  · exact .bool _
  · exact .bool _
  · exact .ofKind _
  · exact .builtin _

theorem spares_readProgramName (isOpen : fence.IsOpen scene.globals) :
    Spares fence (Value.IsOutside fence) (readProgramName scene name) := by
  refine (spares_valueInFrame (.inl isOpen)).bind fun inner outside => ?_
  cases inner with
  | some value => exact .pure (outside value rfl)
  | none =>
      cases isPublic : publicValue? name with
      | some value => exact .pure (isOutside_publicValue value isPublic)
      | none => exact spares_complain

/-- Reading a name gives a value outside, unless it is the context that is read at the gate. -/
theorem spares_readName (outside : scene.IsOutside fence)
    (admits : fence.Admits scene [.read name]) :
    Spares fence (Value.IsOutside fence) (readName scene name) := by
  -- A layer may be that of the gate, and there the name that is read tells what comes out.
  have leads {layer : Layer} (member : layer ∈ scene.layers) :
      fence.IsOpen layer.frame ∨ layer.frame = fence.gate ∧ name ≠ contextName := by
    by_cases isGate : layer.frame = fence.gate
    · refine .inr ⟨isGate, fun isContext => ?_⟩
      exact admits (List.mem_singleton.mpr (congrArg Mention.read isContext.symm)) layer member isGate
    · exact .inl ⟨outside.frames layer member, isGate⟩
  rw [readName]
  rcases scene.home_cases name with isProgram | ⟨layer, member, isRunning | isEnclosing⟩
  · rw [isProgram]
    exact spares_readProgramName outside.globals
  · rw [isRunning]
    refine (spares_valueInFrame (leads member)).bind fun inner isOutside => ?_
    cases inner with
    | some value => exact .pure (isOutside value rfl)
    | none => exact spares_complain
  · rw [isEnclosing]
    refine (spares_valueInFrame (leads member)).bind fun inner isOutside => ?_
    cases inner with
    | some value => exact .pure (isOutside value rfl)
    | none => exact spares_complain

theorem mem_insertSlot {slots : List (Name × Value)} {slot : Name × Value}
    (member : slot ∈ insertSlot name value slots) : slot = (name, value) ∨ slot ∈ slots := by
  induction slots with
  | nil => exact .inl (List.mem_singleton.mp member)
  | cons first rest ih =>
      rw [insertSlot] at member
      split at member
      · exact (List.mem_cons.mp member).imp id (List.mem_cons_of_mem first)
      · rcases List.mem_cons.mp member with rfl | inRest
        · exact .inr List.mem_cons_self
        · exact (ih inRest).imp id (List.mem_cons_of_mem first)

/-- The frame of a name may be changed where it lies outside and at the gate alike. -/
theorem spares_changeFrame (outside : scene.IsOutside fence) {step : Object → Object}
    (open_ : ∀ object : Object, object.IsOutside fence → (step object).IsOutside fence)
    (gate : ∀ object, GateOutside fence object → GateOutside fence (step object)) :
    SparesAll fence (change (scene.frameOf name) step) := by
  -- The gate does not lie behind the fence itself: names are bound in it like in any other frame.
  have changes {frame : Address} (notEnclosed : ¬fence.encloses frame) :
      SparesAll fence (change frame step) := by
    by_cases isGate : frame = fence.gate
    · exact fun _ fenced => ⟨trivial, isGate ▸ fenced.change_gate gate⟩
    · exact spares_change ⟨notEnclosed, isGate⟩ open_
  rw [Scene.frameOf]
  rcases scene.home_cases name with isProgram | ⟨layer, member, isRunning | isEnclosing⟩
  · rw [isProgram]
    exact spares_change outside.globals open_
  · rw [isRunning]
    exact changes (outside.frames layer member)
  · rw [isEnclosing]
    exact changes (outside.frames layer member)

theorem spares_bindName (outside : scene.IsOutside fence) (valueOutside : value.IsOutside fence) :
    SparesAll fence (bindName scene name value) := by
  refine spares_changeFrame outside ?_ ?_
  · intro object isOutside
    cases object with
    | frame slots =>
        cases isOutside with
        | frame slotsOutside =>
            refine .frame fun slot member => ?_
            rcases mem_insertSlot member with rfl | inSlots
            · exact valueOutside
            · exact slotsOutside slot inSlots
    | _ => exact isOutside
  · intro object isGate
    cases object with
    | frame slots =>
        intro inserted isFrame slot member differs
        cases isFrame
        rcases mem_insertSlot member with rfl | inSlots
        · exact valueOutside
        · exact isGate slots rfl slot inSlots differs
    | _ => exact isGate

theorem spares_clearName (outside : scene.IsOutside fence) :
    SparesAll fence (clearName scene name) := by
  refine spares_changeFrame outside ?_ ?_
  · intro object isOutside
    cases object with
    | frame slots =>
        cases isOutside with
        | frame slotsOutside =>
            exact .frame fun slot member => slotsOutside slot (List.mem_filter.mp member).1
    | _ => exact isOutside
  · intro object isGate
    cases object with
    | frame slots =>
        intro kept isFrame slot member
        cases isFrame
        exact isGate slots rfl slot (List.mem_filter.mp member).1
    | _ => exact isGate

theorem spares_unbindName (outside : scene.IsOutside fence) :
    SparesAll fence (unbindName scene name) := by
  refine sparesAll_valueInFrame.bind fun found _ => ?_
  cases found with
  | some value => exact spares_clearName outside
  | none =>
    dsimp only
    split <;> exact spares_complain

theorem spares_bindNames (outside : scene.IsOutside fence) {named : List (Name × Value)}
    (namedOutside : NamedOutside fence named) : SparesAll fence (bindNames scene named) := by
  induction named with
  | nil => exact .pure trivial
  | cons first rest ih =>
      exact (spares_bindName outside (namedOutside first List.mem_cons_self)).andThen
        (ih fun entry member => namedOutside entry (List.mem_cons_of_mem first member))

end Stencil.Run
