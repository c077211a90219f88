import Stencil.Proofs.Run.Mapping
import Stencil.Proofs.Run.Writing
import Stencil.Proofs.Source.BindingLines
import Stencil.Template.Rendering

/-! # Making and entering a render function

A program that is the definition of a render function runs nothing but this definition: whatever the
body of the function is, the store gets a frame for the names of the program and the function, and
the function is what the program is made for (`Stencil.renderFunction_renderDefinition`).

A call of the function begins with the lines of its context. Whatever stands behind them runs in a
store in which each of their names has the value that the context has for it, or else the one that it
has publicly, and no value if there is neither (`Stencil.EntersBody.runBlock_entry`).
-/

namespace Stencil

open Script Run

/-- The scope of a render function with a body. -/
def renderScope (body : List Stmt) : Scope :=
  Scope.ofFunction false [.mk .ordinary (text "ctx") none none] body

/-- The render function with a body, in a program whose names lie in a frame. -/
def renderFunctionOf (body : List Stmt) (globals : Address) : Function where
  path := text "render"
  parameters := [⟨.ordinary, text "ctx", none⟩]
  body := .block body
  own := (renderScope body).ownNames
  declared := (renderScope body).globalNames
  isGenerator := (renderScope body).isGenerator
  isAsync := false
  scene := ⟨[], globals, [], none⟩

/-- A store with the names of a program and its render function as further objects. -/
def Run.Store.withRender (store : Store) (body : List Stmt) : Store :=
  (store.push (.frame (programNames ++
    [(text "render", .ref (store.objects.size + 1))]))).push
      (.function (renderFunctionOf body store.objects.size))

variable {body : List Stmt} {store : Store}

namespace Run.Store

theorem object_withRender_frame : (store.withRender body).object store.objects.size =
    .frame (programNames ++ [(text "render", .ref (store.objects.size + 1))]) :=
  (object_push_of_lt size_lt_push).trans object_push_size

theorem object_withRender_function : (store.withRender body).object (store.objects.size + 1) =
    .function (renderFunctionOf body store.objects.size) :=
  (congrArg (object _) size_push.symm).trans object_push_size

theorem size_withRender : (store.withRender body).objects.size = store.objects.size + 2 := by
  rw [withRender, size_push, size_push]

/-- A store that keeps what a program has made has its names and its render function. -/
theorem Keeps.withRender {present : Store} (keeps : store.Keeps (store.withRender body) present) :
    store.objects.size < present.objects.size ∧
    present.object store.objects.size =
      .frame (programNames ++ [(text "render", .ref (store.objects.size + 1))]) ∧
    present.object (store.objects.size + 1) =
      .function (renderFunctionOf body store.objects.size) := by
  have size := @size_withRender body store
  have within : store.objects.size < (store.withRender body).objects.size := by omega
  have inside : store.objects.size + 1 < (store.withRender body).objects.size := by omega
  exact ⟨Nat.lt_of_lt_of_le within keeps.size_le,
    (keeps.object_eq _ (Nat.le_refl _) within).trans object_withRender_frame,
    (keeps.object_eq _ (Nat.le_succ _) inside).trans object_withRender_function⟩

end Run.Store

/-- **The definition of a render function runs nothing of its body.** -/
theorem renderFunction_renderDefinition : renderFunction [renderDefinition body] store =
    .ok (.ref (store.objects.size + 1)) (store.withRender body) := by
  let scene : Scene := ⟨[], store.objects.size, [], none⟩
  let started := store.push (.frame programNames)
  let parameters : List Parameter := [.mk .ordinary (text "ctx") none none]
  have last : store.objects.size + 1 = started.objects.size := Store.size_push.symm
  have allocated : allocate (.frame programNames) store = .ok store.objects.size started := rfl
  have made : newFunction scene (text "render") [⟨.ordinary, text "ctx", none⟩] (.block body)
      (Scope.ofFunction false parameters body) started = .ok (.ref (store.objects.size + 1))
        (started.push (.function (renderFunctionOf body store.objects.size))) := by
    rw [last]
    rfl
  have defined : runStatement Engine.standard scene (renderDefinition body) started =
      .ok .next (store.withRender body) := by
    have decorators : evaluateItems Engine.standard scene .notIterable [] started =
        .ok [] started := rfl
    have formal : evaluateParameters Engine.standard scene parameters started =
        .ok [⟨.ordinary, text "ctx", none⟩] started := rfl
    rw [renderDefinition, runStatement, bind_ok decorators, bind_ok formal, bind_ok made]
    refine congrArg (EStateM.Result.ok Flow.next) ?_
    exact Store.change_push_push
  have ran : runBlock Engine.standard scene [renderDefinition body] started =
      .ok .next (store.withRender body) := by
    rw [runBlock, bind_ok defined]
    rfl
  have found : readProgramName scene (text "render") (store.withRender body) =
      .ok (.ref (store.objects.size + 1)) (store.withRender body) := by
    rw [readProgramName, bind_ok (valueInFrame_frame Store.object_withRender_frame)]
    rfl
  rw [renderFunction, bind_ok allocated, bind_ok ran]
  exact found

section

variable {function globals : Address} {present : Store} {context : Value}

/-- Where the body of a render function runs. -/
def renderScene (body : List Stmt) (globals frame : Address) : Scene where
  layers := [⟨(renderScope body).ownNames, (renderScope body).globalNames, frame⟩]
  globals := globals
  path := innerPath (text "render")
  collector := none

/-- The store in which the body of a render function begins. -/
def Run.Store.withContext (present : Store) (context : Value) : Store :=
  present.push (.frame [(text "ctx", context)])

/-- A call of a render function runs its body, or makes a generator of it. -/
theorem call_renderFunctionOf
    (holds : present.object function = .function (renderFunctionOf body globals)) :
    Engine.standard.call (.ref function) [context] [] present =
      (if (renderScope body).isGenerator then
        newCursor .generator (.paused (renderScene body globals present.objects.size) (.ok .next)
          [.block body] [])
      else runBody (Engine.ofDepth 1982) (renderScene body globals present.objects.size)
        (.block body)) (present.withContext context) := by
  have loaded : load function present = .ok (.function (renderFunctionOf body globals)) present :=
    congrArg (EStateM.Result.ok · present) holds
  have bound : ParameterList.bind ⟨text "render", [⟨.ordinary, text "ctx", none⟩]⟩
      ⟨[context], []⟩ present = .ok [(text "ctx", context)] present := rfl
  have standard : Engine.standard.call = callValue (Engine.ofDepth 1983) := call_ofDepth 1981
  rw [standard]
  change (load function >>= _) present = _
  rw [bind_ok loaded]
  change callFunction (Engine.ofDepth 1983) (renderFunctionOf body globals) ⟨[context], []⟩
    present = _
  rw [callFunction]
  refine (bind_ok bound).trans ?_
  rw [← body_ofDepth 1982]
  rfl

end

/-- What a name stands for with a context: its value there, or the one that it has publicly. -/
def takenValue? (entries : List (Value × Value)) (name : Name) : Option Value :=
  (lookupKey (.string name) entries).or (publicValue? name)

/-- The slots of a call after a name has been taken from the context: it gets a value if it stands
for one. -/
def takeInto (entries : List (Value × Value)) (slots : List (Name × Value)) (name : Name) :
    List (Name × Value) :=
  match takenValue? entries name with
  | some value => insertSlot name value slots
  | none => slots

section

variable {entries : List (Value × Value)} {slots : List (Name × Value)} {names : List Name}
  {name other : Name}

theorem lookup_takeInto_self : (takeInto entries slots name).lookup name =
    (takenValue? entries name).or (slots.lookup name) := by
  unfold takeInto
  cases takenValue? entries name with
  | none => rfl
  | some value => exact lookup_insertSlot_self

theorem lookup_takeInto_of_ne (differs : other ≠ name) :
    (takeInto entries slots name).lookup other = slots.lookup other := by
  unfold takeInto
  cases takenValue? entries name with
  | none => rfl
  | some value => exact lookup_insertSlot_of_ne differs

/-- Names that are taken from the context have the values that they stand for, and the others keep
theirs. The order in which they are taken does not matter. -/
theorem lookup_foldl_takeInto : (names.foldl (takeInto entries) slots).lookup name =
    if name ∈ names then (takenValue? entries name).or (slots.lookup name)
    else slots.lookup name := by
  induction names generalizing slots with
  | nil => rfl
  | cons first others ih =>
      rw [List.foldl_cons, ih]
      by_cases isFirst : name = first
      · subst isFirst
        rw [if_pos List.mem_cons_self, lookup_takeInto_self, ← Option.or_assoc, Option.or_self]
        exact ite_self _
      · rw [lookup_takeInto_of_ne isFirst]
        exact if_congr (List.mem_cons.trans (or_iff_right isFirst)).symm rfl rfl

/-- A name has a public value if it is a public name. -/
theorem isSome_publicValue? : (publicValue? name).isSome = isPublicName name := by
  have among {known : String} (isKnown : known ∈ publicNames) (same : (name == text known) = true) :
      isPublicName name = true :=
    List.any_eq_true.mpr ⟨known, isKnown, beq_iff_eq.mpr (beq_iff_eq.mp same).symm⟩
  unfold publicValue?
  split
  case isTrue same => exact (among (by decide) same).symm
  split
  case isTrue same => exact (among (by decide) same).symm
  split
  case isTrue same => exact (among (by decide) same).symm
  split
  case isTrue same => exact (among (by decide) same).symm
  split
  case isTrue same => exact (among (by decide) same).symm
  split
  case isFalse noPublic => exact (Bool.eq_false_iff.mpr noPublic).symm
  case isTrue isPublic =>
    rw [isPublic]
    cases Kind.ofName? name <;> rfl

end

/-- The slots of a call before names are taken from its context. -/
def preparedSlots (present : Store) (context : Value) : List (Name × Value) :=
  [(text "ctx", context), (text "_buf", .ref (present.objects.size + 1)),
    (text "_append", .method (.ref (present.objects.size + 1)) (text "append"))]

theorem lookup_preparedSlots {present : Store} {context : Value} {name : Name}
    (plain : name ∉ reservedNames) : (preparedSlots present context).lookup name = none := by
  have differs {other : Name} (reserved : other ∈ reservedNames) : (name == other) = false :=
    beq_false_of_ne fun same => plain (same ▸ reserved)
  simp only [preparedSlots, List.lookup_cons, List.lookup_nil,
    differs (by decide : text "ctx" ∈ reservedNames),
    differs (by decide : text "_buf" ∈ reservedNames),
    differs (by decide : text "_append" ∈ reservedNames)]

/-- The store of a call with its frame and an empty list of what is written. -/
def Run.Store.entered (present : Store) (slots : List (Name × Value)) : Store :=
  (present.push (.frame slots)).push (.list #[])

section

variable {present : Store} {slots : List (Name × Value)}

theorem Run.Store.object_entered_frame :
    (present.entered slots).object present.objects.size = .frame slots :=
  (Store.object_push_of_lt Store.size_lt_push).trans Store.object_push_size

theorem Run.Store.object_entered_list :
    (present.entered slots).object (present.objects.size + 1) = .list #[] :=
  (congrArg (Store.object _) Store.size_push.symm).trans Store.object_push_size

theorem Run.Store.remains_entered : present.Remains (present.entered slots) :=
  Store.remains_push.trans Store.remains_push

end

/-- A scene from which the public names of a store can be read. -/
structure ReadsPublic (scene : Scene) (present : Store) : Prop where
  home : scene.home (text "_builtins") = .program
  globals_lt : scene.globals < present.objects.size
  holds : ∃ slots, present.object scene.globals = .frame slots ∧
    slots.lookup (text "_builtins") = some .publicModule

/-- A call of a render function, in a store as it was before: some names live in the call and are
taken from a context with some entries. Without such names the context may be anything. -/
structure EntersBody (engine : Engine) (scene : Scene) (present : Store) (names : List Name)
    (context : Value) (entries : List (Value × Value)) : Prop where
  calls : ∃ below, engine.call = callValue below
  home : ∀ name ∈ text "ctx" :: text "_buf" :: text "_append" :: names,
    scene.home name = .running present.objects.size
  noContext : text "ctx" ∉ names
  isMapping : names ≠ [] → IsMapping present entries context
  readsPublic : ∀ name ∈ names, isPublicName name = true → ReadsPublic scene present

namespace EntersBody

variable {engine : Engine} {scene : Scene} {present : Store} {names : List Name} {context : Value}
  {entries : List (Value × Value)} {slots : List (Name × Value)} {name : Name} {rest : List Stmt}

/-- A name of the call gets a value. -/
theorem run_assign {assigned : Expr} {value : Value} {before : Store}
    (home : scene.home name = .running present.objects.size)
    (ran : evaluate engine scene assigned before = .ok value (present.entered slots)) :
    runStatement engine scene (.assign [.name name] assigned) before =
      .ok .next (present.entered (insertSlot name value slots)) := by
  have bound : ([Target.name name].forM fun target => assignTarget engine scene target value)
      (present.entered slots) = .ok () (present.entered (insertSlot name value slots)) := by
    refine (bind_ok (bindName_running home)).trans ?_
    exact congrArg (EStateM.Result.ok ()) Store.change_push_push
  rw [runStatement, bind_ok ran, bind_ok bound]
  rfl

variable (enters : EntersBody engine scene present names context entries)
include enters

theorem home_of_mem (member : name ∈ names) : scene.home name = .running present.objects.size :=
  enters.home _ (List.mem_cons_of_mem _ (List.mem_cons_of_mem _ (List.mem_cons_of_mem _ member)))

theorem isMapping_entered (member : name ∈ names) :
    IsMapping (present.entered slots) entries context :=
  (enters.isMapping (List.ne_nil_of_mem member)).of_remains Store.remains_entered

theorem evaluate_context (hasContext : slots.lookup (text "ctx") = some context) :
    evaluate engine scene (.name (text "ctx")) (present.entered slots) =
      .ok context (present.entered slots) :=
  readName_running (enters.home _ List.mem_cons_self) Store.object_entered_frame hasContext

/-- The line of a name that has no public value gives it the value that the context has for it. -/
theorem run_fetchStatement (member : name ∈ names) (noPublic : isPublicName name = false)
    (hasContext : slots.lookup (text "ctx") = some context) :
    runStatement engine scene (fetchStatement name) (present.entered slots) =
      .ok .next (present.entered (takeInto entries slots name)) := by
  have isMapping := @isMapping_entered _ _ _ _ _ _ slots _ enters member
  have constant : evaluate engine scene (.constant (.text name)) (present.entered slots) =
      .ok (.string name) (present.entered slots) := rfl
  have tested : evaluate engine scene
      (.compared (.constant (.text name)) [.within] [.name (text "ctx")]) (present.entered slots) =
        .ok (.bool (lookupKey (.string name) entries).isSome) (present.entered slots) := by
    rw [evaluate, bind_ok constant, evaluateCompared, bind_ok (enters.evaluate_context hasContext)]
    change (isMember engine (.string name) context >>= _) _ = _
    rw [bind_ok isMapping.isMember_eq]
    cases (lookupKey (.string name) entries).isSome <;> rfl
  have noValue : publicValue? name = none := by
    rw [← Option.isNone_iff_eq_none, ← Option.not_isSome, isSome_publicValue?, noPublic]
    rfl
  rw [fetchStatement, runStatement, bind_ok tested, takeInto, takenValue?, noValue, Option.or_none]
  cases found : lookupKey (.string name) entries with
  | none => rfl
  | some value =>
      have element : evaluate engine scene
          (.subscript (.name (text "ctx")) (.constant (.text name))) (present.entered slots) =
            .ok value (present.entered slots) := by
        rw [evaluate, bind_ok (enters.evaluate_context hasContext), bind_ok constant,
          isMapping.elementOf_eq, entryOf, found]
        rfl
      change runBlock engine scene [.assign [.name name]
        (.subscript (.name (text "ctx")) (.constant (.text name)))] _ = _
      rw [runBlock, bind_ok (run_assign (enters.home_of_mem member) element)]
      rfl

/-- The line of a public name gives it the value that the context has for it, or its public one. -/
theorem run_preferStatement (member : name ∈ names) (isPublic : isPublicName name = true)
    (hasContext : slots.lookup (text "ctx") = some context) :
    runStatement engine scene (preferStatement name) (present.entered slots) =
      .ok .next (present.entered (takeInto entries slots name)) := by
  have isMapping := @isMapping_entered _ _ _ _ _ _ slots _ enters member
  obtain ⟨usual, isUsual⟩ := Option.isSome_iff_exists.mp (isSome_publicValue?.trans isPublic)
  obtain ⟨below, calls⟩ := enters.calls
  obtain ⟨home, globals_lt, globals, holds, hasPublic⟩ := enters.readsPublic name member isPublic
  have constant : evaluate engine scene (.constant (.text name)) (present.entered slots) =
      .ok (.string name) (present.entered slots) := rfl
  have method : evaluate engine scene (.attribute (.name (text "ctx")) (text "get"))
      (present.entered slots) = .ok (.method context (text "get")) (present.entered slots) := by
    rw [evaluate, bind_ok (enters.evaluate_context hasContext)]
    exact isMapping.attributeOf_get
  have standard : evaluate engine scene (.attribute (.name (text "_builtins")) name)
      (present.entered slots) = .ok usual (present.entered slots) := by
    have isModule : evaluate engine scene (.name (text "_builtins")) (present.entered slots) =
        .ok .publicModule (present.entered slots) :=
      readName_program home ((Store.remains_entered.object_eq _ globals_lt).trans holds) hasPublic
    have got : (get : Action Store) (present.entered slots) =
        .ok (present.entered slots) (present.entered slots) := rfl
    rw [evaluate, bind_ok isModule]
    unfold attributeOf
    rw [bind_ok got]
    dsimp only [Value.fieldIn?]
    rw [isUsual]
    rfl
  have called : evaluate engine scene (.call (.attribute (.name (text "ctx")) (text "get"))
      [.constant (.text name), .attribute (.name (text "_builtins")) name] [])
        (present.entered slots) =
          .ok ((lookupKey (.string name) entries).getD usual) (present.entered slots) := by
    rw [evaluate_call_pair, bind_ok method, bind_ok constant, bind_ok standard, calls]
    exact isMapping.callValue_get
  rw [preferStatement, run_assign (enters.home_of_mem member) called, takeInto, takenValue?, isUsual]
  cases lookupKey (.string name) entries <;> rfl

/-- **The line of a name** gives it the value that it stands for. -/
theorem run_bindingStatement (member : name ∈ names)
    (hasContext : slots.lookup (text "ctx") = some context) :
    runStatement engine scene (bindingStatement name) (present.entered slots) =
      .ok .next (present.entered (takeInto entries slots name)) := by
  unfold bindingStatement
  split
  case isTrue isPublic => exact enters.run_preferStatement member isPublic hasContext
  case isFalse noPublic =>
    exact enters.run_fetchStatement member (Bool.eq_false_iff.mpr noPublic) hasContext

theorem runBlock_bindings {taken : List Name} (within : taken ⊆ names)
    (hasContext : slots.lookup (text "ctx") = some context) :
    runBlock engine scene (taken.map bindingStatement ++ rest) (present.entered slots) =
      runBlock engine scene rest (present.entered (taken.foldl (takeInto entries) slots)) := by
  induction taken generalizing slots with
  | nil => rfl
  | cons first others ih =>
      obtain ⟨member, within⟩ := List.cons_subset.mp within
      rw [List.map_cons, List.cons_append, runBlock,
        bind_ok (enters.run_bindingStatement member hasContext)]
      refine ih within ((lookup_takeInto_of_ne ?_).trans hasContext)
      rintro rfl
      exact enters.noContext member

/-- **What stands behind the lines of the context runs with the values that their names stand
for.** -/
theorem runBlock_entry :
    runBlock engine scene (bufferStatement :: appendStatement ::
        (names.map bindingStatement ++ rest)) (present.withContext context) =
      runBlock engine scene rest
        (present.entered (names.foldl (takeInto entries) (preparedSlots present context))) := by
  have homes := enters.home
  simp only [List.forall_mem_cons] at homes
  obtain ⟨-, homeList, homeMethod, -⟩ := homes
  let slots : List (Name × Value) := [(text "ctx", context)]
  let buffered := present.entered (insertSlot (text "_buf") (.ref (present.objects.size + 1)) slots)
  have list : evaluate engine scene (.list []) (present.withContext context) =
      .ok (.ref (present.objects.size + 1)) (present.entered slots) := by
    have made : newList #[] (present.withContext context) =
        .ok (.ref (present.withContext context).objects.size) (present.entered slots) := rfl
    rw [evaluate]
    exact made.trans (by rw [Run.Store.withContext, Store.size_push])
  have method : evaluate engine scene (.attribute (.name (text "_buf")) (text "append")) buffered =
      .ok (.method (.ref (present.objects.size + 1)) (text "append")) buffered := by
    have list : evaluate engine scene (.name (text "_buf")) buffered =
        .ok (.ref (present.objects.size + 1)) buffered :=
      readName_running homeList Store.object_entered_frame lookup_insertSlot_self
    rw [evaluate, bind_ok list]
    exact attributeOf_append Store.object_entered_list
  rw [runBlock, bufferStatement, bind_ok (run_assign homeList list)]
  dsimp only
  rw [runBlock, appendStatement, bind_ok (run_assign homeMethod method)]
  exact enters.runBlock_bindings (List.Subset.refl _) rfl

end EntersBody

end Stencil
