import Mathlib.Logic.Relation
import Stencil.Proofs.Template.KeywordContext

/-! # Sessions of templates

A session makes templates of block trees, changes its environment and renders its templates in any
order. What a template gives is the walk along its tree, with the values that its names have among
the arguments or else had in the environment when the template was made, however long the history of
the session is and however its runs ended (`Stencil.Session.ends_walk`). So two templates of a tree
give the same wherever their histories have led to, if the names that the tree reads have the same
values (`Stencil.Session.same_outcome`), and a template gives what a new one gives, made with the values
that its environment had (`Stencil.Session.same_as_new`).
-/

namespace Stencil

open Script Run RenderProgram

section

variable {region : Address → Prop} {names : Name → Prop} {store now : Store} {shown target : Variable}
  {value : Value} {left right : VariableValues} {first second body : Walk}

/-- Values of variables that are the same data for some names. -/
structure VariableValues.Alike (region : Address → Prop) (names : Name → Prop)
    (left right : VariableValues) : Prop where
  same : ∀ name, names name → left name = right name
  isData : ∀ name, names name → ∀ value, right name = some value → IsData region value

/-- Walks that end alike: they write the same and go on with values that are alike, or end with an
exception of the same kind. -/
inductive EndsAlike (region : Address → Prop) (names : Name → Prop) :
    Except ExceptionKind (Text × VariableValues) →
      Except ExceptionKind (Text × VariableValues) → Prop
  | error (kind : ExceptionKind) : EndsAlike region names (.error kind) (.error kind)
  | ok (content : Text) {left right : VariableValues} (alike : left.Alike region names right) :
      EndsAlike region names (.ok (content, left)) (.ok (content, right))

/-- Walks that end alike from values that are alike. -/
def Walk.Alike (region : Address → Prop) (names : Name → Prop) (first second : Walk) : Prop :=
  ∀ left right : VariableValues, left.Alike region names right →
    EndsAlike region names (first left) (second right)

namespace VariableValues.Alike

theorem value_eq (alike : left.Alike region names right) (isRead : names shown.name) :
    left.value shown = right.value shown := by
  rw [VariableValues.value, VariableValues.value, alike.same _ isRead]

theorem isData_value (alike : left.Alike region names right) (isRead : names shown.name)
    (found : right.value shown = .ok value) : IsData region value := by
  rw [VariableValues.value] at found
  cases bound : right shown.name with
  | none => rw [bound] at found; cases found
  | some other =>
      rw [bound] at found
      cases found
      exact alike.isData _ isRead value bound

theorem update (alike : left.Alike region names right) (isData : IsData region value) :
    VariableValues.Alike region names (Function.update left target.name (some value))
      (Function.update right target.name (some value)) where
  same name isRead := by
    by_cases isTarget : name = target.name
    · rw [isTarget, Function.update_self, Function.update_self]
    · rw [Function.update_of_ne isTarget, Function.update_of_ne isTarget, alike.same _ isRead]
  isData name isRead other found := by
    by_cases isTarget : name = target.name
    · rw [isTarget, Function.update_self] at found
      exact Option.some.inj found ▸ isData
    · rw [Function.update_of_ne isTarget] at found
      exact alike.isData _ isRead other found

end VariableValues.Alike

namespace Walk

theorem alike_write {content : Text} : (write content).Alike region names (write content) :=
  fun _ _ alike => .ok content alike

theorem alike_nothing : nothing.Alike region names nothing := alike_write

theorem Alike.andThen {third fourth : Walk} (upper : first.Alike region names second)
    (lower : third.Alike region names fourth) :
    (first.andThen third).Alike region names (second.andThen fourth) := by
  intro left right alike
  have ends := upper left right alike
  generalize endedFirst : first left = above at ends
  generalize endedSecond : second right = above' at ends
  cases ends with
  | error kind =>
      rw [andThen_of_error endedFirst, andThen_of_error endedSecond]
      exact .error kind
  | @ok content between between' alikeBetween =>
      have endsRest := lower between between' alikeBetween
      rw [andThen_of_ok endedFirst, andThen_of_ok endedSecond]
      generalize third between = below at endsRest
      generalize fourth between' = below' at endsRest
      cases endsRest with
      | error kind => exact .error kind
      | ok others alikeAfter => exact .ok (content ++ others) alikeAfter

theorem Alike.rounds (alikeBody : first.Alike region names second) {elements : List Value}
    (areData : ∀ element ∈ elements, IsData region element) :
    (Walk.rounds target first elements).Alike region names (Walk.rounds target second elements) := by
  induction elements with
  | nil => exact alike_nothing
  | cons element others ih =>
      obtain ⟨isData, areData⟩ := List.forall_mem_cons.mp areData
      have round : (binding target element first).Alike region names
          (binding target element second) := fun _ _ alike => alikeBody _ _ (alike.update isData)
      exact round.andThen (ih areData)

variable (isRegion : store.IsDataRegion region)
  (same : ∀ address, region address → now.object address = store.object address)
include isRegion same

theorem alike_writeValue (isRead : names shown.name) :
    (writeValue now shown).Alike region names (writeValue store shown) := by
  intro left right alike
  rw [writeValue, writeValue, alike.value_eq isRead]
  cases found : right.value shown with
  | error kind => exact .error kind
  | ok value =>
      have written : writtenText now value = writtenText store value := by
        rw [writtenText, writtenText, textIn_congr isRegion same (alike.isData_value isRead found)]
      change EndsAlike region names (writtenText now value >>= fun content => pure (content, left))
        (writtenText store value >>= fun content => pure (content, right))
      rw [written]
      cases writtenText store value with
      | error kind => exact .error kind
      | ok content => exact .ok content alike

theorem Alike.choose {third fourth : Walk} (isRead : names shown.name)
    (whenTrue : first.Alike region names second) (whenFalse : third.Alike region names fourth) :
    (Walk.choose now shown first third).Alike region names
      (Walk.choose store shown second fourth) := by
  intro left right alike
  have read := alike.value_eq isRead
  cases found : right.value shown with
  | error kind =>
      rw [choose_of_error (read.trans found), choose_of_error found]
      exact .error kind
  | ok value =>
      rw [choose_of_ok (read.trans found), choose_of_ok found,
        isTrueIn_congr isRegion same (alike.isData_value isRead found)]
      cases value.isTrueIn store with
      | true => exact whenTrue left right alike
      | false => exact whenFalse left right alike

theorem Alike.each (isRead : names shown.name) (alikeBody : first.Alike region names second) :
    (Walk.each now target shown first).Alike region names
      (Walk.each store target shown second) := by
  intro left right alike
  have read := alike.value_eq isRead
  cases found : right.value shown with
  | error kind =>
      rw [each_of_error (read.trans found), each_of_error found]
      exact .error kind
  | ok value =>
      have isData := alike.isData_value isRead found
      have elements := elementsIn?_congr same isData
      cases elementsFound : value.elementsIn? store with
      | none =>
          rw [each_of_none (read.trans found) (elements.trans elementsFound),
            each_of_none found elementsFound]
          exact .error .typeError
      | some items =>
          rw [each_of_some (read.trans found) (elements.trans elementsFound),
            each_of_some found elementsFound]
          exact alikeBody.rounds (fun _ member => isData.of_mem_elements isRegion elementsFound member)
            left right alike

end Walk

variable (isRegion : store.IsDataRegion region)
  (same : ∀ address, region address → now.object address = store.object address)
include isRegion same

mutual

/-- **Walks along a tree end alike** from values that are the same data for the names that the tree
reads, in stores that have the same objects in the region of the data. -/
theorem BlockTree.alike_walk : ∀ tree : BlockTree,
    (∀ shown : Variable, .read shown.name ∈ tree.mentions → names shown.name) →
      (tree.walk now).Alike region names (tree.walk store)
  | .done, _ => Walk.alike_nothing
  | .literal _ rest, isRead =>
      Walk.alike_write.andThen (rest.alike_walk fun shown member =>
        isRead shown (List.mem_cons_of_mem _ member))
  | .output shown rest, isRead =>
      (Walk.alike_writeValue isRegion same (isRead shown
        (List.mem_cons_of_mem _ (List.mem_cons_of_mem _ List.mem_cons_self)))).andThen
        (rest.alike_walk fun other member => isRead other
          (List.mem_cons_of_mem _ (List.mem_cons_of_mem _ (List.mem_cons_of_mem _ member))))
  | .loop _ source body rest, isRead =>
      (Walk.Alike.each isRegion same (isRead source (List.mem_cons_of_mem _ List.mem_cons_self))
        (body.alike_walk fun other member => isRead other
          (List.mem_cons_of_mem _ (List.mem_cons_of_mem _ (List.mem_append_left _ member))))).andThen
        (rest.alike_walk fun other member => isRead other
          (List.mem_cons_of_mem _ (List.mem_cons_of_mem _ (List.mem_append_right _ member))))
  | .choice test body others rest, isRead =>
      (Walk.Alike.choose isRegion same (isRead test List.mem_cons_self)
        (body.alike_walk fun other member => isRead other
          (List.mem_cons_of_mem _ (List.mem_append_left _ member)))
        (others.alike_walk fun other member => isRead other
          (List.mem_cons_of_mem _ (List.mem_append_right _ (List.mem_append_left _ member))))).andThen
        (rest.alike_walk fun other member => isRead other
          (List.mem_cons_of_mem _ (List.mem_append_right _ (List.mem_append_right _ member))))

theorem Branches.alike_walk : ∀ others : Branches,
    (∀ shown : Variable, .read shown.name ∈ others.mentions → names shown.name) →
      (others.walk now).Alike region names (others.walk store)
  | .none, _ => Walk.alike_nothing
  | .otherwise body, isRead => body.alike_walk isRead
  | .test test body others, isRead =>
      Walk.Alike.choose isRegion same (isRead test List.mem_cons_self)
        (body.alike_walk fun other member => isRead other
          (List.mem_cons_of_mem _ (List.mem_append_left _ member)))
        (others.alike_walk fun other member => isRead other
          (List.mem_cons_of_mem _ (List.mem_append_right _ member)))

end

end

open Run

/-- Objects that are the same in two stores are data in both. -/
theorem Run.Store.IsDataRegion.congr {store now : Store} {region : Address → Prop}
    (isRegion : store.IsDataRegion region)
    (same : ∀ address, region address → now.object address = store.object address) :
    now.IsDataRegion region where
  lt_size address inside := by
    refine Store.lt_size_of_object (same address inside) fun isFrame => ?_
    have isData := isRegion.isData address inside
    rw [isFrame] at isData
    cases isData
  isData address inside := (same address inside).symm ▸ isRegion.isData address inside

/-- The store that a run leaves behind, however it ends. -/
def Run.storeBehind {α : Type} : EStateM.Result Stop Store α → Store
  | .ok _ after => after
  | .error _ after => after

/-- Runs with the same outcome: they give the same text, or they raise exceptions of the same kind. -/
inductive Run.SameOutcome : EStateM.Result Stop Store Value → EStateM.Result Stop Store Value → Prop
  | text (written : Text) (after later : Store) :
      SameOutcome (.ok (.string written) after) (.ok (.string written) later)
  | raises {kind : ExceptionKind} {first second : EStateM.Result Stop Store Value}
      (raisesFirst : Raises kind first) (raisesSecond : Raises kind second) : SameOutcome first second

namespace RenderCall.Ends

variable {before between : Store} {walked other : Except ExceptionKind (Text × VariableValues)}
  {result : EStateM.Result Stop Store Value}

theorem of_remains (remains : before.Remains between) (ends : Ends between walked result) :
    Ends before walked result := by
  cases walked with
  | error kind => exact RaisesAfter.of_remains remains ends
  | ok walked =>
      obtain ⟨after, ran, remainsAfter⟩ := ends
      exact ⟨after, ran, remains.trans remainsAfter⟩

theorem of_alike {region : Address → Prop} {names : Name → Prop}
    (alike : EndsAlike region names walked other) (ends : Ends before walked result) :
    Ends before other result := by
  cases alike with
  | error _ => exact ends
  | ok _ _ => exact ends

theorem remains (ends : Ends before walked result) : before.Remains (storeBehind result) := by
  cases walked with
  | error kind =>
      obtain ⟨exception, arguments, after, rfl, -, remains⟩ := ends
      exact remains
  | ok walked =>
      obtain ⟨after, rfl, remains⟩ := ends
      exact remains

/-- Runs that end like the same walk have the same outcome. -/
theorem sameOutcome {second : EStateM.Result Stop Store Value} (ends : Ends before walked result)
    (endsToo : Ends between walked second) : SameOutcome result second := by
  cases walked with
  | error kind => exact .raises ends.outputs endsToo.outputs
  | ok walked =>
      obtain ⟨after, rfl, -⟩ := ends
      obtain ⟨later, rfl, -⟩ := endsToo
      exact .text walked.1 after later

end RenderCall.Ends

/-- The names of the variables that a tree reads. -/
def BlockTree.Reads (tree : BlockTree) (name : Name) : Prop :=
  ∃ shown : Variable, shown.name = name ∧ .read name ∈ tree.mentions

/-- Arguments with which a template of a tree finds data for the names that the tree reads. -/
structure Template.IsGivenData (template : Template) (tree : BlockTree) (arguments : Arguments)
    (store : Store) (region : Address → Prop) : Prop where
  isRegion : store.IsDataRegion region
  giveNames : arguments.GiveNames store
  isData : ∀ name, tree.Reads name → ∀ value,
    template.givenValue? arguments store name = some value → IsData region value

/-- A template that has been made for a tree, with what belongs to it still in the store. -/
def BlockTree.IsMade (tree : BlockTree) (template : Template) (present : Store) : Prop :=
  ∃ (start : Store) (bound : List Variable),
    (∀ shown : Variable, shown ∈ bound ↔ .read shown.name ∈ tree.mentions) ∧
    template.function = .ref (start.objects.size + 1) ∧
    start.Keeps (start.withRender (RenderProgram.statements bound tree)) present

namespace BlockTree

variable {tree : BlockTree} {template other : Template} {arguments : Arguments} {present : Store}
  {region : Address → Prop}

theorem IsMade.of_remains {after : Store} (isMade : tree.IsMade template present)
    (remains : present.Remains after) : tree.IsMade template after := by
  obtain ⟨start, bound, readsBound, isFunction, keeps⟩ := isMade
  exact ⟨start, bound, readsBound, isFunction, keeps.of_remains remains⟩

/-- What belongs to a template are not data. -/
theorem IsMade.change {address : Address} {edit : Object → Object}
    (isMade : tree.IsMade template present) (isData : (present.object address).IsData region) :
    tree.IsMade template (present.change address edit) := by
  obtain ⟨start, bound, readsBound, isFunction, keeps⟩ := isMade
  obtain ⟨-, isFrame, isRender⟩ := keeps.withRender
  have size := @Store.size_withRender (RenderProgram.statements bound tree) start
  refine ⟨start, bound, readsBound, isFunction, ?_⟩
  constructor
  case size_le => exact Nat.le_trans keeps.size_le (Nat.le_of_eq Store.size_change.symm)
  case object_eq =>
    intro other behind within
    refine (Store.object_change_of_ne ?_).trans (keeps.object_eq other behind within)
    rintro rfl
    rcases (by omega : other = start.objects.size ∨ other = start.objects.size + 1) with rfl | rfl
    · rw [isFrame] at isData
      cases isData
    · rw [isRender] at isData
      cases isData

/-- **A template of a tree gives what the walk along the tree gives** from the values that its names
have among the arguments, and leaves the objects from before as they are. -/
theorem IsMade.ends_walk (isMade : tree.IsMade template present)
    (given : template.IsGivenData tree arguments present region) :
    RenderCall.Ends present (tree.walk present (template.givenValue? arguments present))
      (template.render arguments present) := by
  obtain ⟨start, bound, readsBound, isFunction, keeps⟩ := isMade
  obtain ⟨handed, all, after, remains, isMapping, found, rendered⟩ :=
    @Template.render_eq_function template _ _ given.giveNames
  have same (address : Address) (inside : region address) :
      after.object address = present.object address :=
    remains.object_eq address (given.isRegion.lt_size address inside)
  have values : RenderCall.contextValues all = template.givenValue? arguments present := funext found
  have contextHas : (renderCall bound tree handed (given.isRegion.congr same)
      (keeps.of_remains remains)).ContextHas all :=
    { isMapping := fun _ => isMapping
      data := fun shown isBound value hasValue => given.isData shown.name
        ⟨shown, rfl, (readsBound shown).mp isBound⟩ value (values ▸ hasValue) }
  have ends := call_ends (given.isRegion.congr same) (keeps.of_remains remains)
    (fun shown isRead => (readsBound shown).mpr isRead) contextHas
  rw [rendered, isFunction]
  have alike := @VariableValues.Alike.mk region tree.Reads _ _ (fun name _ => found name) given.isData
  have endsAlike := tree.alike_walk given.isRegion same (fun shown isRead => ⟨shown, rfl, isRead⟩)
    _ _ alike
  exact (ends.of_alike endsAlike).of_remains remains

/-- **Templates of a tree have the same outcome** if the names that the tree reads have the same data. -/
theorem IsMade.sameOutcome {others : Arguments} {now : Store} (isMade : tree.IsMade template now)
    (isMadeToo : tree.IsMade other present)
    (given : other.IsGivenData tree others present region) (giveNames : arguments.GiveNames now)
    (sameData : ∀ address, region address → now.object address = present.object address)
    (sameValues : ∀ name, tree.Reads name →
      template.givenValue? arguments now name = other.givenValue? others present name) :
    SameOutcome (template.render arguments now) (other.render others present) := by
  have ends := isMade.ends_walk ⟨given.isRegion.congr sameData, giveNames,
    fun name isRead value found =>
      given.isData name isRead value ((sameValues name isRead).symm.trans found)⟩
  have alike := @VariableValues.Alike.mk region tree.Reads _ _ sameValues given.isData
  have endsAlike := tree.alike_walk given.isRegion sameData
    (fun shown isRead => ⟨shown, rfl, isRead⟩) _ _ alike
  exact (ends.of_alike endsAlike).sameOutcome (isMadeToo.ends_walk given)

/-- **However the entries of a dictionary are split** between a mapping and named values, the template
has the same outcome as for the dictionary. -/
theorem IsMade.render_split {address : Address} {content : Dictionary}
    (isMade : tree.IsMade template present) (isRegion : present.IsDataRegion region)
    (inside : region address) (holds : present.object address = .dict content)
    (areData : ∀ name value, template.globals.lookup name = some value → IsData region value)
    (giveNames : arguments.GiveNames present) (split : arguments.Split present content) :
    SameOutcome (template.render arguments present) (template.call (.ref address) present) := by
  let whole : Arguments := ⟨[.ref address], []⟩
  have isMapping : IsMapping present content.entries (.ref address) := .dict holds rfl
  have entries : whole.givenEntries present = content.entries := by
    change ((Value.ref address).entriesIn? present).getD [] = _
    rw [isMapping.entriesIn?_eq]
    rfl
  have giveWhole : whole.GiveNames present :=
    { context :=
        { notSelf := rfl
          atMostOne := Nat.le_refl 1
          isMapping := List.forall_mem_singleton.mpr (by rw [isMapping.entriesIn?_eq]; rfl) }
      mapping := List.forall_mem_singleton.mpr (entries ▸ isMapping)
      keys := entries ▸ split.nodup
      names := List.nodup_nil }
  have value (name : Name) : template.givenValue? whole present name =
      (lookupKey (.string name) content.entries).or (template.globals.lookup name) := by
    rw [Template.givenValue?, entries]
    rfl
  have isData (name : Name) (found : Value)
      (has : template.givenValue? whole present name = some found) : IsData region found := by
    rw [value] at has
    rcases Option.or_eq_some_iff.mp has with inContent | ⟨-, inGlobals⟩
    · exact isRegion.isData_lookupKey inside holds inContent
    · exact areData name found inGlobals
  rw [← Template.render_of_mapping giveWhole.context rfl rfl]
  refine isMade.sameOutcome isMade ⟨isRegion, giveWhole, fun name _ => isData name⟩ giveNames
    (fun _ _ => rfl) fun name _ => ?_
  rw [value, Template.givenValue?, ← Option.or_assoc, ← lookupKey_namedEntries, ← lookupKey_append,
    lookupKey_perm split.nodup (List.perm_append_comm.trans split.perm)]

end BlockTree

/-- A session: an environment, the templates of trees that have been made in it, and the store. -/
structure Session where
  environment : Environment
  templates : List (BlockTree × Template)
  store : Store

namespace Session

/-- A template of a tree is made from its text in the environment of a session. -/
inductive Makes (session : Session) (tree : BlockTree) (template : Template) : Session → Prop
  | mk {bound : List Variable} {name : Option Text} {source : Text} {compiled : Compiled}
      {messages : List Text} {made : Store}
      (isCompiled : compile session.environment.markers name source = .ok compiled)
      (isProgram : compiled.program = program bound tree)
      (readsBound : ∀ shown : Variable, shown ∈ bound ↔ .read shown.name ∈ tree.mentions)
      (ran : session.environment.template compiled session.store = .ok (template, messages) made) :
      Makes session tree template
        ⟨session.environment, (tree, template) :: session.templates, made⟩

/-- What happens in a session: a template is made, the environment gets other markers or other values,
an object is made, a list or a dictionary of data is changed, or a template is rendered, with whatever
outcome. -/
inductive Step : Session → Session → Prop
  | make {session next : Session} {tree : BlockTree} {template : Template}
      (makes : session.Makes tree template next) : Step session next
  | configure {session : Session} (environment : Environment) :
      Step session ⟨environment, session.templates, session.store⟩
  | allocate {session : Session} (object : Object) :
      Step session ⟨session.environment, session.templates, session.store.push object⟩
  | change {session : Session} {address : Address} {region : Address → Prop} (edit : Object → Object)
      (isData : (session.store.object address).IsData region) :
      Step session ⟨session.environment, session.templates, session.store.change address edit⟩
  | render {session : Session} {tree : BlockTree} {template : Template} {arguments : Arguments}
      {region : Address → Prop} (member : (tree, template) ∈ session.templates)
      (given : template.IsGivenData tree arguments session.store region) :
      Step session ⟨session.environment, session.templates,
        storeBehind (template.render arguments session.store)⟩

/-- All templates of a session still have what belongs to them. -/
def IsSound (session : Session) : Prop :=
  ∀ tree template, (tree, template) ∈ session.templates → tree.IsMade template session.store

variable {session made next fresh opening : Session} {tree : BlockTree} {template other : Template}
  {arguments others : Arguments} {region : Address → Prop}

/-- A new template keeps the values that the environment has. -/
theorem Makes.isMade (makes : session.Makes tree template next) :
    tree.IsMade template next.store ∧ template.globals = session.environment.globals ∧
      session.store.Remains next.store := by
  obtain ⟨-, isProgram, readsBound, ran⟩ := makes
  obtain ⟨same, messages, ranToo, sameGlobals, -, isFunction⟩ :=
    @template_program _ _ session.environment _ isProgram session.store
  rw [ran] at ranToo
  cases ranToo
  exact ⟨⟨session.store, _, readsBound, isFunction, .refl⟩, sameGlobals,
    Store.remains_push.trans Store.remains_push⟩

theorem Makes.mem_templates (makes : session.Makes tree template next) :
    (tree, template) ∈ next.templates := by
  cases makes
  exact List.mem_cons_self

theorem Makes.isSound (makes : session.Makes tree template next) (sound : session.IsSound) :
    next.IsSound := by
  obtain ⟨isMade, -, remains⟩ := makes.isMade
  cases makes
  intro other otherTemplate member
  rcases List.mem_cons.mp member with isNew | isOld
  · cases isNew
    exact isMade
  · exact (sound other otherTemplate isOld).of_remains remains

/-- Every step keeps what belongs to the templates. -/
theorem Step.isSound (step : Step session next) (sound : session.IsSound) : next.IsSound := by
  cases step with
  | make makes => exact makes.isSound sound
  | configure _ => exact sound
  | allocate _ => exact fun _ _ member => (sound _ _ member).of_remains Store.remains_push
  | change _ isData => exact fun _ _ member => (sound _ _ member).change isData
  | render member given =>
      exact fun _ _ isOld => (sound _ _ isOld).of_remains ((sound _ _ member).ends_walk given).remains

/-- However long a history is, it keeps what belongs to the templates. -/
theorem isSound_of_steps (steps : Relation.ReflTransGen Step session next) (sound : session.IsSound) :
    next.IsSound := by
  induction steps with
  | refl => exact sound
  | tail _ step ih => exact step.isSound ih

theorem Step.templates_subset (step : Step session next) : session.templates ⊆ next.templates := by
  cases step with
  | make makes =>
      cases makes
      exact List.subset_cons_self _ _
  | configure _ => exact List.Subset.refl _
  | allocate _ => exact List.Subset.refl _
  | change _ _ => exact List.Subset.refl _
  | render _ _ => exact List.Subset.refl _

theorem templates_subset_of_steps (steps : Relation.ReflTransGen Step session next) :
    session.templates ⊆ next.templates := by
  induction steps with
  | refl => exact List.Subset.refl _
  | tail _ step ih => exact List.Subset.trans ih step.templates_subset

/-- A session with a history from a beginning without templates. -/
def IsReached (session : Session) : Prop :=
  ∃ opening : Session, opening.templates = [] ∧ Relation.ReflTransGen Step opening session

theorem IsReached.isSound (reached : session.IsReached) : session.IsSound := by
  obtain ⟨opening, isOpening, steps⟩ := reached
  refine isSound_of_steps steps fun tree template member => ?_
  rw [isOpening] at member
  cases member

/-- **After every history a template gives what the walk along its tree gives** from the values that its
names have among the arguments, or else had in the environment when the template was made. -/
theorem ends_walk (reached : session.IsReached) (member : (tree, template) ∈ session.templates)
    (given : template.IsGivenData tree arguments session.store region) :
    RenderCall.Ends session.store
      (tree.walk session.store (template.givenValue? arguments session.store))
      (template.render arguments session.store) :=
  (reached.isSound _ _ member).ends_walk given

/-- **Templates of a tree have the same outcome after different histories**, as long as every name
that the tree reads has the same value without parts that can be changed. Neither the other names nor
what has been rendered before, and with which outcome, make a difference. -/
theorem same_outcome (reached : session.IsReached) (reachedToo : next.IsReached)
    (member : (tree, template) ∈ session.templates) (memberToo : (tree, other) ∈ next.templates)
    (giveNames : arguments.GiveNames session.store) (giveNamesToo : others.GiveNames next.store)
    (sameValues : ∀ name, tree.Reads name →
      template.givenValue? arguments session.store name = other.givenValue? others next.store name)
    (areData : ∀ name, tree.Reads name → ∀ value,
      other.givenValue? others next.store name = some value → IsData (fun _ => False) value) :
    SameOutcome (template.render arguments session.store) (other.render others next.store) :=
  (reached.isSound _ _ member).sameOutcome (reachedToo.isSound _ _ memberToo)
    ⟨⟨fun _ => False.elim, fun _ => False.elim⟩, giveNamesToo, areData⟩ giveNames
    (fun _ => False.elim) sameValues

/-- **Whatever happens in a session behind the making of a template**, the template has the outcome of a
new one of the same tree, made anywhere with the values that the environment of the session had then. -/
theorem same_as_new (reached : session.IsReached) (makes : session.Makes tree template made)
    (steps : Relation.ReflTransGen Step made next) (makesNew : opening.Makes tree other fresh)
    (sameGlobals : opening.environment.globals = session.environment.globals)
    (giveNames : arguments.GiveNames next.store) (giveNamesToo : others.GiveNames fresh.store)
    (sameNamed : arguments.named = others.named)
    (sameEntries : ∀ name, tree.Reads name →
      lookupKey (.string name) (arguments.givenEntries next.store) =
        lookupKey (.string name) (others.givenEntries fresh.store))
    (areData : ∀ name, tree.Reads name → ∀ value,
      other.givenValue? others fresh.store name = some value → IsData (fun _ => False) value) :
    SameOutcome (template.render arguments next.store) (other.render others fresh.store) := by
  obtain ⟨-, isGlobals, -⟩ := makes.isMade
  obtain ⟨isMadeNew, isGlobalsNew, -⟩ := makesNew.isMade
  have isMade : tree.IsMade template next.store :=
    isSound_of_steps steps (makes.isSound reached.isSound) _ _
      (templates_subset_of_steps steps makes.mem_templates)
  refine isMade.sameOutcome isMadeNew
    ⟨⟨fun _ => False.elim, fun _ => False.elim⟩, giveNamesToo, areData⟩ giveNames
    (fun _ => False.elim) fun name isRead => ?_
  rw [Template.givenValue?, Template.givenValue?, sameNamed, sameEntries name isRead, isGlobals,
    isGlobalsNew, sameGlobals]

/-- A loop over a text gives the text, whatever has happened in the session. -/
theorem render_letters_by_name (reached : session.IsReached)
    (member : (.letters, template) ∈ session.templates) : ∃ after,
      template.render ⟨[], [(text "word", .string (text "ab"))]⟩ session.store =
        .ok (.string (text "ab")) after := by
  have given : template.IsGivenData .letters ⟨[], [(text "word", .string (text "ab"))]⟩ session.store
      fun _ => False :=
    { isRegion := ⟨fun _ => False.elim, fun _ => False.elim⟩
      giveNames :=
        { context := ⟨by decide +kernel, Nat.zero_le 1, nofun⟩
          mapping := nofun
          keys := List.nodup_nil
          names := List.nodup_singleton _ }
      isData := by
        rintro name ⟨shown, rfl, isRead⟩ value found
        have mentions : BlockTree.letters.mentions = [.bind (text "word"), .read (text "word"),
          .read (text "_append"), .read (text "_str"), .read (text "word")] := rfl
        have isWord : shown.name = text "word" := by
          rw [mentions] at isRead
          simp only [List.mem_cons, Mention.read.injEq, reduceCtorEq, List.not_mem_nil, or_false,
            false_or] at isRead
          rcases isRead with isWord | reserved | reserved | isWord
          · exact isWord
          · exact absurd reserved (shown.ne_of_mem_reservedNames (by decide))
          · exact absurd reserved (shown.ne_of_mem_reservedNames (by decide))
          · exact isWord
        rw [isWord] at found
        cases found
        exact .string _ }
  obtain ⟨after, rendered, -⟩ := ends_walk reached member given
  exact ⟨after, rendered⟩

end Session

end Stencil
