import Stencil.Proofs.Template.AssembledProgram
import Stencil.Proofs.Template.LiteralRoundTrip
import Stencil.Proofs.Template.SingleFunction
import Stencil.Proofs.Tree.Correctness

/-! # Contexts given by name

A template takes its context as a mapping, as named values, or as both. Whatever a template does with
its context, rendering it is calling it with a new dictionary of the merged entries, or with the
mapping itself where no value is named (`Stencil.Template.render_eq_call`). One name is out of reach:
a template that reads `self` can be called for a mapping with this key, but its value cannot be given
by name (`Stencil.not_render_self`).

On all of these ways the render function is handed a mapping in which a named value counts before that
of the mapping, and this one before the value that the template brings along
(`Stencil.Template.render_eq_function`). With these values, or else the public ones, the directives
begin (`Stencil.Template.render_enters`).
-/

namespace Stencil

open Script Run Source Text

namespace Run.Arguments

/-- The entries of the mapping among some arguments; there are none without a mapping. -/
def givenEntries (arguments : Arguments) (store : Store) : List (Value × Value) :=
  (arguments.positional.head?.bind (·.entriesIn? store)).getD []

/-- A mapping and named values have the entries of a dictionary between them, and the keys of the
dictionary are different texts. -/
structure Split (arguments : Arguments) (store : Store) (content : Dictionary) : Prop where
  areTexts : ∀ entry ∈ content.entries, ∃ key, entry.1 = .string key
  nodup : (content.entries.map Prod.fst).Nodup
  perm : (arguments.givenEntries store ++ namedEntries arguments.named).Perm content.entries

/-- Arguments that give a context in which no key comes twice, with a mapping of the store. -/
structure GiveNames (arguments : Arguments) (store : Store) : Prop where
  context : arguments.GiveContext store
  mapping : ∀ context ∈ arguments.positional,
    IsMapping store (arguments.givenEntries store) context
  keys : ((arguments.givenEntries store).map Prod.fst).Nodup
  names : (arguments.named.map Prod.fst).Nodup

end Run.Arguments

theorem lookupKey_namedEntries {values : List (Name × Value)} {name : Name} :
    lookupKey (.string name) (namedEntries values) = values.lookup name := by
  induction values with
  | nil => rfl
  | cons first others ih =>
      have head : namedEntries (first :: others) =
          (.string first.1, first.2) :: namedEntries others := rfl
      rw [head, lookupKey_cons, ih, List.lookup_cons, BEq.comm]
      cases same : first.1 == name with
      | true => exact if_pos same
      | false => exact if_neg (ne_true_of_eq_false same)

theorem nodup_keys_namedEntries {values : List (Name × Value)}
    (nodup : (values.map Prod.fst).Nodup) : ((namedEntries values).map Prod.fst).Nodup := by
  have keys : (namedEntries values).map Prod.fst = (values.map Prod.fst).map Value.string := by
    rw [namedEntries, List.map_map, List.map_map]
    rfl
  exact keys ▸ nodup.map fun _ _ => Value.string.inj

theorem areTexts_namedEntries {values : List (Name × Value)} :
    ∀ entry ∈ namedEntries values, ∃ key, entry.1 = .string key := by
  intro entry member
  obtain ⟨value, -, rfl⟩ := List.mem_map.mp member
  exact ⟨value.1, rfl⟩

namespace Template

variable {template : Template} {arguments : Arguments} {present : Store} {context : Value}

/-- What a mapping gives is what stands beneath the named values. -/
theorem spreadEntries_of_giveContext (give : arguments.GiveContext present)
    (isFirst : arguments.positional.head? = some context) :
    spreadEntries context present = .ok (arguments.givenEntries present) present := by
  obtain ⟨entries, found⟩ :=
    Option.isSome_iff_exists.mp (give.isMapping context (List.mem_of_head? isFirst))
  have given : arguments.givenEntries present = entries := by
    rw [Arguments.givenEntries, isFirst, Option.bind_some, found]
    rfl
  have got : (get : Action Store) present = .ok present present := rfl
  rw [given, spreadEntries, bind_ok got, found]
  rfl

section

variable (give : arguments.GiveContext present)
include give

theorem render_of_giveContext : template.render arguments present =
    (if arguments.named.isEmpty then
        match arguments.positional.head? with
        | some context => template.call context
        | none => emptyContext >>= template.call
      else do
        let given ←
          match arguments.positional.head? with
          | some context => spreadEntries context
          | none => pure []
        newDict (mergeEntries given (namedEntries arguments.named)) >>= template.call) present := by
  rw [render, if_neg (ne_true_of_eq_false give.notSelf)]
  dsimp only
  exact bind_ok (contextOf_giveContext give)

/-- With named values the context is a new dictionary. -/
theorem render_of_named (isNamed : arguments.named ≠ []) : template.render arguments present =
    (newDict (mergeEntries (arguments.givenEntries present) (namedEntries arguments.named)) >>=
      template.call) present := by
  rw [render_of_giveContext give, List.isEmpty_eq_false_iff.mpr isNamed]
  cases first : arguments.positional.head? with
  | none =>
      rw [Arguments.givenEntries, first]
      rfl
  | some context => exact bind_ok (spreadEntries_of_giveContext give first)

theorem render_of_mapping (isContext : arguments.positional = [context])
    (unnamed : arguments.named = []) :
    template.render arguments present = template.call context present := by
  rw [render_of_giveContext give, unnamed, isContext]
  rfl

theorem render_of_nothing (isEmpty : arguments.positional = []) (unnamed : arguments.named = []) :
    template.render arguments present = (emptyContext >>= template.call) present := by
  rw [render_of_giveContext give, unnamed, isEmpty]
  rfl

end

/-- The value that a name has among some arguments, or else among what a template brings along. -/
def givenValue? (template : Template) (arguments : Arguments) (store : Store) (name : Name) :
    Option Value :=
  (arguments.named.lookup name).or
    ((lookupKey (.string name) (arguments.givenEntries store)).or (template.globals.lookup name))

/-- A call hands a mapping to the render function in which the values of the context count before
those that the template brings along. -/
theorem call_eq_function {entries : List (Value × Value)} (isMapping : IsMapping present entries context)
    (nodup : (entries.map Prod.fst).Nodup) : ∃ handed all after,
      present.Remains after ∧ IsMapping after all handed ∧
      (∀ name, lookupKey (.string name) all =
        (lookupKey (.string name) entries).or (template.globals.lookup name)) ∧
      template.call context present = Engine.standard.call template.function [handed] [] after := by
  unfold call
  by_cases noGlobals : template.globals = []
  · refine ⟨context, entries, present, .refl, isMapping, fun name => ?_, ?_⟩
    · rw [noGlobals]
      exact Option.or_none.symm
    · rw [noGlobals]
      rfl
  · have spread : spreadEntries context present = .ok entries present := by
      have got : (get : Action Store) present = .ok present present := rfl
      rw [spreadEntries, bind_ok got, isMapping.entriesIn?_eq]
      rfl
    refine ⟨.ref present.objects.size, mergeEntries (namedEntries template.globals) entries,
      present.push (.dict (.ofEntries (mergeEntries (namedEntries template.globals) entries))),
      Store.remains_push, .dict Store.object_push_size rfl, fun name => ?_, ?_⟩
    · rw [lookupKey_mergeEntries_of_nodup nodup, lookupKey_namedEntries]
    · rw [List.isEmpty_eq_false_iff.mpr noGlobals]
      exact bind_ok spread

/-- **The render function is handed a mapping in which named values count before those of the
mapping, and these before the values that the template brings along**, however the context is
given. -/
theorem render_eq_function (give : arguments.GiveNames present) : ∃ handed all after,
      present.Remains after ∧ IsMapping after all handed ∧
      (∀ name, lookupKey (.string name) all = template.givenValue? arguments present name) ∧
      template.render arguments present =
        Engine.standard.call template.function [handed] [] after := by
  by_cases isNamed : arguments.named = []
  · cases split : arguments.positional with
    | nil =>
        have isMapping : IsMapping ((present.push (.dict (.ofEntries []))).push
            (.proxy present.objects.size)) [] (.ref (present.objects.size + 1)) :=
          .proxy ((congrArg (Store.object _) Store.size_push.symm).trans Store.object_push_size)
            ((Store.object_push_of_lt Store.size_lt_push).trans Store.object_push_size) rfl
        obtain ⟨handed, all, after, remains, isHanded, found, called⟩ :=
          @call_eq_function template _ _ _ isMapping List.nodup_nil
        refine ⟨handed, all, after, (Store.remains_push.trans Store.remains_push).trans remains,
          isHanded, fun name => ?_, ?_⟩
        · rw [found, givenValue?, isNamed, Arguments.givenEntries, split]
          rfl
        · have empty : emptyContext present = .ok (.ref (present.objects.size + 1))
              ((present.push (.dict (.ofEntries []))).push (.proxy present.objects.size)) := by
            rw [← Store.size_push]
            rfl
          rw [render_of_nothing give.context split isNamed, bind_ok empty, called]
    | cons context others =>
        have single : arguments.positional = [context] := by
          have atMostOne := give.context.atMostOne
          rw [split, List.length_cons, Nat.succ_le_succ_iff, Nat.le_zero, List.length_eq_zero_iff] at atMostOne
          rw [split, atMostOne]
        obtain ⟨handed, all, after, remains, isHanded, found, called⟩ := @call_eq_function template _ _ _
          (give.mapping context (single ▸ List.mem_singleton_self _)) give.keys
        refine ⟨handed, all, after, remains, isHanded, fun name => ?_, ?_⟩
        · rw [found, givenValue?, isNamed]
          rfl
        · rw [render_of_mapping give.context single isNamed, called]
  · let merged := mergeEntries (arguments.givenEntries present) (namedEntries arguments.named)
    obtain ⟨handed, all, after, remains, isHanded, found, called⟩ := @call_eq_function template
      (present.push (.dict (.ofEntries merged))) (.ref present.objects.size) merged
      (.dict Store.object_push_size rfl) (nodup_mergeEntries areTexts_namedEntries give.keys)
    refine ⟨handed, all, after, Store.remains_push.trans remains, isHanded, fun name => ?_, ?_⟩
    · rw [found, lookupKey_mergeEntries_of_nodup (nodup_keys_namedEntries give.names),
        lookupKey_namedEntries, givenValue?, Option.or_assoc]
    · rw [render_of_named give.context isNamed, ← called]
      rfl

/-- **The directives begin with the values that their names stand for.** Where directives keep to the
body and do not bind the name that holds the public ones, every way to render the template runs what
stands behind the lines of the context in a frame in which a name that the directives read has its
named value, or else that of the mapping, or else the one that the template brings along, or else its
public value, and no value if there is none of these. -/
theorem render_enters {markers : Markers} {name : Option Text} {source : Text} {compiled : Compiled}
    {tokens : List Token} {fragments : List Text} {generator : Generator} {uses : NameUse}
    (isCompiled : compile markers name source = .ok compiled)
    (tokenized : tokenize markers name (normalize source) = .ok tokens)
    (keeps : ∀ token ∈ tokens, token.KeepsToBody)
    (emitted : Generator.start.emitAll tokens = .ok (fragments, generator))
    (used : unboundNames fragments.flatten = .ok uses) (spared : text "_builtins" ∉ uses.bound) :
    ∃ body inside : List Stmt, compiled.program = [renderDefinition body] ∧
      body = bufferStatement :: appendStatement ::
        ((sortedSet uses.referenced).map bindingStatement ++ inside) ∧
      ∀ (environment : Environment) (start : Store), ∃ template messages made,
        environment.template compiled start = .ok (template, messages) made ∧
        ((renderScope body).isGenerator = false →
          ∀ (present : Store) (arguments : Arguments), start.Keeps made present →
            arguments.GiveNames present →
            ∃ after slots, present.Remains after ∧
              (∀ name ∈ uses.referenced, slots.lookup name =
                (template.givenValue? arguments present name).or (publicValue? name)) ∧
              template.render arguments present =
                runBody (Engine.ofDepth 1982)
                  (renderScene body start.objects.size after.objects.size) (.block inside)
                  (after.entered slots)) := by
  obtain ⟨inside, rfl, single, executable⟩ :=
    exists_bound_of_compile isCompiled tokenized keeps emitted used
  let unbound := renderDefinition (bufferStatement :: appendStatement :: inside)
  let names := sortedSet (NameUse.ofProgram [unbound]).referenced
  let body := bufferStatement :: appendStatement :: (names.map bindingStatement ++ inside)
  have consistent : declaresConsistently [renderDefinition body] = true := by
    rw [single] at executable
    exact (Bool.and_eq_true_iff.mp executable).1
  have plain {name : Name} (member : name ∈ names) : name ∉ reservedNames :=
    (NameUse.mem_referenced.mp (mem_sortedSet.mp member)).2.2
  have unboundPublic : .bind (text "_builtins") ∉ stmtsMentions inside := by
    intro member
    refine spared (NameUse.mem_bound_ofMentions.mpr ?_)
    refine List.mem_flatMap.mpr ⟨unbound, List.mem_singleton_self _, ?_⟩
    exact List.mem_append_right _ (List.mem_append_right _ (List.mem_append_right _ member))
  refine ⟨body, inside, single, rfl, fun environment start => ?_⟩
  have made := @Environment.template_of_renderFunction environment _ _ _ _
    (single ▸ @renderFunction_renderDefinition body start)
  refine ⟨_, _, _, made, fun noGenerator present arguments kept give => ?_⟩
  obtain ⟨handed, all, after, remains, isMapping, found, rendered⟩ := render_eq_function give
  obtain ⟨globals_lt, isFrame, isFunction⟩ := (kept.of_remains remains).withRender
  have enters : EntersBody (Engine.ofDepth 1982)
      (renderScene body start.objects.size after.objects.size) after names handed all :=
    { calls := ⟨_, call_ofDepth 1979⟩
      home := by
        intro name member
        rcases (@List.mem_append _ name [text "ctx", text "_buf", text "_append"] names).mp member
          with isFirst | isName
        · exact home_renderScene consistent (.inl isFirst)
        · exact home_of_mem_names consistent isName
            (not_declared_of_mem_referenced (mem_sortedSet.mp isName))
      noContext := fun member => plain member (by decide)
      isMapping := fun _ => isMapping
      readsPublic := fun _ _ _ => ⟨home_builtins (fun member => plain member (by decide))
        unboundPublic, globals_lt, _, isFrame, rfl⟩ }
  refine ⟨after, names.foldl (takeInto all) (preparedSlots after handed), remains,
    fun name referenced => ?_, ?_⟩
  · have member : name ∈ names := mem_sortedSet.mpr referenced
    rw [lookup_foldl_takeInto, if_pos member, lookup_preparedSlots (plain member), Option.or_none,
      takenValue?, found]
  · rw [rendered]
    refine (call_renderFunctionOf isFunction).trans ?_
    rw [noGenerator, if_neg Bool.false_ne_true, runBody, runBody]
    exact bind_eq enters.runBlock_entry

end Template

/-- The name that a template calls itself by, as a variable. -/
def Variable.itself : Variable := ⟨text "self", by decide +kernel⟩

end Stencil
