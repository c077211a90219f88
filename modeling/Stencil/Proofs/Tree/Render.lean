import Stencil.Proofs.Tree.Call

/-! # Render functions of templates

A template keeps the render function of its program (`Stencil.RenderProgram.template_program`).
A call of that function returns what the walk along the tree writes, as long as the objects that
belong to the template are still in the store (`Stencil.RenderProgram.call_ends`).
-/

namespace Stencil

open Script Run

/-- A template keeps what its program makes. -/
theorem Environment.template_of_renderFunction {environment : Environment} {compiled : Compiled}
    {start made : Store} {function : Value}
    (ran : renderFunction compiled.program start = .ok function made) :
    environment.template compiled start = .ok
      (⟨compiled.source, compiled.name, compiled.code, compiled.names, environment.globals, function⟩,
        [compiled.report, text "Created template " ++ compiled.title]) made := by
  have ofCompiled : Template.ofCompiled compiled environment.globals start =
      .ok ⟨compiled.source, compiled.name, compiled.code, compiled.names, environment.globals,
        function⟩ made := by
    rw [Template.ofCompiled, bind_ok ran]
    rfl
  rw [Environment.template, bind_ok ofCompiled]
  rfl

namespace RenderProgram

variable {bound : List Variable} {tree : BlockTree} {store present : Store}

theorem renderScope_statements : renderScope (statements bound tree) = scope bound tree :=
  ofFunction_statements

/-- A template keeps the render function of its program. -/
theorem template_program {environment : Environment} {compiled : Compiled}
    (isProgram : compiled.program = program bound tree) (start : Store) :
    ∃ template messages,
      environment.template compiled start =
        .ok (template, messages) (start.withRender (statements bound tree)) ∧
      template.globals = environment.globals ∧ template.names = compiled.names ∧
      template.function = .ref (start.objects.size + 1) := by
  have made : renderFunction compiled.program start =
      .ok (.ref (start.objects.size + 1)) (start.withRender (statements bound tree)) :=
    isProgram ▸ renderFunction_renderDefinition
  exact ⟨_, _, Environment.template_of_renderFunction made, rfl, rfl, rfl⟩

/-- The names that a render function binds live in its calls, and the function that gives the text
of a value does not. -/
theorem str_not_mem_ownNames : text "_str" ∉ (scope bound tree).ownNames := by
  intro member
  rcases mem_ownNames_scope.mp member with same | isBound
  · exact absurd same (by decide)
  simp only [mentions, List.mem_cons, List.mem_append, List.mem_flatMap, bindingMentions,
    Mention.bind.injEq, reduceCtorEq, List.not_mem_nil, or_false, false_or] at isBound
  rcases isBound with same | same | ⟨shown, -, same⟩ | ofTree
  · exact absurd same (by decide)
  · exact absurd same (by decide)
  · exact shown.ne_of_mem_reservedNames (by decide) same.symm
  · rcases tree.isTreeMention_of_mem ofTree with same | same | ⟨shown, same | same⟩
    · cases same
    · cases same
    · cases same
    · exact shown.ne_of_mem_reservedNames (by decide) (Mention.bind.inj same).symm

theorem mem_ownNames_of_bound {shown : Variable} (isBound : shown ∈ bound) :
    shown.name ∈ (scope bound tree).ownNames := by
  refine mem_ownNames_scope.mpr (.inr ?_)
  have inBindings : Mention.bind shown.name ∈ bound.flatMap bindingMentions :=
    List.mem_flatMap.mpr ⟨shown, isBound, List.mem_cons_of_mem _ List.mem_cons_self⟩
  exact List.mem_cons_of_mem _ (List.mem_cons_of_mem _ (List.mem_cons_of_mem _
    (List.mem_append_left _ inBindings)))

theorem mem_ownNames_of_target {target : Variable}
    (isTarget : .bind target.name ∈ tree.mentions) :
    target.name ∈ (scope bound tree).ownNames := by
  refine mem_ownNames_scope.mpr (.inr ?_)
  exact List.mem_cons_of_mem _ (List.mem_cons_of_mem _ (List.mem_cons_of_mem _
    (List.mem_append_right _ (List.mem_append_left _ isTarget))))

/-- What every render function has lives in its calls. -/
theorem mem_ownNames_of_mem : ∀ name ∈ [text "ctx", text "_buf", text "_append"],
    name ∈ (scope bound tree).ownNames := by
  intro name member
  simp only [List.mem_cons, List.not_mem_nil, or_false] at member
  refine mem_ownNames_scope.mpr ?_
  rcases member with rfl | rfl | rfl
  · exact .inl rfl
  · exact .inr List.mem_cons_self
  · exact .inr (List.mem_cons_of_mem _ List.mem_cons_self)

/-- A call of the render function of a tree, in a store that still has what its program has made. -/
def renderCall (bound : List Variable) (tree : BlockTree) (context : Value) {region : Address → Prop}
    (isRegion : present.IsDataRegion region)
    (keeps : store.Keeps (store.withRender (statements bound tree)) present) : RenderCall where
  before := present
  region := region
  context := context
  bound := bound
  own := (scope bound tree).ownNames
  scene := renderScene (statements bound tree) store.objects.size present.objects.size
  engine := Engine.ofDepth 1982
  below := Engine.ofDepth 1981
  isRegion := isRegion
  calls := call_ofDepth 1979
  layers := by
    have declared : (scope bound tree).globalNames = [] :=
      declaredNames_scope (by decide) (by decide)
    rw [renderScene, renderScope_statements, declared]
  globals_lt := keeps.withRender.1
  knowsWritten := ⟨_, keeps.withRender.2.1, rfl⟩
  bound_own _ := mem_ownNames_of_bound
  reserved_own := mem_ownNames_of_mem
  str_not_own := str_not_mem_ownNames

/-- **A call of the render function returns what the walk along the tree writes**, or raises an
exception of the same kind, and leaves the objects from before as they are. -/
theorem call_ends {context : Value} {region : Address → Prop} {entries : List (Value × Value)}
    (isRegion : present.IsDataRegion region)
    (keeps : store.Keeps (store.withRender (statements bound tree)) present)
    (readsBound : ∀ shown : Variable, .read shown.name ∈ tree.mentions → shown ∈ bound)
    (contextHas : (renderCall bound tree context isRegion keeps).ContextHas entries) :
    RenderCall.Ends present (tree.walk present (RenderCall.contextValues entries))
      (Engine.standard.call (.ref (store.objects.size + 1)) [context] [] present) := by
  have knows : (renderCall bound tree context isRegion keeps).Knows tree.mentions :=
    ⟨readsBound, fun _ isTarget => mem_ownNames_of_target isTarget⟩
  have noGenerator : (renderScope (statements bound tree)).isGenerator = false := by
    rw [renderScope_statements, isGenerator_scope]
  rw [call_renderFunctionOf keeps.withRender.2.2, noGenerator]
  exact RenderCall.runBody_statements knows contextHas

end RenderProgram

end Stencil
