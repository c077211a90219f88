import Stencil.Proofs.Tree.Correctness
import Stencil.Proofs.Tree.Render

/-! # Templates without directives

A text in which the opening marker does not occur is a template that has no names and writes the
text, whatever the environment brings along and whatever the context has
(`Stencil.render_literal`).
-/

namespace Stencil

open Script Source Run RenderProgram

namespace BlockTree

/-- A text as a tree: literal text, unless there is none. -/
def ofLiteral : Text → BlockTree
  | [] => .done
  | first :: others => .literal (first :: others) .done

variable {content : Text}

theorem loopDepth_ofLiteral : (ofLiteral content).loopDepth = 0 := by
  cases content <;> rfl

theorem levels_ofLiteral : (ofLiteral content).levels = 0 := by
  cases content <;> rfl

theorem nesting_ofLiteral : (ofLiteral content).nesting = 0 := by
  cases content <;> rfl

theorem not_mem_mentions_ofLiteral (shown : Variable) :
    .read shown.name ∉ (ofLiteral content).mentions := by
  intro member
  cases content with
  | nil => cases member
  | cons first others =>
      have isAppend : Mention.read shown.name = .read (text "_append") := List.mem_singleton.mp member
      exact shown.ne_of_mem_reservedNames (by decide) (Mention.read.inj isAppend)

/-- The walk along literal text writes it. -/
theorem walk_ofLiteral (store : Store) (values : VariableValues) :
    (ofLiteral content).walk store values = .ok (content, values) := by
  cases content with
  | nil => rfl
  | cons first others =>
      change Except.ok ((first :: others) ++ [], values) = _
      rw [List.append_nil]

end BlockTree

/-- A text without the opening marker has the tokens of literal text. -/
theorem tokenize_literal {markers : Markers} (free : ¬ markers.opening.BeginsLikeEscape)
    {source : Text} (absent : Text.occursIn markers.opening source = false)
    (name : Option Text) :
    ∃ tokens, tokenize markers name (Text.normalize source) = .ok tokens ∧
      List.Forall₂ Part.IsEmittedBy (BlockTree.ofLiteral source).parts tokens := by
  cases source with
  | nil =>
      refine ⟨[], ?_, .nil⟩
      rw [tokenize, Token.scan, Text.normalize_nil, Token.scanFrom_nil]
      rfl
  | cons first others =>
      have nonempty : Text.normalize (first :: others) ≠ [] := by
        intro empty
        have restored := @Text.restore_normalize (first :: others)
        rw [empty] at restored
        cases restored
      have notFound : Text.splitAt? markers.opening (Text.normalize (first :: others)) = none := by
        have absentRaw : Text.splitAt? markers.opening (first :: others) = none :=
          Option.not_isSome_iff_eq_none.mp (ne_true_of_eq_false absent)
        rw [Text.splitAt?_normalize markers.opening_ok free, absentRaw]
        rfl
      have twin : NormalTwin (first :: others)
          (.literalAt (Text.normalize ((first :: others).take 0)).length
            (Text.normalize (first :: others))) (.literalAt 0 (first :: others)) :=
        normalTwin_literalAt
      refine ⟨[.literalAt 0 (Text.normalize (first :: others))], ?_, .cons (fun _ => ?_) .nil⟩
      · rw [tokenize, Token.scan, Token.scanFrom_last nonempty notFound]
        rfl
      · exact Part.emit_eq (.literal (first :: others) 0) twin

/-- Arguments that give a context: at most one mapping, and values with names. -/
structure Run.Arguments.GiveContext (arguments : Arguments) (store : Store) : Prop where
  notSelf : (arguments.named.lookup (text "self")).isSome = false
  atMostOne : arguments.positional.length ≤ 1
  isMapping : ∀ context ∈ arguments.positional, (context.entriesIn? store).isSome = true

namespace Template

variable {template : Template} {start made present : Store} {written : Text}

theorem exists_spreadEntries {context : Value}
    (isMapping : (context.entriesIn? present).isSome = true) :
    ∃ entries, spreadEntries context present = .ok entries present := by
  obtain ⟨entries, found⟩ := Option.isSome_iff_exists.mp isMapping
  have got : (get : Action Store) present = .ok present present := rfl
  refine ⟨entries, ?_⟩
  rw [spreadEntries, bind_ok got, found]
  rfl

/-- The result of a template whose render function returns a text for every context. -/
theorem call_of_constant
    (constant : ∀ context present, start.Keeps made present →
      ∃ after, Engine.standard.call template.function [context] [] present =
        .ok (.string written) after)
    {context : Value} (isMapping : (context.entriesIn? present).isSome = true)
    (keeps : start.Keeps made present) :
    ∃ after, template.call context present = .ok (.string written) after := by
  rw [Template.call]
  by_cases noGlobals : template.globals.isEmpty
  · rw [if_pos noGlobals]
    exact constant context present keeps
  · rw [if_neg noGlobals]
    obtain ⟨entries, spread⟩ := exists_spreadEntries isMapping
    rw [bind_ok spread]
    exact constant _ _ keeps.push

theorem contextOf_giveContext {arguments : Arguments} (give : arguments.GiveContext present) :
    contextOf arguments present = .ok arguments.positional.head? present := by
  obtain ⟨positional, named⟩ := arguments
  obtain ⟨-, atMostOne, isMapping⟩ := give
  rcases positional with _ | ⟨context, _ | ⟨second, others⟩⟩
  · rfl
  · have got : (get : Action Store) present = .ok present present := rfl
    obtain ⟨entries, found⟩ := Option.isSome_iff_exists.mp (isMapping context List.mem_cons_self)
    unfold contextOf
    dsimp only
    rw [bind_ok got, found]
    rfl
  · exact absurd atMostOne (Nat.not_le.mpr (Nat.le_add_left 2 _))

theorem isSome_entriesIn?_push {entries : List (Value × Value)} :
    ((Value.ref present.objects.size).entriesIn?
      (present.push (.dict (.ofEntries entries)))).isSome = true := by
  rw [Value.entriesIn?, Store.object_push_size]
  rfl

theorem isSome_entriesIn?_push_proxy {content : Address} :
    ((Value.ref present.objects.size).entriesIn? (present.push (.proxy content))).isSome =
      true := by
  rw [Value.entriesIn?, Store.object_push_size]
  rfl

theorem render_of_constant
    (constant : ∀ context present, start.Keeps made present →
      ∃ after, Engine.standard.call template.function [context] [] present =
        .ok (.string written) after)
    {arguments : Arguments} (give : arguments.GiveContext present)
    (keeps : start.Keeps made present) :
    ∃ after, template.render arguments present = .ok (.string written) after := by
  have given := contextOf_giveContext give
  obtain ⟨notSelf, -, isMapping⟩ := give
  rw [render, if_neg (ne_true_of_eq_false notSelf)]
  dsimp only
  rw [bind_ok given]
  by_cases noNames : arguments.named.isEmpty
  · rw [if_pos noNames]
    cases first : arguments.positional.head? with
    | none =>
        have empty : emptyContext present = .ok (.ref (present.push (.dict (.ofEntries
            []))).objects.size) ((present.push (.dict (.ofEntries []))).push
              (.proxy present.objects.size)) := rfl
        dsimp only
        rw [bind_ok empty]
        exact call_of_constant constant isSome_entriesIn?_push_proxy keeps.push.push
    | some context =>
        exact call_of_constant constant (isMapping context (List.mem_of_head? first)) keeps
  · rw [if_neg noNames]
    cases first : arguments.positional.head? with
    | none => exact call_of_constant constant isSome_entriesIn?_push keeps.push
    | some context =>
        obtain ⟨entries, spread⟩ :=
          exists_spreadEntries (isMapping context (List.mem_of_head? first))
        dsimp only
        rw [bind_ok spread]
        exact call_of_constant constant isSome_entriesIn?_push keeps.push

end Template

/-- A call of the render function of literal text returns the text for every context. -/
theorem call_ofLiteral {source : Text} {start present : Store} (context : Value)
    (keeps : start.Keeps (start.withRender (statements [] (.ofLiteral source))) present) :
    ∃ after, Engine.standard.call (.ref (start.objects.size + 1)) [context] [] present =
      .ok (.string source) after := by
  have isRegion : present.IsDataRegion fun _ => False :=
    ⟨fun _ outside => outside.elim, fun _ outside => outside.elim⟩
  have ends := @call_ends [] (.ofLiteral source) _ _ context _ [] isRegion keeps
    (fun shown isRead => (BlockTree.not_mem_mentions_ofLiteral shown isRead).elim)
    ⟨fun isBound => (isBound rfl).elim, fun _ isBound => (List.not_mem_nil isBound).elim⟩
  have outputs := ends.outputs
  rwa [BlockTree.walk_ofLiteral] at outputs

/-- The names of a program that reads no variables are none. -/
theorem free_program_of_unread {tree : BlockTree}
    (unread : ∀ shown : Variable, .read shown.name ∉ tree.mentions) :
    Text.sortedSet (NameUse.ofProgram (program [] tree)).free = [] := by
  have noneReferenced : (NameUse.ofProgram (program [] tree)).referenced = [] := by
    refine List.eq_nil_iff_forall_not_mem.mpr fun name member => ?_
    obtain ⟨isRead, free⟩ := mem_referenced_program.mp member
    rcases tree.isTreeMention_of_mem isRead with same | same | ⟨shown, same | same⟩
    · exact absurd (Mention.read.inj same ▸ by decide) free
    · exact absurd (Mention.read.inj same ▸ by decide) free
    · exact unread shown (same ▸ isRead)
    · cases same
  rw [NameUse.free, noneReferenced, List.filter_nil, Text.sortedSet, List.eraseDups_nil,
    List.mergeSort_nil]

/-- **Literal text is rendered as it is.** For every environment whose opening marker begins
neither with n nor with r, a text in which that marker does not occur is compiled. Its template has
no names, and writes exactly the text for every mapping and for all arguments that give a context,
in every store that still has the objects of the template. -/
theorem render_literal (environment : Environment)
    (free : ¬ environment.markers.opening.BeginsLikeEscape) (source : Text)
    (absent : Text.occursIn environment.markers.opening source = false) (name : Option Text) :
    ∃ compiled, compile environment.markers name source = .ok compiled ∧ compiled.names = [] ∧
      ∀ start : Store, ∃ template messages made,
        environment.template compiled start = .ok (template, messages) made ∧
        template.names = [] ∧
        ∀ present : Store, start.Keeps made present →
          (∀ context : Value, (context.entriesIn? present).isSome = true →
            ∃ after, template.call context present = .ok (.string source) after) ∧
          ∀ arguments : Arguments, arguments.GiveContext present →
            ∃ after, template.render arguments present = .ok (.string source) after := by
  obtain ⟨tokens, tokenized, same⟩ := tokenize_literal free absent name
  obtain ⟨bound, readsBound, compiles⟩ := compile_of_tokens tokenized same
    (BlockTree.loopDepth_ofLiteral.trans_le (Nat.zero_le _))
    (by rw [BlockTree.levels_ofLiteral]; decide)
    (programDepth_program.2.trans (by rw [BlockTree.nesting_ofLiteral]; decide))
  have noneBound : bound = [] := List.eq_nil_iff_forall_not_mem.mpr fun shown inBound =>
    BlockTree.not_mem_mentions_ofLiteral shown ((readsBound shown).mp inBound)
  subst noneBound
  obtain ⟨compiled, compiles, noNames, isProgram⟩ :
      ∃ compiled, compile environment.markers name source = .ok compiled ∧ compiled.names = [] ∧
        compiled.program = program [] (.ofLiteral source) :=
    ⟨_, compiles, free_program_of_unread BlockTree.not_mem_mentions_ofLiteral, rfl⟩
  refine ⟨compiled, compiles, noNames, fun start => ?_⟩
  obtain ⟨template, messages, isMade, -, names, function⟩ := template_program isProgram start
  refine ⟨template, messages, _, isMade, names.trans noNames, fun present keeps => ?_⟩
  have constant : ∀ context present,
      start.Keeps (start.withRender (statements [] (.ofLiteral source))) present →
        ∃ after, Engine.standard.call template.function [context] [] present =
          .ok (.string source) after := by
    rw [function]
    exact fun context present => call_ofLiteral context
  exact ⟨fun context isMapping => Template.call_of_constant constant isMapping keeps,
    fun arguments give => Template.render_of_constant constant give keeps⟩

/-- Quotes, a backslash, line breaks, a null and half a surrogate pair are written as they are. -/
theorem render_literal_unprintable : ∃ compiled,
    compile .standard none [34, 39, 92, 13, 10, 0, 0xD800, 0x2028] = .ok compiled ∧
      compiled.names = [] ∧
      ∀ start : Store, ∃ template messages made,
        (Environment.mk .standard [(text "word", .nothing)]).template compiled start =
          .ok (template, messages) made ∧
        (∃ after, template.call (.ref made.objects.size) (made.push (.dict (.ofEntries
            [(.string (text "word"), .string (text "ab"))]))) =
          .ok (.string [34, 39, 92, 13, 10, 0, 0xD800, 0x2028]) after) ∧
        ∃ after, template.render ⟨[], [(text "word", .bool true)]⟩ made =
          .ok (.string [34, 39, 92, 13, 10, 0, 0xD800, 0x2028]) after := by
  obtain ⟨compiled, compiles, noNames, renders⟩ :=
    render_literal ⟨.standard, [(text "word", .nothing)]⟩ (by decide)
      [34, 39, 92, 13, 10, 0, 0xD800, 0x2028] (by decide) none
  refine ⟨compiled, compiles, noNames, fun start => ?_⟩
  obtain ⟨template, messages, made, isMade, -, outputs⟩ := renders start
  have give : Arguments.GiveContext ⟨[], [(text "word", .bool true)]⟩ made :=
    ⟨by decide, Nat.zero_le 1, fun _ member => (List.not_mem_nil member).elim⟩
  exact ⟨template, messages, made, isMade,
    (outputs _ Store.Keeps.refl.push).1 _ Template.isSome_entriesIn?_push,
    (outputs made Store.Keeps.refl).2 _ give⟩

end Stencil
