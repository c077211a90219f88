import Stencil.Proofs.Template.Compilation
import Stencil.Proofs.Tree.Names
import Stencil.Proofs.Tree.Render

/-! # Block trees are rendered as they are walked

A template is compiled to the render program of a tree when its tokens are those of the tree's
parts (`Stencil.compile_of_tokens`). This is so for the text of the tree itself under the usual
markers (`Stencil.BlockTree.compile_source`), and a call of the template gives for every context of
data what the walk along the tree gives, output or exception (`Stencil.BlockTree.render_eq_walk`).
-/

namespace Stencil

open Script Source RenderProgram

variable {tree : BlockTree}

/-- The text of a tree's program without the lines of its context is read as this program. -/
theorem readProgram_unbound (shallow : tree.levels + 1 < indentLimit) :
    readProgram (prologue ++ tree.outline.text 1 ++ epilogue) = .ok (program [] tree) := by
  have unbound : prologue ++ tree.outline.text 1 ++ epilogue = (outline [] tree).text 0 := by
    have whole := @text_outline [] tree
    rwa [List.map_nil, List.flatMap_nil, List.append_nil] at whole
  rw [unbound, readProgram_outline shallow]

/-- **Tokens that are emitted like the parts of a tree make the render program of the tree.**
The variables that the tree reads are taken from the context. -/
theorem compile_of_tokens {markers : Markers} {name : Option Text} {source : Text}
    {tokens : List Token} (tokenized : tokenize markers name (Text.normalize source) = .ok tokens)
    (same : List.Forall₂ Part.IsEmittedBy tree.parts tokens)
    (few : tree.loopDepth ≤ blockLimit) (shallow : tree.levels + 1 < indentLimit)
    (walkable : programDepth (program [] tree) ≤ walkLimit) :
    ∃ bound : List Variable,
      (∀ shown : Variable, shown ∈ bound ↔ .read shown.name ∈ tree.mentions) ∧
      compile markers name source = .ok {
        source := source
        name := name
        tokenCount := tokens.length
        code := (outline bound tree).text 0
        names := Text.sortedSet (NameUse.ofProgram (program [] tree)).free
        program := program bound tree } := by
  obtain ⟨bound, names, readsBound⟩ := exists_bound tree
  obtain ⟨fragments, emitted, written⟩ := (tree.emits []).emitAll same
  refine ⟨bound, readsBound, ?_⟩
  have body : fragments.flatten = tree.outline.text 1 := written
  have code : boundProgram (NameUse.ofProgram (program [] tree)) fragments.flatten =
      (outline bound tree).text 0 := by
    rw [boundProgram, ← names, body, text_outline]
  have executable : executableProgram ((outline bound tree).text 0) =
      .ok (program bound tree) := by
    rw [executableProgram, readProgram_outline shallow]
    exact if_pos (isExecutable_program few)
  have compiled := compile_of_steps tokenized emitted
    (body ▸ readProgram_unbound shallow) walkable (code ▸ executable)
  rwa [code] at compiled

/-- Tokens that are emitted like the parts of a tree make nothing when the walk over the tree's
program goes too deep. -/
theorem compile_of_tokens_of_lt {markers : Markers} {name : Option Text} {source : Text}
    {tokens : List Token} (tokenized : tokenize markers name (Text.normalize source) = .ok tokens)
    (same : List.Forall₂ Part.IsEmittedBy tree.parts tokens)
    (shallow : tree.levels + 1 < indentLimit)
    (deep : walkLimit < programDepth (program [] tree)) :
    ∃ fault ∈ [SourceFault.deepWalk, .deepTree],
      compile markers name source = .error (.source (.program fault)) := by
  obtain ⟨fragments, emitted, written⟩ := (tree.emits []).emitAll same
  have body : fragments.flatten = tree.outline.text 1 := written
  exact compile_of_lt tokenized emitted (body ▸ readProgram_unbound shallow) deep

/-- The tokens of a tree's text are emitted like its parts. -/
theorem BlockTree.exists_tokens (scannable : tree.IsScannable) (name : Option Text) :
    ∃ tokens, tokenize .standard name (Text.normalize tree.source) = .ok tokens ∧
      List.Forall₂ Part.IsEmittedBy tree.parts tokens := by
  have isSource : (tree.parts.map Part.piece).flatMap Piece.source = tree.source := by
    rw [List.flatMap_map]
    exact List.flatMap_congr fun part _ => part.source_piece
  have plain : ∀ piece ∈ tree.parts.map Part.piece, piece.IsPlain :=
    List.forall_mem_map.mpr fun part member => Part.isPlain_piece (scannable.1 part member)
  have apart : (tree.parts.map Part.piece).IsChain fun before after =>
      ¬(before.isLiteral = true ∧ after.isLiteral = true) := by
    simp only [List.isChain_map, Part.isLiteral_piece]
    exact scannable.2
  obtain ⟨tokens, tokenized, twins⟩ := Piece.exists_tokenize plain apart name
  rw [isSource] at tokenized
  refine ⟨tokens, tokenized, (List.forall₂_map_left_iff.mp twins).imp fun part token twin => ?_⟩
  obtain ⟨place, twin⟩ := twin
  exact fun _ => Part.emit_eq (part.spelled_token place) twin

/-- **The text of a tree is compiled to the tree's render program.** -/
theorem BlockTree.compile_source (scannable : tree.IsScannable)
    (few : tree.loopDepth ≤ blockLimit) (shallow : tree.levels + 1 < indentLimit)
    (walkable : programDepth (program [] tree) ≤ walkLimit) (name : Option Text) :
    ∃ bound : List Variable,
      (∀ shown : Variable, shown ∈ bound ↔ .read shown.name ∈ tree.mentions) ∧
      ∃ compiled, compile .standard name tree.source = .ok compiled ∧
        compiled.program = program bound tree := by
  obtain ⟨tokens, tokenized, same⟩ := tree.exists_tokens scannable name
  obtain ⟨bound, readsBound, compiled⟩ := compile_of_tokens tokenized same few shallow walkable
  exact ⟨bound, readsBound, _, compiled, rfl⟩

open Run

/-- The template of a compiled tree, called for a dictionary of data, gives what the walk along the
tree gives. -/
theorem BlockTree.outputs_walk {bound : List Variable} {compiled : Compiled}
    (readsBound : ∀ shown : Variable, shown ∈ bound ↔ .read shown.name ∈ tree.mentions)
    (isProgram : compiled.program = program bound tree) (start : Store) :
    ∃ template messages made,
      Environment.standard.template compiled start = .ok (template, messages) made ∧
      ∀ (present : Store) (region : Address → Prop) (context : Address) (content : Dictionary),
        start.Keeps made present → present.IsDataRegion region → region context →
        present.object context = .dict content →
        RenderCall.Outputs (tree.walk present (RenderCall.contextValues content.entries))
          (template.call (.ref context) present) := by
  obtain ⟨template, messages, made, noGlobals, -, isFunction⟩ :=
    template_program isProgram start
  refine ⟨template, messages, _, made, fun present region context content keeps isRegion inside
    holds => ?_⟩
  have called : template.call (.ref context) =
      Engine.standard.call (.ref (start.objects.size + 1)) [.ref context] [] := by
    rw [Template.call, noGlobals, isFunction]
    rfl
  rw [called]
  exact (call_ends isRegion keeps (fun shown isRead => (readsBound shown).mpr isRead)
    ⟨fun _ => .dict holds rfl, fun shown _ _ found => isRegion.isData_lookupKey inside holds found⟩).outputs

/-- **Rendering a block tree is walking along it.** The text of a tree within the limits for
loops and for indentation is compiled, unless the walk that gathers the names of its program goes too
deep. Its template, called for a dictionary of data in a store that still has the objects of the
template, returns what the walk along the tree writes, or raises an exception of the kind that ends
the walk. -/
theorem BlockTree.render_eq_walk (tree : BlockTree) (scannable : tree.IsScannable)
    (few : tree.loopDepth ≤ blockLimit) (shallow : tree.levels + 1 < indentLimit)
    (name : Option Text) :
    (programDepth (program [] tree) ≤ walkLimit →
      ∃ compiled, compile .standard name tree.source = .ok compiled ∧
        ∀ start : Store, ∃ template messages made,
          Environment.standard.template compiled start = .ok (template, messages) made ∧
          ∀ (present : Store) (region : Address → Prop) (context : Address) (content : Dictionary),
            start.Keeps made present → present.IsDataRegion region → region context →
            present.object context = .dict content →
            RenderCall.Outputs (tree.walk present (RenderCall.contextValues content.entries))
              (template.call (.ref context) present)) ∧
    (walkLimit < programDepth (program [] tree) → ∃ fault ∈ [SourceFault.deepWalk, .deepTree],
      compile .standard name tree.source = .error (.source (.program fault))) := by
  constructor
  · intro walkable
    obtain ⟨bound, readsBound, compiled, succeeds, isProgram⟩ :=
      tree.compile_source scannable few shallow walkable name
    exact ⟨compiled, succeeds, outputs_walk readsBound isProgram⟩
  · intro deep
    obtain ⟨tokens, tokenized, same⟩ := tree.exists_tokens scannable name
    exact compile_of_tokens_of_lt tokenized same shallow deep

/-- A variable. -/
def Variable.word : Variable := ⟨text "word", by decide +kernel⟩

/-- A loop whose variable hides the value that is looped over. -/
def BlockTree.letters : BlockTree := .loop .word .word (.output .word .done) .done

/-- The elements of a text are its code points, which are written out one after the other. -/
theorem BlockTree.render_letters : ∃ compiled,
    compile .standard none (text "<% for word in word: %><%= word %><% end %>") = .ok compiled ∧
      ∀ start : Store, ∃ template messages made,
        Environment.standard.template compiled start = .ok (template, messages) made ∧
        ∃ after, template.call (.ref made.objects.size) (made.push (.dict (.ofEntries
            [(.string (text "word"), .string (text "ab"))]))) =
          .ok (.string (text "ab")) after := by
  obtain ⟨compiled, succeeds, renders⟩ :=
    (BlockTree.render_eq_walk BlockTree.letters (by decide) (by decide) (by decide) none).1
      (by decide)
  refine ⟨compiled, succeeds, fun start => ?_⟩
  obtain ⟨template, messages, made, isMade, outputs⟩ := renders start
  have isRegion : (made.push (.dict (.ofEntries
      [(.string (text "word"), .string (text "ab"))]))).IsDataRegion (· = made.objects.size) := by
    constructor
    case lt_size =>
      rintro address rfl
      exact Nat.lt_of_lt_of_eq (Nat.lt_succ_self _) Store.size_push.symm
    case isData =>
      rintro address rfl
      rw [Store.object_push_size]
      refine .dict Dictionary.isSound_ofEntries fun entry member => ?_
      rw [List.mem_singleton.mp member]
      exact ⟨.string _, .string _⟩
  exact ⟨template, messages, made, isMade, outputs _ _ _ _ (Store.Keeps.refl.push) isRegion rfl
    Store.object_push_size⟩

/-- Branches of a choice that test the same variable again and again. -/
def Branches.repeated : Nat → Branches
  | 0 => .none
  | count + 1 => .test .word .done (repeated count)

/-- A choice with many branches, none of which holds anything. -/
def BlockTree.longChoice (count : Nat) : BlockTree := .choice .word .done (.repeated count) .done

namespace Branches

variable {count : Nat}

theorem bounds_repeated : (repeated count).loopDepth = 0 ∧ (repeated count).levels ≤ 1 ∧
    (repeated count).nesting = count := by
  induction count with
  | zero => exact ⟨rfl, Nat.zero_le 1, rfl⟩
  | succ count ih =>
      obtain ⟨loops, levels, nesting⟩ := ih
      simp only [repeated, Branches.loopDepth, Branches.levels, Branches.nesting,
        BlockTree.loopDepth, BlockTree.levels, BlockTree.nesting, loops, nesting]
      omega

theorem isLiteral_of_mem_repeated {part : Part} (member : part ∈ (repeated count).parts) :
    part.isLiteral = false := by
  induction count with
  | zero => cases member
  | succ count ih =>
      rcases List.mem_cons.mp member with rfl | inLater
      · rfl
      · exact ih inLater

end Branches

/-- A tree without literal text is told apart into its parts. -/
theorem BlockTree.isScannable_of_not_isLiteral
    (plain : ∀ part ∈ tree.parts, part.isLiteral = false) : tree.IsScannable := by
  refine ⟨fun part member => ?_, List.Pairwise.isChain ?_⟩
  · cases part with
    | literal content => cases plain _ member
    | _ => rfl
  · refine List.pairwise_of_forall_mem_list fun before member after _ both => ?_
    exact Bool.false_ne_true ((plain before member).symm.trans both.1)

/-- **A choice with thousands of branches is not compiled**, though it has no loops and its blocks
stand side by side: each branch is inside the one before it. -/
theorem BlockTree.not_compile_longChoice :
    (longChoice 4000).IsScannable ∧ (longChoice 4000).loopDepth ≤ blockLimit ∧
      (longChoice 4000).levels + 1 < indentLimit ∧
      ∃ fault ∈ [SourceFault.deepWalk, .deepTree],
        compile .standard none (longChoice 4000).source = .error (.source (.program fault)) := by
  obtain ⟨loops, levels, nesting⟩ := @Branches.bounds_repeated 4000
  have scannable : (longChoice 4000).IsScannable := by
    refine isScannable_of_not_isLiteral fun part member => ?_
    rcases List.mem_cons.mp member with rfl | behind
    · rfl
    · change part ∈ (Branches.repeated 4000).parts ++ [.statement .finish] at behind
      rcases List.mem_append.mp behind with inBranches | isEnd
      · exact Branches.isLiteral_of_mem_repeated inBranches
      · rw [List.mem_singleton.mp isEnd]
        rfl
  have shallow : (longChoice 4000).levels + 1 < indentLimit := by
    simp only [longChoice, BlockTree.levels]
    unfold indentLimit
    omega
  have deep : walkLimit < programDepth (program [] (longChoice 4000)) := by
    refine Nat.lt_of_lt_of_le ?_ programDepth_program.1
    simp only [longChoice, BlockTree.nesting, nesting]
    decide
  obtain ⟨tokens, tokenized, same⟩ := (longChoice 4000).exists_tokens scannable none
  refine ⟨scannable, ?_, shallow, compile_of_tokens_of_lt tokenized same shallow deep⟩
  simp only [longChoice, BlockTree.loopDepth, loops]
  decide

end Stencil
