import Stencil.Source.Assembly

/-! # Fragments of several tokens

Tokens are emitted one by one, each inside the blocks that those in front of it leave open
(`Stencil.emitAll_cons`, `Stencil.emitAll_append`). Where the borders between fragments do not
matter, tokens are printed as one text (`Stencil.Prints`).
-/

namespace Stencil

open Source

/-- Several tokens are emitted one by one. -/
theorem emitAll_cons {generator last : Generator} {token : Token} {tokens : List Token}
    {fragments : List Text} : generator.emitAll (token :: tokens) = .ok (fragments, last) ↔
      ∃ fragment blocks others, emit token generator.blocks = .ok (fragment, blocks) ∧
        Generator.emitAll ⟨blocks, generator.names⟩ tokens = .ok (others, last) ∧
        fragments = fragment :: others := by
  rw [Generator.emitAll, Generator.emit]
  constructor
  · intro emitted
    cases first : Source.emit token generator.blocks with
    | error fault => rw [first] at emitted; cases emitted
    | ok found =>
        obtain ⟨fragment, blocks⟩ := found
        rw [first] at emitted
        change (Generator.emitAll ⟨blocks, generator.names⟩ tokens >>= _) = _ at emitted
        cases later : Generator.emitAll ⟨blocks, generator.names⟩ tokens with
        | error fault => rw [later] at emitted; cases emitted
        | ok others =>
            rw [later] at emitted
            cases emitted
            exact ⟨fragment, blocks, _, rfl, later, rfl⟩
  · rintro ⟨fragment, blocks, others, first, later, rfl⟩
    rw [first]
    change (Generator.emitAll ⟨blocks, generator.names⟩ tokens >>= _) = _
    rw [later]
    rfl

/-- Tokens are emitted behind others where the blocks of these are open. -/
theorem emitAll_append {generator last : Generator} {front tokens : List Token}
    {fragments : List Text} : generator.emitAll (front ++ tokens) = .ok (fragments, last) ↔
      ∃ earlier between later, generator.emitAll front = .ok (earlier, between) ∧
        between.emitAll tokens = .ok (later, last) ∧ fragments = earlier ++ later := by
  induction front generalizing generator fragments with
  | nil =>
      refine ⟨fun emitted => ⟨[], generator, fragments, rfl, emitted, rfl⟩, ?_⟩
      rintro ⟨earlier, between, later, same, emitted, rfl⟩
      cases same
      exact emitted
  | cons token front ih =>
      rw [List.cons_append, emitAll_cons]
      constructor
      · rintro ⟨fragment, blocks, others, first, emitted, rfl⟩
        obtain ⟨earlier, between, later, emittedFront, emittedLater, rfl⟩ := ih.mp emitted
        exact ⟨fragment :: earlier, between, later,
          emitAll_cons.mpr ⟨_, _, _, first, emittedFront, rfl⟩, emittedLater, rfl⟩
      · rintro ⟨_, between, later, emitted, emittedLater, rfl⟩
        obtain ⟨fragment, blocks, earlier, first, emittedFront, rfl⟩ := emitAll_cons.mp emitted
        exact ⟨fragment, blocks, earlier ++ later, first,
          ih.mpr ⟨_, _, _, emittedFront, emittedLater, rfl⟩, rfl⟩

/-- Inside some open blocks, tokens become one text, and other blocks are open behind them. -/
def Prints (blocks : List OpenBlock) (tokens : List Token) (printed : Text)
    (after : List OpenBlock) : Prop :=
  ∀ names, ∃ fragments, (Generator.mk blocks names).emitAll tokens =
    .ok (fragments, ⟨after, names⟩) ∧ fragments.flatten = printed

namespace Prints

variable {blocks between after : List OpenBlock} {token : Token} {front tokens : List Token}
  {fragment earlier later : Text}

theorem nil : Prints blocks [] [] blocks := fun _ => ⟨[], rfl, rfl⟩

theorem cons (first : Source.emit token blocks = .ok (fragment, between))
    (others : Prints between tokens later after) :
    Prints blocks (token :: tokens) (fragment ++ later) after := by
  intro names
  obtain ⟨fragments, emitted, rfl⟩ := others names
  exact ⟨fragment :: fragments, emitAll_cons.mpr ⟨_, _, _, first, emitted, rfl⟩, rfl⟩

theorem single (emitted : Source.emit token blocks = .ok (fragment, after)) :
    Prints blocks [token] fragment after := by
  have printed := cons emitted nil
  rwa [List.append_nil] at printed

theorem append (first : Prints blocks front earlier between)
    (second : Prints between tokens later after) :
    Prints blocks (front ++ tokens) (earlier ++ later) after := by
  intro names
  obtain ⟨fragments, emitted, rfl⟩ := first names
  obtain ⟨others, emittedLater, rfl⟩ := second names
  exact ⟨fragments ++ others, emitAll_append.mpr ⟨_, _, _, emitted, emittedLater, rfl⟩,
    List.flatten_append⟩

end Prints

end Stencil
