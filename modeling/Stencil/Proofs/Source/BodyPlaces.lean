import Stencil.Proofs.Source.DirectiveLines

/-! # Places in a body

Tokens that are complete put their lines one below the other, as deep as blocks are open. So the
lines of the tokens in front of a place lead to it (`Stencil.exists_leads_of_emitAll`), and those
behind it neither begin deeper nor go on with a statement in front of it
(`Stencil.exists_follows_of_emitAll`).
-/

namespace Stencil

open Script Source CodePoint Text

/-- The first lexemes of the headers of all open blocks, the innermost first, and that of the render
function. -/
inductive Heads : List OpenBlock → List Lexeme → Prop
  | body : Heads [] [.keyword .defWord]
  /-- A block is open. The header of a choice by shape begins with its word. -/
  | block {opened : OpenBlock} {blocks : List OpenBlock} {head : Lexeme} {heads : List Lexeme}
      (isChoice : head = choiceOpener → opened.keyword = text "match")
      (noClass : head ≠ .keyword .classWord) (outer : Heads blocks heads) :
      Heads (opened :: blocks) (head :: heads)

variable {edit : Edit} {bound depth : Nat} {blocks inner outer after : List OpenBlock}
  {heads openers : List Lexeme} {first start : Lexeme} {inside : List Lexeme}
  {content unified rest : Text}

namespace Heads

theorem length_eq (isHeads : Heads blocks heads) : heads.length = blocks.length + 1 := by
  induction isHeads with
  | body => rfl
  | block _ _ _ ih => rw [List.length_cons, List.length_cons, ih]

theorem noClass (isHeads : Heads blocks heads) : ∀ head ∈ heads, head ≠ .keyword .classWord := by
  induction isHeads with
  | body => exact List.forall_mem_singleton.mpr fun same => nomatch same
  | block _ noClass _ ih => exact List.forall_mem_cons.mpr ⟨noClass, ih⟩

/-- Outside a choice by shape, the innermost header opens no such choice. -/
theorem exists_opener (isHeads : Heads blocks heads) (noChoice : topWord blocks ≠ some (text "match")) :
    ∃ opener outer, heads = opener :: outer ∧ opener ≠ choiceOpener := by
  cases isHeads with
  | body => exact ⟨_, _, rfl, fun same => nomatch same⟩
  | block isChoice _ _ =>
      exact ⟨_, _, rfl, fun same => noChoice (congrArg some (isChoice same))⟩

end Heads

/-- Where a line of the body ends, with the open blocks, and with the headers of those that have
begun. Only the block of a choice by shape may not have begun. -/
structure IsPlace (blocks : List OpenBlock) (heads : List Lexeme) (first : Lexeme)
    (openers : List Lexeme) : Prop where
  isHeads : Heads blocks heads
  stands : Stands heads first openers
  begun : topWord blocks ≠ some (text "match") → ∃ extra, openers = extra ++ heads

namespace IsPlace

/-- A line stands where all blocks have begun. -/
theorem of_line (isHeads : Heads blocks heads) : IsPlace blocks heads first heads :=
  ⟨isHeads, .inside [], fun _ => ⟨[], rfl⟩⟩

/-- Blocks end. -/
theorem leave (place : IsPlace (inner ++ outer) heads first openers) :
    ∃ kept, IsPlace outer kept first openers := by
  induction inner generalizing heads with
  | nil => exact ⟨heads, place⟩
  | cons opened inner ih =>
      obtain ⟨isHeads, stands, -⟩ := place
      cases isHeads with
      | block _ _ isOuter =>
          obtain ⟨extra, rfl⟩ := stands.exists_tail
          exact ih ⟨isOuter, .inside extra, fun _ => ⟨extra, rfl⟩⟩

/-- A line stands in front of others, in the innermost block. -/
theorem leads (place : IsPlace blocks heads first openers) (isRow : IsRowLine content start inside) :
    Leads edit bound (lineAt (blocks.length + 1) content) first openers start heads := by
  rw [← place.isHeads.length_eq]
  exact place.stands.leads place.isHeads.noClass isRow.isLine isRow.inline isRow.plain

end IsPlace

/-- The line that does nothing is a line of its own. -/
theorem isRowLine_skip : IsRowLine RenderLine.skip.content (.keyword .passWord) [] where
  isLine := RenderLine.skip.isLogicalLine
  inline := List.forall_mem_singleton.mpr rfl
  plain := fun same => nomatch same

/-- A line of a comment is passed over, whatever blocks are open. -/
theorem lexemesFrom_comment {columns : List Column} (plain : lineFeed ∉ content) :
    lexemesFrom columns [] true (lineAt depth (hash :: content) ++ rest) =
      lexemesFrom columns [] true rest := by
  have whole : lineAt depth (hash :: content) ++ rest =
      Text.spaces (4 * depth) ++ hash :: (content ++ lineFeed :: rest) := by
    unfold lineAt
    simp only [List.append_assoc, List.cons_append, List.nil_append]
  rw [whole, isMargin_spaces.lexemesFrom_hash plain]

/-- **What a complete token puts into the body leads to the place behind it.** -/
theorem Lays.exists_leads (lays : Lays blocks unified after)
    (place : IsPlace blocks heads first openers) :
    ∃ kept last inner, Leads edit bound unified first openers last inner ∧
      IsPlace after kept last inner := by
  cases lays with
  | nothing split =>
      subst split
      obtain ⟨kept, placeOuter⟩ := place.leave
      exact ⟨kept, first, openers, .refl, placeOuter⟩
  | comment plain =>
      exact ⟨heads, first, openers, .skip fun _ _ => lexemesFrom_comment plain, place⟩
  | @row inner outer _ start _ split isRow =>
      subst split
      obtain ⟨kept, placeOuter⟩ := place.leave
      exact ⟨kept, start, kept, placeOuter.leads isRow, .of_line placeOuter.isHeads⟩
  | @choice inner outer _ start _ opened split isRow _ noClass isChoice =>
      subst split
      obtain ⟨kept, placeOuter⟩ := place.leave
      have isHeads : Heads (opened :: outer) (start :: kept) :=
        .block (fun _ => isChoice) noClass placeOuter.isHeads
      refine ⟨start :: kept, start, kept, placeOuter.leads isRow, isHeads, .below rfl, fun other => ?_⟩
      exact (other (congrArg some isChoice)).elim
  | @header inner outer _ start _ opened split isRow _ noClass noChoice =>
      subst split
      obtain ⟨kept, placeOuter⟩ := place.leave
      have isHeads : Heads (opened :: outer) (start :: kept) :=
        .block (fun same => (noChoice same).elim) noClass placeOuter.isHeads
      have below : Stands (start :: kept) start kept := .below rfl
      have skip : Leads edit bound (lineAt (start :: kept).length RenderLine.skip.content) start kept
          (.keyword .passWord) (start :: kept) :=
        below.leads isHeads.noClass isRowLine_skip.isLine isRowLine_skip.inline isRowLine_skip.plain
      rw [isHeads.length_eq] at skip
      exact ⟨start :: kept, _, start :: kept, (placeOuter.leads isRow).trans skip, .of_line isHeads⟩

/-- What stands behind a place leaves all deeper blocks first, and it does not go on with the
statement in front of it. -/
structure Follows (depth : Nat) (rest : Text) : Prop where
  closes : ClosesTo depth rest
  apart : ∀ behind, lexemesBehind depth rest = some behind →
    ∀ next ∈ behind.head?, next.joins = false

/-- What leaves the blocks that are deeper follows in a deeper block. -/
theorem follows_of_closesTo {extra : Nat} (closes : ClosesTo depth rest) (deeper : 0 < extra) :
    Follows (depth + extra) rest := by
  obtain ⟨extra, rfl⟩ := Nat.exists_eq_add_of_lt deeper
  refine ⟨?_, fun behind scanned next isNext => ?_⟩
  · clear deeper
    rw [Nat.zero_add]
    induction extra with
    | zero => exact closes.deeper
    | succ extra ih => exact ih.deeper
  · rw [closes] at scanned
    obtain ⟨kept, -, rfl⟩ := Option.map_eq_some_iff.mp scanned
    rw [Nat.zero_add, List.replicate_succ] at isNext
    cases isNext
    rfl

theorem closesTo_line (isLine : IsLogicalLine content (start :: inside)) :
    ClosesTo depth (lineAt depth content ++ rest) := by
  intro extra
  have same := @IsLogicalLine.lexemesBehind_leave rest depth content _ isLine
  rw [same extra]
  have here := same 0
  rw [Nat.add_zero] at here
  rw [here, Option.map_map]
  rfl

/-- A line follows at its own depth, unless it goes on with a statement, and at any greater one. -/
theorem follows_line (isRow : IsRowLine content start inside) (split : blocks = inner ++ outer)
    (joins : start.joins = true → inner ≠ []) :
    Follows (blocks.length + 1) (lineAt (outer.length + 1) content ++ rest) := by
  have closes : ClosesTo (outer.length + 1) (lineAt (outer.length + 1) content ++ rest) :=
    closesTo_line isRow.isLine
  subst split
  cases inner with
  | cons opened inner =>
      have deeper : (opened :: inner ++ outer).length + 1 =
          outer.length + 1 + (opened :: inner).length := by
        rw [List.length_append]
        omega
      rw [deeper]
      exact follows_of_closesTo closes (Nat.succ_pos _)
  | nil =>
      refine ⟨closes, fun behind scanned next isNext => ?_⟩
      have here := @IsLogicalLine.lexemesBehind_leave rest (outer.length + 1) content _ isRow.isLine 0
      rw [Nat.add_zero] at here
      rw [List.nil_append, here] at scanned
      obtain ⟨kept, -, rfl⟩ := Option.map_eq_some_iff.mp scanned
      cases isNext
      exact Bool.eq_false_iff.mpr fun goesOn => joins goesOn rfl

theorem Follows.deeper (follows : Follows (outer.length + 1) rest) (split : blocks = inner ++ outer) :
    Follows (blocks.length + 1) rest := by
  subst split
  cases inner with
  | nil => exact follows
  | cons opened inner =>
      have deeper : (opened :: inner ++ outer).length + 1 =
          outer.length + 1 + (opened :: inner).length := by
        rw [List.length_append]
        omega
      rw [deeper]
      exact follows_of_closesTo follows.closes (Nat.succ_pos _)

/-- **What a complete token puts into the body follows the place in front of it.** -/
theorem Lays.follows (lays : Lays blocks unified after) (behind : Follows (after.length + 1) rest) :
    Follows (blocks.length + 1) (unified ++ rest) := by
  cases lays with
  | nothing split => exact behind.deeper split
  | comment plain =>
      refine ⟨fun extra => ?_, fun found scanned => behind.apart found ?_⟩
      · unfold lexemesBehind
        rw [lexemesFrom_comment plain, lexemesFrom_comment plain]
        exact behind.closes extra
      · unfold lexemesBehind at scanned ⊢
        rwa [lexemesFrom_comment plain] at scanned
  | row split isRow joins => exact follows_line isRow split joins
  | choice split isRow joins => exact follows_line isRow split joins
  | header split isRow joins =>
      rw [List.append_assoc]
      exact follows_line isRow split joins

/-- **The lines of complete tokens lead to the place behind them.** -/
theorem exists_leads_of_emitAll {generator last : Generator} {tokens : List Token}
    {fragments : List Text} (emitted : generator.emitAll tokens = .ok (fragments, last))
    (complete : ∀ token ∈ tokens, token.IsComplete)
    (place : IsPlace generator.blocks heads first openers) :
    ∃ unified kept start inner, Unifies fragments.flatten unified ∧
      Leads edit bound unified first openers start inner ∧ IsPlace last.blocks kept start inner := by
  induction tokens generalizing generator fragments heads first openers with
  | nil =>
      cases emitted
      exact ⟨[], heads, first, openers, unifies_nil, .refl, place⟩
  | cons token tokens ih =>
      obtain ⟨isFirst, later⟩ := List.forall_mem_cons.mp complete
      obtain ⟨fragment, blocks, others, emittedFirst, emittedLater, rfl⟩ := emitAll_cons.mp emitted
      obtain ⟨unified, unifies, lays⟩ := exists_lays_of_emit emittedFirst isFirst
      obtain ⟨kept, start, inner, leads, placeBehind⟩ := lays.exists_leads place
      obtain ⟨further, final, stop, open_, unifiesLater, leadsLater, placeLast⟩ :=
        ih emittedLater later placeBehind
      exact ⟨_, final, stop, open_, unifies.append unifiesLater, leads.trans leadsLater, placeLast⟩

/-- The line behind the body follows it. -/
theorem follows_epilogue : Follows 1 epilogue := by
  have isRow : IsRowLine RenderLine.finish.content (.keyword .returnWord)
      RenderLine.finish.lexemes.tail := by
    refine ⟨RenderLine.finish.isLogicalLine, ?_, fun same => nomatch same⟩
    unfold Inline
    decide
  have whole : epilogue = lineAt (([] : List OpenBlock).length + 1) RenderLine.finish.content ++ [] := by
    rw [List.append_nil]
    decide
  rw [whole]
  have follows : Follows (([] : List OpenBlock).length + 1)
      (lineAt (([] : List OpenBlock).length + 1) RenderLine.finish.content ++ []) :=
    @follows_line [] [] [] _ _ _ [] isRow rfl fun joins => nomatch joins
  exact follows

/-- **The lines of complete tokens follow the place in front of them**, when no block is open behind
them. -/
theorem exists_follows_of_emitAll {generator : Generator} {tokens : List Token}
    {fragments : List Text} {names : List Name}
    (emitted : generator.emitAll tokens = .ok (fragments, ⟨[], names⟩))
    (complete : ∀ token ∈ tokens, token.IsComplete) :
    ∃ unified, Unifies fragments.flatten unified ∧
      Follows (generator.blocks.length + 1) (unified ++ epilogue) := by
  induction tokens generalizing generator fragments with
  | nil =>
      cases emitted
      exact ⟨[], unifies_nil, follows_epilogue⟩
  | cons token tokens ih =>
      obtain ⟨isFirst, later⟩ := List.forall_mem_cons.mp complete
      obtain ⟨fragment, blocks, others, emittedFirst, emittedLater, rfl⟩ := emitAll_cons.mp emitted
      obtain ⟨unified, unifies, lays⟩ := exists_lays_of_emit emittedFirst isFirst
      obtain ⟨further, unifiesLater, follows⟩ := ih emittedLater later
      refine ⟨_, unifies.append unifiesLater, ?_⟩
      rw [List.append_assoc]
      exact lays.follows follows

end Stencil
