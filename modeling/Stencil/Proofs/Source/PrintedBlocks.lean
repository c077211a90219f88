import Stencil.Proofs.Source.CodeLine
import Stencil.Proofs.Source.Fragments

/-! # Blocks as they are printed

Directives that open, continue and close blocks make up items (`Stencil.Item`): a chain such as a
condition with its branches, or a choice by shape with its cases, and in each of their sections
other items, to any depth. An item is printed section by section, each inside its own header
(`Stencil.Item.printed`). Its tokens are emitted one by one, with no more than a stack of open
blocks to go by, and they become just that text and leave the stack as it was
(`Stencil.exists_emitAll_item`).
-/

namespace Stencil

open Source Text

/-- Where a directive stands, and the spaces and tabulators between its markers and its text. -/
structure Placement extends Padding where
  offset : Nat

/-- The token of a directive, with its text in normal form. -/
def Placement.token (place : Placement) (kind : TokenKind) (content : Text) : Token :=
  ⟨kind, place.around (normalize content), place.offset⟩

/-- A line that neither opens, continues nor closes a block. -/
structure PlainLine extends CodeLine where
  noHeader : endsIn (text ":") content = false
  noEnd : content ≠ endWord
  noContinuation : leadingWord content ∉ continuationWords
  noCase : leadingWord content ≠ text "case"

/-- A header that begins with some word. -/
structure HeaderLine (isWord : Text → Prop) extends CodeLine where
  isHeader : endsIn (text ":") content = true
  isWord_leadingWord : isWord (leadingWord content)

/-- The words that a chain begins with: all but those that need a block around them, and that of a
choice. -/
def BeginsChain (word : Text) : Prop :=
  word ∉ continuationWords ∧ word ≠ text "case" ∧ word ≠ text "match"

/-- The words that a chain goes on with. -/
def ContinuesChain (word : Text) : Prop := word ∈ continuationWords

/-- The word of a choice by shape. -/
def BeginsChoice (word : Text) : Prop := word = text "match"

/-- The word of a case. -/
def BeginsCase (word : Text) : Prop := word = text "case"

mutual

/-- Tokens that belong together. -/
inductive Item : Type where
  | literal (raw : Text) (offset : Nat)
  | expression (written : Text) (place : Placement)
  | statement (line : PlainLine) (place : Placement)
  | chain (sections : Sections BeginsChain ContinuesChain) (closing : Placement)
  /-- A choice by shape with its cases, and the end of both. -/
  | choice (header : HeaderLine BeginsChoice) (place : Placement)
      (cases : Sections BeginsCase BeginsCase) (closing : Placement)

/-- One section or more. The first header begins with one word and the others with another one. -/
inductive Sections : (Text → Prop) → (Text → Prop) → Type where
  | last {isFirst isNext : Text → Prop} (header : HeaderLine isFirst) (place : Placement)
      (body : List Item) : Sections isFirst isNext
  | more {isFirst isNext : Text → Prop} (header : HeaderLine isFirst) (place : Placement)
      (body : List Item) (others : Sections isNext isNext) : Sections isFirst isNext

end

mutual

/-- The tokens of an item. -/
def Item.tokens : Item → List Token
  | .literal raw offset => [⟨.literal, normalize raw, offset⟩]
  | .expression written place => [place.token .expression written]
  | .statement line place => [place.token .control line.content]
  | .chain sections closing => sections.tokens ++ [closing.token .control endWord]
  | .choice header place cases closing =>
      place.token .control header.content :: (cases.tokens ++ [closing.token .control endWord])

/-- The tokens of several sections. -/
def Sections.tokens {isFirst isNext : Text → Prop} : Sections isFirst isNext → List Token
  | .last header place body => place.token .control header.content :: itemsTokens body
  | .more header place body others =>
      place.token .control header.content :: (itemsTokens body ++ others.tokens)

/-- The tokens of several items. -/
def itemsTokens : List Item → List Token
  | [] => []
  | first :: rest => first.tokens ++ itemsTokens rest

end

/-- A header with the statement that its block begins with. -/
def printedHeader (depth : Nat) (header : Text) : Text :=
  bodyLine depth header ++ bodyLine (depth + 1) (text "pass")

mutual

/-- An item as it is printed inside a number of blocks. -/
def Item.printed (depth : Nat) : Item → Text
  | .literal raw _ => bodyLine depth (appendCall (quoteLiteral (normalize raw)))
  | .expression written _ =>
      bodyLine depth (appendCall (text "_str(" ++ strip written ++ text ")"))
  | .statement line _ => bodyLine depth line.content
  | .chain sections _ => sections.printed depth
  | .choice header _ cases _ => bodyLine depth header.content ++ cases.printed (depth + 1)

/-- Sections as they are printed one below the other. -/
def Sections.printed {isFirst isNext : Text → Prop} (depth : Nat) :
    Sections isFirst isNext → Text
  | .last header _ body => printedHeader depth header.content ++ itemsPrinted (depth + 1) body
  | .more header _ body others =>
      printedHeader depth header.content ++
        (itemsPrinted (depth + 1) body ++ others.printed depth)

/-- Items as they are printed one below the other. -/
def itemsPrinted (depth : Nat) : List Item → Text
  | [] => []
  | first :: rest => first.printed depth ++ itemsPrinted depth rest

end

variable {blocks outer : List OpenBlock} {isFirst isNext inside : Text → Prop}

theorem prints_expression (written : Text) (place : Placement) :
    Prints blocks [place.token .expression written]
      (bodyLine blocks.length (appendCall (text "_str(" ++ strip written ++ text ")"))) blocks := by
  refine .single ?_
  unfold Placement.token Source.emit
  dsimp only
  rw [place.restore_around, place.strip_around]

theorem PlainLine.prints (line : PlainLine) (place : Placement) :
    Prints blocks [place.token .control line.content] (bodyLine blocks.length line.content)
      blocks := by
  refine .single ?_
  change emitControl (place.around (normalize line.content)) blocks = _
  rw [line.emitControl_around place.toPadding line.noEnd,
    leaveContinued_of_first line.noContinuation line.noCase]
  exact congrArg Except.ok (line.emitLines_statement line.noHeader)

namespace HeaderLine

variable (header : HeaderLine isFirst) (place : Placement)

theorem content_ne_endWord : header.content ≠ endWord := by
  intro isEnd
  have ends := header.isHeader
  rw [isEnd] at ends
  cases ends

/-- A header opens its block where the block is left that it goes on with. -/
theorem emit_token (noChoice : leadingWord header.content ≠ text "match")
    (leaves : leaveContinued header.content blocks = .ok outer) :
    Source.emit (place.token .control header.content) blocks =
      .ok (printedHeader outer.length header.content, header.opened :: outer) := by
  change emitControl (place.around (normalize header.content)) blocks = _
  rw [header.emitControl_around place.toPadding header.content_ne_endWord, leaves]
  exact congrArg Except.ok (header.emitLines_header header.isHeader noChoice)

end HeaderLine

theorem emit_choiceToken (header : HeaderLine BeginsChoice) (place : Placement) :
    Source.emit (place.token .control header.content) blocks =
      .ok (bodyLine blocks.length header.content, header.opened :: blocks) := by
  have isChoice : leadingWord header.content = text "match" := header.isWord_leadingWord
  have stays : leaveContinued header.content blocks = .ok blocks :=
    leaveContinued_of_first (by rw [isChoice]; decide) (by rw [isChoice]; decide)
  change emitControl (place.around (normalize header.content)) blocks = _
  rw [header.emitControl_around place.toPadding header.content_ne_endWord, stays]
  exact congrArg Except.ok (header.emitLines_choice header.isHeader isChoice)

theorem prints_end (closing : Placement) (closes : closeBlock blocks = .ok outer) :
    Prints blocks [closing.token .control endWord] [] outer := by
  refine .single ?_
  change emitControl (closing.around (normalize endWord)) blocks = _
  rw [closing.emitControl_end, closes]
  rfl

/-- Headers of some words stand behind blocks of other words, and they leave these. -/
structure StandsBehind (isNext inside : Text → Prop) : Prop where
  leaves : ∀ {line : Text} {innermost : OpenBlock} {outer : List OpenBlock},
    isNext (leadingWord line) → inside innermost.keyword →
      leaveContinued line (innermost :: outer) = .ok outer
  inside_of_next : ∀ {word : Text}, isNext word → inside word
  noChoice : ∀ {word : Text}, inside word → word ≠ text "match"

theorem standsBehind_continuation :
    StandsBehind ContinuesChain fun word => word ≠ text "case" ∧ word ≠ text "match" where
  leaves continues _ := leaveContinued_of_continuation continues
  inside_of_next continues := by
    constructor <;> (rintro rfl; exact absurd continues (by unfold ContinuesChain; decide))
  noChoice isInside := isInside.2

theorem standsBehind_case : StandsBehind BeginsCase BeginsCase where
  leaves isCase inCase :=
    (leaveContinued_of_case isCase).trans (congrArg Except.ok (if_pos inCase))
  inside_of_next := id
  noChoice isCase isChoice := absurd (isCase.symm.trans isChoice) (by decide)

mutual

/-- **An item becomes the text that it is printed as**, and the same blocks are open behind it. -/
theorem Item.prints : ∀ (item : Item) (blocks : List OpenBlock),
    Prints blocks item.tokens (item.printed blocks.length) blocks
  | .literal _ _, _ => .single rfl
  | .expression written place, _ => prints_expression written place
  | .statement line place, _ => line.prints place
  | .chain sections closing, blocks => by
      obtain ⟨last, ⟨noCase, -⟩, printed⟩ := sections.prints blocks blocks standsBehind_continuation
        (fun begins => leaveContinued_of_first begins.1 begins.2.1) fun begins => begins.2
      have whole := printed.append (prints_end closing (closeBlock_of_noCase noCase))
      rwa [List.append_nil] at whole
  | .choice header place cases closing, blocks => by
      -- The first case stands inside the choice, and the end of the last one closes both.
      have isChoice : header.opened.keyword = text "match" := header.isWord_leadingWord
      have noCase : header.opened.keyword ≠ text "case" := by rw [isChoice]; decide
      obtain ⟨last, isCase, printed⟩ := cases.prints (header.opened :: blocks)
        (header.opened :: blocks) standsBehind_case
        (fun isCase => by rw [leaveContinued_of_case isCase, if_neg noCase]) id
      have whole := printed.append (prints_end closing (closeBlock_of_case isCase isChoice))
      rw [List.append_nil] at whole
      exact .cons (emit_choiceToken header place) whole

/-- Sections become the text that they are printed as. The block of the last one is open behind
them. -/
theorem Sections.prints {isFirst isNext inside : Text → Prop} :
    ∀ (sections : Sections isFirst isNext) (blocks outer : List OpenBlock),
      StandsBehind isNext inside →
      (∀ {line : Text}, isFirst (leadingWord line) → leaveContinued line blocks = .ok outer) →
      (∀ {word : Text}, isFirst word → inside word) →
      ∃ last : OpenBlock, inside last.keyword ∧
        Prints blocks sections.tokens (sections.printed outer.length) (last :: outer)
  | .last header place body, blocks, outer, behind, leaves, insideOfFirst => by
      have isInside := insideOfFirst header.isWord_leadingWord
      have emitted := header.emit_token place (behind.noChoice isInside)
        (leaves header.isWord_leadingWord)
      exact ⟨header.opened, isInside, .cons emitted (prints_items body (header.opened :: outer))⟩
  | .more header place body others, blocks, outer, behind, leaves, insideOfFirst => by
      have isInside := insideOfFirst header.isWord_leadingWord
      have emitted := header.emit_token place (behind.noChoice isInside)
        (leaves header.isWord_leadingWord)
      obtain ⟨last, isLast, printed⟩ := others.prints (header.opened :: outer) outer behind
        (fun isNext => behind.leaves isNext isInside) behind.inside_of_next
      exact ⟨last, isLast,
        .cons emitted ((prints_items body (header.opened :: outer)).append printed)⟩

/-- Items become the text that they are printed as, one below the other. -/
theorem prints_items : ∀ (items : List Item) (blocks : List OpenBlock),
    Prints blocks (itemsTokens items) (itemsPrinted blocks.length items) blocks
  | [], _ => .nil
  | first :: rest, blocks => (first.prints blocks).append (prints_items rest blocks)

end

/-- **Blocks are printed as they are nested.** From any state of the generator, the tokens of an
item are emitted without a fault, the state behind them is the same, and the fragments are the text
of the item, printed inside as many blocks as are open. -/
theorem exists_emitAll_item (item : Item) (generator : Generator) :
    ∃ fragments, generator.emitAll item.tokens = .ok (fragments, generator) ∧
      fragments.flatten = item.printed generator.depth :=
  item.prints generator.blocks generator.names

-- A choice inside a case: two ends close four blocks.
example :
    let place : Placement := ⟨⟨text " ", text " ", by decide, by decide⟩, 0⟩
    let choice : HeaderLine BeginsChoice :=
      ⟨⟨text "match x:", by decide, by decide, by decide, by decide⟩, by decide, rfl⟩
    let case : HeaderLine BeginsCase :=
      ⟨⟨text "case _:", by decide, by decide, by decide, by decide⟩, by decide, rfl⟩
    let inner : Item := .choice choice place (.last case place [.literal (text "a") 0]) place
    let outer : Item := .choice choice place (.last case place [inner]) place
    outer.tokens.map Token.content = [text " match x: ", text " case _: ", text " match x: ",
        text " case _: ", text "a", text " end ", text " end "] ∧
      outer.printed 0 = text ("    match x:\n        case _:\n            pass\n" ++
        "            match x:\n                case _:\n                    pass\n" ++
        "                    _append('a')\n") := by
  decide +kernel

end Stencil
