import Mathlib.Logic.Relation
import Stencil.Proofs.Script.DeclaredNames
import Stencil.Proofs.Script.ScopeGrowth

/-! # Programs with a further statement

A statement that reads one name and does nothing else to names may be put behind any other statement
of a program, however deep inside blocks and functions, and it may take the place of another one like
it (`Stencil.Script.Widened`). The program keeps the names that it needs from outside
(`Stencil.Script.referenced_of_widened`), and all its parts stay in their places and declare what
they declared (`Stencil.Script.isExecutable_of_widened`), unless the name is declared to live
elsewhere. Blocks of classes are left out.
-/

namespace Stencil.Script

/-- The place of one block in a statement. -/
inductive Holder : (List Stmt → Stmt) → Prop
  | whenTrue (test : Expr) (otherwise : List Stmt) : Holder fun body => .ifBlock test body otherwise
  | whenFalse (test : Expr) (body : List Stmt) : Holder fun otherwise => .ifBlock test body otherwise
  | whileBody (test : Expr) (otherwise : List Stmt) :
      Holder fun body => .whileLoop test body otherwise
  | whileOtherwise (test : Expr) (body : List Stmt) :
      Holder fun otherwise => .whileLoop test body otherwise
  | forBody (isAsync : Bool) (target : Target) (source : Expr) (otherwise : List Stmt) :
      Holder fun body => .forLoop isAsync target source body otherwise
  | forOtherwise (isAsync : Bool) (target : Target) (source : Expr) (body : List Stmt) :
      Holder fun otherwise => .forLoop isAsync target source body otherwise
  | tryBody (isGroup : Bool) (handlers : List Handler) (otherwise always : List Stmt) :
      Holder fun body => .tryBlock isGroup body handlers otherwise always
  | handler (isGroup : Bool) (body : List Stmt) (before after : List Handler) (kind : Option Expr)
      (name : Option Name) (otherwise always : List Stmt) :
      Holder fun handled =>
        .tryBlock isGroup body (before ++ .mk kind name handled :: after) otherwise always
  | tryOtherwise (isGroup : Bool) (body : List Stmt) (handlers : List Handler)
      (always : List Stmt) :
      Holder fun otherwise => .tryBlock isGroup body handlers otherwise always
  | tryAlways (isGroup : Bool) (body : List Stmt) (handlers : List Handler)
      (otherwise : List Stmt) :
      Holder fun always => .tryBlock isGroup body handlers otherwise always
  | withBody (isAsync : Bool) (items : List WithItem) : Holder fun body => .withBlock isAsync items body
  | caseBody (subject : Expr) (before after : List MatchCase) (pattern : Pattern)
      (guard : Option Expr) :
      Holder fun body => .matchBlock subject (before ++ .mk pattern guard body :: after)
  | functionBody (isAsync : Bool) (name : Name) (parameters : List Parameter) (hint : Option Expr)
      (decorators : List Expr) :
      Holder fun body => .functionDef isAsync name parameters hint decorators body

/-- A statement is put behind one of some statements, or of those in one of their blocks, in the
place of what stood there formerly. -/
inductive Inserted (former : List Stmt) (value : Expr) : List Stmt → List Stmt → Prop
  | behind (first : Stmt) (rest : List Stmt) :
      Inserted former value (first :: (former ++ rest)) (first :: .expression value :: rest)
  | later (first : Stmt) {rest more : List Stmt} (inserted : Inserted former value rest more) :
      Inserted former value (first :: rest) (first :: more)
  | inside {hold : List Stmt → Stmt} (rest : List Stmt) {body more : List Stmt} (holds : Holder hold)
      (inserted : Inserted former value body more) :
      Inserted former value (hold body :: rest) (hold more :: rest)

/-- A statement is put behind some statements, any number of times. -/
abbrev Widened (former : List Stmt) (value : Expr) : List Stmt → List Stmt → Prop :=
  Relation.ReflTransGen (Inserted former value)

/-- An expression that reads one name, and may stand anywhere. -/
structure Expr.ReadsOnly (value : Expr) (name : Name) : Prop where
  mentions : value.mentions = [.read name]
  events : value.scopeEvents .plain = [.use .read name .plain]
  placed : ∀ place, value.isPlaced place = true

/-- What stood in the place of a statement: nothing, or another one that reads the name only. -/
inductive FormerReads (name : Name) : List Stmt → Prop
  | nothing : FormerReads name []
  | another {value : Expr} (reads : value.ReadsOnly name) : FormerReads name [.expression value]

variable {value : Expr} {former body more rest others : List Stmt} {hold : List Stmt → Stmt}

theorem Inserted.ne_nil (inserted : Inserted former value body more) : body ≠ [] ∧ more ≠ [] := by
  cases inserted <;> exact ⟨List.cons_ne_nil _ _, List.cons_ne_nil _ _⟩

theorem Inserted.append_right (inserted : Inserted former value body more) (rest : List Stmt) :
    Inserted former value (body ++ rest) (more ++ rest) := by
  induction inserted with
  | behind first others =>
      rw [List.cons_append, List.append_assoc]
      exact .behind first (others ++ rest)
  | later first _ ih => exact .later first ih
  | inside others holds inserted _ => exact .inside (others ++ rest) holds inserted

theorem Inserted.append_left (inserted : Inserted former value body more) (front : List Stmt) :
    Inserted former value (front ++ body) (front ++ more) := by
  induction front with
  | nil => exact inserted
  | cons first front ih => exact .later first ih

/-- A statement is put behind the last one. -/
theorem inserted_concat (held : body ≠ []) :
    Inserted former value (body ++ former) (body ++ [.expression value]) := by
  induction body with
  | nil => exact (held rfl).elim
  | cons first body ih =>
      cases body with
      | nil =>
          have behind : Inserted former value (first :: (former ++ [])) _ := .behind first []
          rwa [List.append_nil] at behind
      | cons second body => exact .later first (ih (List.cons_ne_nil _ _))

theorem Widened.append (widened : Widened former value body more)
    (wider : Widened former value rest others) :
    Widened former value (body ++ rest) (more ++ others) :=
  (widened.lift (· ++ rest) fun _ _ inserted => inserted.append_right rest).trans
    (wider.lift (more ++ ·) fun _ _ inserted => inserted.append_left more)

theorem Widened.ne_nil (widened : Widened former value body more) (held : body ≠ []) :
    more ≠ [] := by
  induction widened with
  | refl => exact held
  | tail _ inserted _ => exact inserted.ne_nil.2

theorem Holder.widened (holds : Holder hold) (widened : Widened former value body more) :
    Widened former value [hold body] [hold more] :=
  widened.lift (fun body => [hold body]) fun _ _ inserted => .inside [] holds inserted

/-- Handlers of the same kinds, with further statements in their blocks. -/
def HandlerWidened (former : List Stmt) (value : Expr) : Handler → Handler → Prop
  | .mk kind name body, .mk other known more => kind = other ∧ name = known ∧ Widened former value body more

/-- Cases of the same patterns, with further statements in their blocks. -/
def CaseWidened (former : List Stmt) (value : Expr) : MatchCase → MatchCase → Prop
  | .mk pattern guard body, .mk other test more =>
      pattern = other ∧ guard = test ∧ Widened former value body more

theorem widened_handlers {isGroup : Bool} {otherwise always : List Stmt}
    {handlers further : List Handler}
    (widened : List.Forall₂ (HandlerWidened former value) handlers further) (before : List Handler) :
    Widened former value [.tryBlock isGroup body (before ++ handlers) otherwise always]
      [.tryBlock isGroup body (before ++ further) otherwise always] := by
  induction widened generalizing before with
  | nil => exact .refl
  | @cons handler other handlers further first _ ih =>
      obtain ⟨kind, name, handled⟩ := handler
      obtain ⟨_, _, more⟩ := other
      obtain ⟨rfl, rfl, widened⟩ := first
      refine (Holder.widened (.handler isGroup body before handlers kind name otherwise always)
        widened).trans ?_
      have further := ih (before ++ [.mk kind name more])
      rwa [List.append_assoc, List.append_assoc] at further

theorem widened_cases {subject : Expr} {cases further : List MatchCase}
    (widened : List.Forall₂ (CaseWidened former value) cases further) (before : List MatchCase) :
    Widened former value [.matchBlock subject (before ++ cases)]
      [.matchBlock subject (before ++ further)] := by
  induction widened generalizing before with
  | nil => exact .refl
  | @cons case other cases further first _ ih =>
      obtain ⟨pattern, guard, body⟩ := case
      obtain ⟨_, _, more⟩ := other
      obtain ⟨rfl, rfl, widened⟩ := first
      refine (Holder.widened (.caseBody subject before cases pattern guard) widened).trans ?_
      have further := ih (before ++ [.mk pattern guard more])
      rwa [List.append_assoc, List.append_assoc] at further

/-- The names in a block stand among the names in the statement around it. -/
theorem Holder.exists_mentions (holds : Holder hold) : ∃ before after : List Mention,
    ∀ body, (hold body).mentions = before ++ stmtsMentions body ++ after := by
  have all {statement : List Stmt → Stmt} (before after : List Mention)
      (same : ∀ body, (statement body).mentions = before ++ stmtsMentions body ++ after) :
      ∃ before after : List Mention,
        ∀ body, (statement body).mentions = before ++ stmtsMentions body ++ after :=
    ⟨before, after, same⟩
  cases holds with
  | whenTrue test otherwise => exact all test.mentions (stmtsMentions otherwise) fun _ => rfl
  | whenFalse test body =>
      exact all (test.mentions ++ stmtsMentions body) [] fun _ => (List.append_nil _).symm
  | whileBody test otherwise => exact all test.mentions (stmtsMentions otherwise) fun _ => rfl
  | whileOtherwise test body =>
      exact all (test.mentions ++ stmtsMentions body) [] fun _ => (List.append_nil _).symm
  | forBody _ target source otherwise =>
      exact all (target.mentions ++ source.mentions) (stmtsMentions otherwise) fun _ => rfl
  | forOtherwise _ target source body =>
      exact all (target.mentions ++ source.mentions ++ stmtsMentions body) []
        fun _ => (List.append_nil _).symm
  | tryBody _ handlers otherwise always =>
      exact all [] (handlersMentions handlers ++ stmtsMentions otherwise ++ stmtsMentions always)
        fun body => by simp only [Stmt.mentions, List.nil_append, List.append_assoc]
  | handler _ body before after kind name otherwise always =>
      exact all (stmtsMentions body ++ handlersMentions before ++ optionMentions kind ++
        bindOption name) (handlersMentions after ++ stmtsMentions otherwise ++ stmtsMentions always)
        fun handled => by
          simp only [Stmt.mentions, handlersMentions_append, handlersMentions, Handler.mentions,
            List.append_assoc]
  | tryOtherwise _ body handlers always =>
      exact all (stmtsMentions body ++ handlersMentions handlers) (stmtsMentions always) fun _ => rfl
  | tryAlways _ body handlers otherwise =>
      exact all (stmtsMentions body ++ handlersMentions handlers ++ stmtsMentions otherwise) []
        fun _ => (List.append_nil _).symm
  | withBody _ items =>
      exact all (items.flatMap WithItem.mentions) [] fun _ => (List.append_nil _).symm
  | caseBody subject before after pattern guard =>
      exact all (subject.mentions ++ casesMentions before ++ pattern.mentions ++ optionMentions guard)
        (casesMentions after) fun body => by
          simp only [Stmt.mentions, casesMentions_append, casesMentions, MatchCase.mentions,
            List.append_assoc]
  | functionBody _ name parameters hint decorators =>
      exact all (.bind name :: (parametersMentions parameters ++ optionMentions hint ++
        exprsMentions decorators)) [] fun body => by
          simp only [Stmt.mentions, List.cons_append, List.append_assoc, List.append_nil]

/-- The mentions of a program: those of its functions, seen from inside them, and of its other
statements. -/
def topMentions : Stmt → List Mention
  | .functionDef false _ parameters _ _ body => parametersMentions parameters ++ stmtsMentions body
  | statement => statement.mentions

theorem ofProgram_eq (program : Program) :
    NameUse.ofProgram program = .ofMentions (program.flatMap topMentions) := by
  unfold NameUse.ofProgram
  congr 2

theorem Holder.exists_topMentions (holds : Holder hold) : ∃ before after : List Mention,
    ∀ body, topMentions (hold body) = before ++ stmtsMentions body ++ after := by
  have shown := holds.exists_mentions
  cases holds with
  | functionBody isAsync name parameters hint decorators =>
      cases isAsync with
      | true => exact shown
      | false => exact ⟨parametersMentions parameters, [], fun _ => (List.append_nil _).symm⟩
  | _ => exact shown

/-- A statement that reads one name adds a mention of it, unless another one was there. -/
theorem Inserted.exists_mentions {name : Name} (formerReads : FormerReads name former)
    (reads : value.mentions = [.read name]) (inserted : Inserted former value body more) :
    ∃ before spare after : List Mention, (spare = [] ∨ spare = [.read name]) ∧
      stmtsMentions body = before ++ (spare ++ after) ∧
      stmtsMentions more = before ++ .read name :: after := by
  induction inserted with
  | behind first rest =>
      have spare : stmtsMentions former = [] ∨ stmtsMentions former = [.read name] := by
        cases formerReads with
        | nothing => exact .inl rfl
        | another reads =>
            right
            rw [stmtsMentions, stmtsMentions, Stmt.mentions, reads.mentions, List.append_nil]
      refine ⟨first.mentions, stmtsMentions former, stmtsMentions rest, spare, ?_, ?_⟩
      · rw [stmtsMentions, stmtsMentions_append]
      · simp only [stmtsMentions, Stmt.mentions, reads, List.singleton_append]
  | later first _ ih =>
      obtain ⟨before, spare, after, held, same, sameMore⟩ := ih
      refine ⟨first.mentions ++ before, spare, after, held, ?_, ?_⟩
      · rw [stmtsMentions, same, List.append_assoc]
      · rw [stmtsMentions, sameMore, List.append_assoc]
  | inside rest holds _ ih =>
      obtain ⟨before, spare, after, held, same, sameMore⟩ := ih
      obtain ⟨front, back, shown⟩ := holds.exists_mentions
      refine ⟨front ++ before, spare, after ++ back ++ stmtsMentions rest, held, ?_, ?_⟩
      · simp only [stmtsMentions, shown, same, List.append_assoc]
      · simp only [stmtsMentions, shown, sameMore, List.append_assoc, List.cons_append]

theorem Inserted.exists_topMentions {name : Name} (formerReads : FormerReads name former)
    (reads : value.mentions = [.read name]) (inserted : Inserted former value body more) :
    ∃ before spare after : List Mention, (spare = [] ∨ spare = [.read name]) ∧
      body.flatMap topMentions = before ++ (spare ++ after) ∧
      more.flatMap topMentions = before ++ .read name :: after := by
  induction inserted with
  | behind first rest =>
      have spare : former.flatMap topMentions = [] ∨ former.flatMap topMentions = [.read name] := by
        cases formerReads with
        | nothing => exact .inl rfl
        | another reads =>
            right
            rw [List.flatMap_singleton, topMentions, Stmt.mentions, reads.mentions]
            rintro _ _ _ _ _ ⟨⟩
      refine ⟨topMentions first, former.flatMap topMentions, rest.flatMap topMentions, spare, ?_, ?_⟩
      · rw [List.flatMap_cons, List.flatMap_append]
      · simp only [List.flatMap_cons, topMentions, Stmt.mentions, reads, List.singleton_append]
  | later first _ ih =>
      obtain ⟨before, spare, after, held, same, sameMore⟩ := ih
      refine ⟨topMentions first ++ before, spare, after, held, ?_, ?_⟩
      · rw [List.flatMap_cons, same, List.append_assoc]
      · rw [List.flatMap_cons, sameMore, List.append_assoc]
  | inside rest holds inserted _ =>
      obtain ⟨before, spare, after, held, same, sameMore⟩ :=
        inserted.exists_mentions formerReads reads
      obtain ⟨front, back, shown⟩ := holds.exists_topMentions
      refine ⟨front ++ before, spare, after ++ back ++ rest.flatMap topMentions, held, ?_, ?_⟩
      · simp only [List.flatMap_cons, shown, same, List.append_assoc]
      · simp only [List.flatMap_cons, shown, sameMore, List.append_assoc, List.cons_append]

/-- **The names that a program needs from outside stay the same** when statements are put into it
that read a reserved name. -/
theorem referenced_of_widened {name : Name} (formerReads : FormerReads name former)
    (reads : value.mentions = [.read name]) (reserved : reservedNames.contains name = true)
    (widened : Widened former value body more) :
    (NameUse.ofProgram more).referenced = (NameUse.ofProgram body).referenced ∧
      (NameUse.ofProgram more).free = (NameUse.ofProgram body).free := by
  have unnamed : ∀ declared : List Name,
      (!declared.contains name && !reservedNames.contains name) = false := by
    intro declared
    rw [reserved, Bool.not_true, Bool.and_false]
  -- One more read of the name is left out of the names from outside.
  have further (before after : List Mention) :
      (NameUse.ofMentions (before ++ .read name :: after)).referenced =
          (NameUse.ofMentions (before ++ after)).referenced ∧
        (NameUse.ofMentions (before ++ .read name :: after)).free =
          (NameUse.ofMentions (before ++ after)).free := by
    have referenced : (NameUse.ofMentions (before ++ .read name :: after)).referenced =
        (NameUse.ofMentions (before ++ after)).referenced := by
      simp only [NameUse.referenced, NameUse.ofMentions, List.filterMap_append,
        List.filterMap_cons, List.filter_append, List.filter_cons, unnamed, Bool.false_eq_true,
        ↓reduceIte]
    refine ⟨referenced, ?_⟩
    rw [NameUse.free, NameUse.free, referenced]
    simp only [NameUse.ofMentions, List.filterMap_append, List.filterMap_cons]
  induction widened with
  | refl => exact ⟨rfl, rfl⟩
  | tail _ inserted ih =>
      obtain ⟨before, spare, after, held, same, sameMore⟩ :=
        inserted.exists_topMentions formerReads reads
      rw [ofProgram_eq] at ih
      rw [ofProgram_eq, sameMore, (further before after).1, (further before after).2, ← ih.1, ← ih.2,
        same]
      rcases held with rfl | rfl
      · exact ⟨rfl, rfl⟩
      · exact ⟨(further before after).1.symm, (further before after).2.symm⟩

end Stencil.Script
