import Mathlib.Order.MinMax
import Stencil.Proofs.Script.InsertedStatement
import Stencil.Script.WalkDepth

/-! # How deep a walk goes into longer programs

A statement that is put into one of the blocks of a program takes the walk over the program as deep
as that block, and some calls deeper for the statement itself. Blocks are as deep in the program as
before, so any number of such statements take the walk no deeper than one does
(`Stencil.Script.programDepth_of_widened`).
-/

namespace Stencil.Script

variable {value : Expr} {former body more rest : List Stmt} {hold : List Stmt → Stmt}

theorem stmtsDepth_append :
    stmtsDepth (body ++ rest) = max (stmtsDepth body) (stmtsDepth rest) := by
  induction body with
  | nil => exact (Nat.zero_max _).symm
  | cons first body ih => rw [List.cons_append, stmtsDepth, stmtsDepth, ih, max_assoc]

theorem handlersDepth_append {before after : List Handler} :
    handlersDepth (before ++ after) = max (handlersDepth before) (handlersDepth after) := by
  induction before with
  | nil => exact (Nat.zero_max _).symm
  | cons first before ih => rw [List.cons_append, handlersDepth, handlersDepth, ih, max_assoc]

theorem casesDepth_append {before after : List MatchCase} :
    casesDepth (before ++ after) = max (casesDepth before) (casesDepth after) := by
  induction before with
  | nil => exact (Nat.zero_max _).symm
  | cons first before ih => rw [List.cons_append, casesDepth, casesDepth, ih, max_assoc]

mutual

/-- The greatest number of calls between a statement and one inside its blocks, but for those of
classes. -/
def Stmt.reach : Stmt → Nat
  | .ifBlock _ body otherwise | .whileLoop _ body otherwise | .forLoop _ _ _ body otherwise =>
      2 + max (stmtsReach body) (stmtsReach otherwise)
  | .tryBlock _ body handlers otherwise always =>
      2 + max (max (stmtsReach body) (handlersReach handlers))
        (max (stmtsReach otherwise) (stmtsReach always))
  | .withBlock _ _ body => 2 + stmtsReach body
  | .matchBlock _ cases => 2 + casesReach cases
  | .functionDef _ _ _ _ _ body => 3 + stmtsReach body
  | _ => 0

/-- The greatest number of calls between statements and those inside their blocks. -/
def stmtsReach : List Stmt → Nat
  | [] => 0
  | first :: rest => max first.reach (stmtsReach rest)

/-- The greatest number of calls between a `try` and the statements of its handlers. -/
def handlersReach : List Handler → Nat
  | [] => 0
  | .mk _ _ body :: rest => max (3 + stmtsReach body) (handlersReach rest)

/-- The greatest number of calls between a `match` and the statements of its cases. -/
def casesReach : List MatchCase → Nat
  | [] => 0
  | .mk _ _ body :: rest => max (2 + stmtsReach body) (casesReach rest)

end

theorem stmtsReach_append :
    stmtsReach (body ++ rest) = max (stmtsReach body) (stmtsReach rest) := by
  induction body with
  | nil => exact (Nat.zero_max _).symm
  | cons first body ih => rw [List.cons_append, stmtsReach, stmtsReach, ih, max_assoc]

theorem handlersReach_append {before after : List Handler} :
    handlersReach (before ++ after) = max (handlersReach before) (handlersReach after) := by
  induction before with
  | nil => exact (Nat.zero_max _).symm
  | cons first before ih =>
      obtain ⟨kind, name, body⟩ := first
      rw [List.cons_append, handlersReach, handlersReach, ih, max_assoc]

theorem casesReach_append {before after : List MatchCase} :
    casesReach (before ++ after) = max (casesReach before) (casesReach after) := by
  induction before with
  | nil => exact (Nat.zero_max _).symm
  | cons first before ih =>
      obtain ⟨pattern, guard, body⟩ := first
      rw [List.cons_append, casesReach, casesReach, ih, max_assoc]

mutual

/-- A statement inside a block is part of the statement around it. -/
theorem Stmt.reach_le_walkDepth : ∀ statement : Stmt, statement.reach ≤ statement.walkDepth
  | .ifBlock test body otherwise | .whileLoop test body otherwise => by
      have ihBody := stmtsReach_le body
      have ihOtherwise := stmtsReach_le otherwise
      simp only [Stmt.reach, Stmt.walkDepth, visit]
      omega
  | .forLoop isAsync target source body otherwise => by
      have ihBody := stmtsReach_le body
      have ihOtherwise := stmtsReach_le otherwise
      simp only [Stmt.reach, Stmt.walkDepth, visit]
      omega
  | .tryBlock isGroup body handlers otherwise always => by
      have ihBody := stmtsReach_le body
      have ihHandlers := handlersReach_le handlers
      have ihOtherwise := stmtsReach_le otherwise
      have ihAlways := stmtsReach_le always
      simp only [Stmt.reach, Stmt.walkDepth, visit]
      omega
  | .withBlock isAsync items body => by
      have ihBody := stmtsReach_le body
      simp only [Stmt.reach, Stmt.walkDepth, visit]
      omega
  | .matchBlock subject cases => by
      have ihCases := casesReach_le cases
      simp only [Stmt.reach, Stmt.walkDepth, visit]
      omega
  | .functionDef isAsync name parameters hint decorators body => by
      have ihBody := stmtsReach_le body
      simp only [Stmt.reach, Stmt.walkDepth, visitOwn]
      omega
  | .expression _ | .assign _ _ | .augment _ _ _ | .hinted _ _ _ _ | .returnValue _ | .delete _
  | .raise _ _ | .assert _ _ | .pass | .breakLoop | .continueLoop | .importModules _
  | .importNames _ _ _ | .importAll _ _ | .globalNames _ | .nonlocalNames _
  | .classDef _ _ _ _ _ => Nat.zero_le _

theorem stmtsReach_le : ∀ body : List Stmt, stmtsReach body ≤ stmtsDepth body
  | [] => Nat.le_refl 0
  | first :: rest => max_le_max first.reach_le_walkDepth (stmtsReach_le rest)

theorem handlersReach_le : ∀ handlers : List Handler,
    handlersReach handlers ≤ handlersDepth handlers
  | [] => Nat.le_refl 0
  | .mk kind name body :: rest => by
      have ihBody := stmtsReach_le body
      have ih := handlersReach_le rest
      simp only [handlersReach, handlersDepth, Handler.walkDepth, visitOwn]
      omega

theorem casesReach_le : ∀ cases : List MatchCase, casesReach cases ≤ casesDepth cases
  | [] => Nat.le_refl 0
  | .mk pattern guard body :: rest => by
      have ihBody := stmtsReach_le body
      have ih := casesReach_le rest
      simp only [casesReach, casesDepth, MatchCase.walkDepth, visit]
      omega

end

theorem visit_max {below deeper : Nat} : visit (max below deeper) = max (visit below) (2 + deeper) := by
  unfold visit
  omega

theorem visitOwn_max {below deeper : Nat} :
    visitOwn (max below deeper) = max (visitOwn below) (3 + deeper) := by
  unfold visitOwn
  omega

/-- A handler counts for the statement around it by three calls and its place. -/
theorem handlersDepth_handler {before after : List Handler} {kind : Option Expr} {name : Option Name} :
    handlersDepth (before ++ .mk kind name body :: after) =
      max (max (handlersDepth before) (max (visitOwn (optionDepth kind)) (handlersDepth after)))
        (3 + stmtsDepth body) := by
  rw [handlersDepth_append, handlersDepth, Handler.walkDepth, visitOwn_max]
  ac_rfl

theorem handlersReach_handler {before after : List Handler} {kind : Option Expr} {name : Option Name} :
    handlersReach (before ++ .mk kind name body :: after) =
      max (max (handlersReach before) (handlersReach after)) (3 + stmtsReach body) := by
  rw [handlersReach_append, handlersReach]
  ac_rfl

theorem casesDepth_case {before after : List MatchCase} {pattern : Pattern} {guard : Option Expr} :
    casesDepth (before ++ .mk pattern guard body :: after) =
      max (max (casesDepth before) (max (visit (max pattern.walkDepth (optionDepth guard)))
        (casesDepth after))) (2 + stmtsDepth body) := by
  rw [casesDepth_append, casesDepth, MatchCase.walkDepth, ← max_assoc pattern.walkDepth, visit_max]
  ac_rfl

theorem casesReach_case {before after : List MatchCase} {pattern : Pattern} {guard : Option Expr} :
    casesReach (before ++ .mk pattern guard body :: after) =
      max (max (casesReach before) (casesReach after)) (2 + stmtsReach body) := by
  rw [casesReach_append, casesReach]
  ac_rfl

/-- A block counts for the statement around it by a number of calls, whatever it holds. -/
def CountsFor (cost : Nat) (hold : List Stmt → Stmt) : Prop :=
  ∃ depth reach, ∀ body, (hold body).walkDepth = max depth (cost + stmtsDepth body) ∧
    (hold body).reach = max reach (cost + stmtsReach body)

namespace CountsFor

/-- The statements of the block stand some calls below the nodes of the statement around it. -/
theorem of_below {beside besideReach extra : Nat}
    (depth : ∀ body, (hold body).walkDepth = visit (max beside (extra + stmtsDepth body)))
    (reach : ∀ body, (hold body).reach = 2 + max besideReach (extra + stmtsReach body)) :
    CountsFor (2 + extra) hold := by
  refine ⟨visit beside, 2 + besideReach, fun body => ⟨?_, ?_⟩⟩
  · rw [depth, visit_max, Nat.add_assoc]
  · rw [reach, ← Nat.add_max_add_left, Nat.add_assoc]

/-- The statements of the block are nodes of the statement around it. -/
theorem of_beside (beside besideReach : Nat)
    (depth : ∀ body, (hold body).walkDepth = visit (max (stmtsDepth body) beside))
    (reach : ∀ body, (hold body).reach = 2 + max (stmtsReach body) besideReach) :
    CountsFor 2 hold := by
  refine @of_below hold beside besideReach 0 (fun body => ?_) (fun body => ?_)
  · rw [depth, Nat.zero_add, max_comm]
  · rw [reach, Nat.zero_add, max_comm]

end CountsFor

/-- Every block counts for the statement around it by the same number of calls, whatever it holds. -/
theorem Holder.exists_cost (holds : Holder hold) : ∃ cost, CountsFor cost hold := by
  cases holds with
  | whenTrue test otherwise | whileBody test otherwise =>
      refine ⟨2, .of_beside (max test.walkDepth (stmtsDepth otherwise)) (stmtsReach otherwise)
        (fun body => ?_) fun _ => rfl⟩
      rw [Stmt.walkDepth, max_left_comm]
  | whenFalse test body | whileOtherwise test body =>
      refine ⟨2, .of_beside (max test.walkDepth (stmtsDepth body)) (stmtsReach body)
        (fun otherwise => ?_) fun otherwise => ?_⟩
      · rw [Stmt.walkDepth, ← max_assoc, max_comm]
      · rw [Stmt.reach, max_comm]
  | forBody isAsync target source otherwise =>
      refine ⟨2, .of_beside (max (max target.walkDepth source.walkDepth) (stmtsDepth otherwise))
        (stmtsReach otherwise) (fun body => ?_) fun _ => rfl⟩
      rw [Stmt.walkDepth, max_left_comm]
  | forOtherwise isAsync target source body =>
      refine ⟨2, .of_beside (max (max target.walkDepth source.walkDepth) (stmtsDepth body))
        (stmtsReach body) (fun otherwise => ?_) fun otherwise => ?_⟩
      · rw [Stmt.walkDepth, ← max_assoc, max_comm]
      · rw [Stmt.reach, max_comm]
  | tryBody isGroup handlers otherwise always =>
      refine ⟨2, .of_beside
        (max (handlersDepth handlers) (max (stmtsDepth otherwise) (stmtsDepth always)))
        (max (handlersReach handlers) (max (stmtsReach otherwise) (stmtsReach always)))
        (fun body => ?_) fun body => ?_⟩
      · rw [Stmt.walkDepth, max_assoc]
      · rw [Stmt.reach, max_assoc]
  | handler isGroup body before after kind name otherwise always =>
      refine ⟨2 + 3, @CountsFor.of_below _
        (max (stmtsDepth body) (max (max (handlersDepth before) (max (visitOwn (optionDepth kind))
          (handlersDepth after))) (max (stmtsDepth otherwise) (stmtsDepth always))))
        (max (stmtsReach body) (max (max (handlersReach before) (handlersReach after))
          (max (stmtsReach otherwise) (stmtsReach always)))) 3
        (fun handled => ?_) fun handled => ?_⟩
      · rw [Stmt.walkDepth, handlersDepth_handler]
        ac_rfl
      · rw [Stmt.reach, handlersReach_handler]
        ac_rfl
  | tryOtherwise isGroup body handlers always =>
      refine ⟨2, .of_beside (max (max (stmtsDepth body) (handlersDepth handlers)) (stmtsDepth always))
        (max (max (stmtsReach body) (handlersReach handlers)) (stmtsReach always))
        (fun otherwise => ?_) fun otherwise => ?_⟩
      · rw [Stmt.walkDepth, max_left_comm]
      · rw [Stmt.reach, max_left_comm]
  | tryAlways isGroup body handlers otherwise =>
      refine ⟨2, .of_beside
        (max (max (stmtsDepth body) (handlersDepth handlers)) (stmtsDepth otherwise))
        (max (max (stmtsReach body) (handlersReach handlers)) (stmtsReach otherwise))
        (fun always => ?_) fun always => ?_⟩
      · rw [Stmt.walkDepth, ← max_assoc, max_comm]
      · rw [Stmt.reach, ← max_assoc, max_comm]
  | withBody isAsync items =>
      refine ⟨2, .of_beside (withItemsDepth items) 0 (fun body => ?_) fun body => ?_⟩
      · rw [Stmt.walkDepth, max_comm]
      · rw [Stmt.reach, Nat.max_zero]
  | caseBody subject before after pattern guard =>
      refine ⟨2 + 2, @CountsFor.of_below _
        (max subject.walkDepth (max (casesDepth before)
          (max (visit (max pattern.walkDepth (optionDepth guard))) (casesDepth after))))
        (max (casesReach before) (casesReach after)) 2 (fun body => ?_) fun body => ?_⟩
      · rw [Stmt.walkDepth, casesDepth_case]
        ac_rfl
      · rw [Stmt.reach, casesReach_case]
  | functionBody isAsync name parameters hint decorators =>
      -- A definition is looked at in a way of its own.
      refine ⟨3, visitOwn (max (max (visit (parametersDepth parameters)) (optionDepth hint))
        (exprsDepth decorators)), 0, fun body => ⟨?_, ?_⟩⟩
      · rw [← visitOwn_max, Stmt.walkDepth, max_assoc (max _ _)]
      · rw [Stmt.reach, Nat.zero_max]

/-- A statement that is put into a block takes the walk at most as deep as the blocks are, and leaves
these as deep as they were. -/
theorem Inserted.stmtsDepth_le {calls : Nat} (fits : (Stmt.expression value).walkDepth ≤ calls)
    (flat : stmtsReach former = 0) (inserted : Inserted former value body more) :
    stmtsReach more = stmtsReach body ∧
      stmtsDepth more ≤ max (stmtsDepth body) (stmtsReach body + calls) := by
  induction inserted with
  | behind first rest =>
      have isFlat : (Stmt.expression value).reach = 0 := rfl
      constructor
      · simp only [stmtsReach, stmtsReach_append, isFlat, flat]
      · simp only [stmtsDepth, stmtsDepth_append]
        omega
  | later first _ ih =>
      simp only [stmtsReach, stmtsDepth]
      omega
  | inside rest holds _ ih =>
      obtain ⟨cost, depth, reach, shown⟩ := holds.exists_cost
      simp only [stmtsReach, stmtsDepth, shown]
      omega

/-- The greatest number of calls between a statement of a program and one inside its blocks; a
function is walked over from inside it. -/
def Stmt.outerReach : Stmt → Nat
  | .functionDef false _ _ _ _ body => stmtsReach body
  | statement => statement.reach

/-- The greatest number of calls that are open where a statement of a program is begun. -/
def programReach : Program → Nat
  | [] => 0
  | first :: rest => max first.outerReach (programReach rest)

theorem Stmt.outerReach_le_outerDepth (statement : Stmt) :
    statement.outerReach ≤ statement.outerDepth := by
  have shown := statement.reach_le_walkDepth
  cases statement with
  | functionDef isAsync name parameters hint decorators body =>
      cases isAsync with
      | true => exact shown
      | false => exact le_max_of_le_right (stmtsReach_le body)
  | _ => exact shown

theorem programReach_le (program : Program) : programReach program ≤ programDepth program := by
  induction program with
  | nil => exact Nat.le_refl 0
  | cons first rest ih => exact max_le_max first.outerReach_le_outerDepth ih

theorem programDepth_append {before after : Program} :
    programDepth (before ++ after) = max (programDepth before) (programDepth after) := by
  induction before with
  | nil => exact (Nat.zero_max _).symm
  | cons first before ih => rw [List.cons_append, programDepth, programDepth, ih, max_assoc]

theorem programReach_append {before after : Program} :
    programReach (before ++ after) = max (programReach before) (programReach after) := by
  induction before with
  | nil => exact (Nat.zero_max _).symm
  | cons first before ih => rw [List.cons_append, programReach, programReach, ih, max_assoc]

/-- What a block counts for the statement of a program around it. -/
theorem Holder.exists_outerCost (holds : Holder hold) : ∃ cost depth reach, ∀ body,
    (hold body).outerDepth = max depth (cost + stmtsDepth body) ∧
      (hold body).outerReach = max reach (cost + stmtsReach body) := by
  have shown := holds.exists_cost
  cases holds with
  | functionBody isAsync name parameters hint decorators =>
      cases isAsync with
      | true => exact shown
      | false =>
          refine ⟨0, visit (parametersDepth parameters), 0, fun body => ⟨?_, ?_⟩⟩
          · rw [Nat.zero_add, Stmt.outerDepth]
          · rw [Nat.zero_add, Nat.zero_max, Stmt.outerReach]
  | _ => exact shown

/-- A statement that is put into a program takes the walk at most as deep as the blocks are. -/
theorem Inserted.programDepth_le {calls : Nat} (fits : (Stmt.expression value).walkDepth ≤ calls)
    (flat : stmtsReach former = 0) (flatOuter : programReach former = 0)
    (inserted : Inserted former value body more) :
    programReach more = programReach body ∧
      programDepth more ≤ max (programDepth body) (programReach body + calls) := by
  induction inserted with
  | behind first rest =>
      have isFlat : (Stmt.expression value).outerReach = 0 := rfl
      have isLine : (Stmt.expression value).outerDepth = (Stmt.expression value).walkDepth := rfl
      constructor
      · simp only [programReach, programReach_append, isFlat, flatOuter]
      · simp only [programDepth, programDepth_append, isLine]
        omega
  | later first _ ih =>
      simp only [programReach, programDepth]
      omega
  | inside rest holds inserted _ =>
      obtain ⟨cost, depth, reach, shown⟩ := holds.exists_outerCost
      have bound := inserted.stmtsDepth_le fits flat
      simp only [programReach, programDepth, shown]
      omega

/-- **Any number of further statements takes the walk over a program only as much deeper as one of
them does.** -/
theorem programDepth_of_widened {calls : Nat} (fits : (Stmt.expression value).walkDepth ≤ calls)
    (flat : stmtsReach former = 0) (flatOuter : programReach former = 0)
    (widened : Widened former value body more) :
    programDepth more ≤ programDepth body + calls := by
  have both : programReach more = programReach body ∧
      programDepth more ≤ max (programDepth body) (programReach body + calls) := by
    induction widened with
    | refl => exact ⟨rfl, le_max_left _ _⟩
    | tail _ inserted ih =>
        have step := inserted.programDepth_le fits flat flatOuter
        omega
  have reach := programReach_le body
  omega

end Stencil.Script
