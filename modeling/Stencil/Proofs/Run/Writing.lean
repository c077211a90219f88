import Stencil.Proofs.Run.Iteration
import Stencil.Run.Depth
import Stencil.Script.Placement

/-! # Writing in a run

A render program collects what it writes in a list: it appends one text after the other, asks
for the text of values, and joins the texts at the end.
-/

namespace Stencil.Run

open Script

variable {engine below : Engine} {scene : Scene} {store : Store} {buffer : Address}

/-- A list with one more item. -/
def pushed (value : Value) : Object → Object
  | .list items => .list (items.push value)
  | other => other

/-- The method of a list that appends a value. -/
theorem callValue_append {value : Value} {items : Array Value}
    (holds : store.object buffer = .list items) :
    callValue engine (.method (.ref buffer) (text "append")) [value] [] store =
      .ok .nothing (store.change buffer (pushed value)) := by
  have loaded : load buffer store = .ok (.list items) store :=
    congrArg (EStateM.Result.ok · store) holds
  change (load buffer >>= _) store = _
  rw [bind_ok loaded]
  rfl

theorem attributeOf_append {items : Array Value} (holds : store.object buffer = .list items) :
    attributeOf (.ref buffer) (text "append") store =
      .ok (.method (.ref buffer) (text "append")) store := by
  have got : (get : Action Store) store = .ok store store := rfl
  have kind : (Value.ref buffer).kindIn store = .list := by
    rw [Value.kindIn, holds]
    rfl
  have noField : (Value.ref buffer).fieldIn? store (text "append") = none := by
    rw [Value.fieldIn?, holds]
  unfold attributeOf
  rw [bind_ok got]
  dsimp only
  rw [noField, kind]
  rfl

theorem attributeOf_join {separator : Text} :
    attributeOf (.string separator) (text "join") store =
      .ok (.method (.string separator) (text "join")) store := by
  rfl

/-- The text of a value, for which nothing is written for nothing. -/
theorem callValue_written {value : Value} :
    callValue engine (.builtin .written) [value] [] store =
      (Value.string <$> written value) store := by
  rfl

section

variable {callee argument : Expr} {function : Value}

/-- A call with one argument evaluates what is called and then the argument. -/
theorem evaluate_call (unstarred : argument.isStarred = false) :
    evaluate engine scene (.call callee [argument] []) = (do
      let function ← evaluate engine scene callee
      let value ← evaluate engine scene argument
      engine.call function [value] []) := by
  rw [evaluate]
  refine congrArg (evaluate engine scene callee >>= ·) (funext fun function => ?_)
  cases argument with
  | starred value => cases unstarred
  | _ => simp only [evaluateItems, evaluateNamed, bind_assoc, pure_bind]

/-- A call with a constant and an attribute. -/
theorem evaluate_call_pair {object : Expr} {constant : Constant} {field : Name} :
    evaluate engine scene (.call callee [.constant constant, .attribute object field] []) = (do
      let function ← evaluate engine scene callee
      let left ← evaluate engine scene (.constant constant)
      let right ← evaluate engine scene (.attribute object field)
      engine.call function [left, right] []) := by
  conv => lhs; unfold evaluate
  refine congrArg (evaluate engine scene callee >>= ·) (funext fun function => ?_)
  simp only [evaluateItems, evaluateNamed, bind_assoc, pure_bind]

end

/-- All values of a cursor are drained in enough rounds. -/
theorem drain_yields {iterator : Address} {values : List Value} {now : Store} {kind : Kind}
    {cursor : Cursor} {rounds : Nat} {found : Array Value}
    (holds : now.object iterator = .cursor kind cursor) (yields : cursor.Yields store values)
    (remains : store.Remains now)
    (behind : store.objects.size ≤ iterator) (within : iterator < now.objects.size)
    (enough : values.length < rounds) :
    ∃ after, drain engine (.ref iterator) rounds found now =
      .ok (found ++ values.toArray) after ∧ store.Remains after := by
  induction values generalizing now cursor rounds found with
  | nil =>
      obtain ⟨rounds, rfl⟩ := Nat.exists_eq_succ_of_ne_zero (Nat.ne_of_gt enough)
      have drawn : draw engine (.ref iterator) now = .ok none _ :=
        (draw_cursor holds).trans (yields.draw_nil remains.object_eq rfl)
      refine ⟨now.change iterator (movedTo .finished), ?_, remains.change behind⟩
      rw [drain, bind_ok drawn, Array.append_empty]
      rfl
  | cons value values ih =>
      obtain ⟨rounds, rfl⟩ := Nat.exists_eq_succ_of_ne_zero (Nat.ne_of_gt (Nat.zero_lt_of_lt enough))
      obtain ⟨next, yieldsNext, moved⟩ := yields.draw_cons remains.object_eq rfl
      have drawn : draw engine (.ref iterator) now = .ok (some value) _ :=
        (draw_cursor holds).trans moved
      have holdsNext : (now.change iterator (movedTo next)).object iterator = .cursor kind next := by
        rw [Store.object_change_self within, holds]
        rfl
      obtain ⟨after, drained, remainsAfter⟩ := ih holdsNext yieldsNext (remains.change behind)
        (Nat.lt_of_lt_of_eq within Store.size_change.symm) (Nat.lt_of_succ_lt_succ enough)
      refine ⟨after, ?_, remainsAfter⟩
      rw [drain, bind_ok drawn]
      dsimp only
      rw [drained, List.push_append_toArray]

theorem joinable_strings {place : Nat} {pieces : List Text} :
    StringMethod.joinable place (pieces.map Value.string) store = .ok pieces store := by
  induction pieces generalizing place with
  | nil => rfl
  | cons first others ih =>
      rw [List.map_cons, StringMethod.joinable, bind_ok ih]
      rfl

theorem join_nil {pieces : List Text} : Text.join [] pieces = pieces.flatten := by
  induction pieces with
  | nil => rfl
  | cons first others ih =>
      cases others with
      | nil => exact (List.append_nil first).symm
      | cons second others =>
          rw [List.flatten_cons, ← ih]
          exact congrArg (· ++ Text.join [] (second :: others)) (List.append_nil first)

/-- **The texts of a list are joined to what has been written.** -/
theorem callValue_join {pieces : List Text} (within : buffer < store.objects.size)
    (holds : store.object buffer = .list (pieces.map Value.string).toArray) :
    ∃ after, callValue engine (.method (.string []) (text "join")) [.ref buffer] [] store =
      .ok (.string pieces.flatten) after ∧ store.Remains after := by
  let cursor : Cursor := .list buffer 0
  let now := store.push (.cursor (.iterator "list_iterator") cursor)
  have made : now.object store.objects.size = .cursor (.iterator "list_iterator") cursor :=
    Store.object_push_size
  have yields : cursor.Yields store (pieces.map Value.string) := .list within holds 0
  have remaining : cursor.remaining now = pieces.length := by
    rw [Cursor.remaining, Store.remains_push.object_eq buffer within, holds]
    exact List.length_map _
  have rounds : roundsOf (.ref store.objects.size) now =
      .ok (roundLimit + cursor.remaining now) now := roundsOf_cursor made
  obtain ⟨after, drained, remains⟩ : ∃ after, drain engine (.ref store.objects.size)
      (roundLimit + cursor.remaining now) #[] now =
        .ok (#[] ++ (pieces.map Value.string).toArray) after ∧ store.Remains after :=
    drain_yields made yields Store.remains_push (Nat.le_refl _) Store.size_lt_push
      (lt_roundLimit_add (Nat.le_of_eq ((List.length_map _).trans remaining.symm)))
  have found : iterator? (.ref buffer) store = .ok (some (.ref store.objects.size)) now := by
    have loaded : load buffer store = .ok (.list (pieces.map Value.string).toArray) store :=
      congrArg (EStateM.Result.ok · store) holds
    change (load buffer >>= _) store = _
    rw [bind_ok loaded]
    rfl
  have room : requireRoom (.ref store.objects.size) now = .ok () now := by
    have loaded : load store.objects.size now =
        .ok (.cursor (.iterator "list_iterator") cursor) now :=
      congrArg (EStateM.Result.ok · now) made
    change (load store.objects.size >>= _) now = _
    rw [bind_ok loaded]
    rfl
  have all : drainAll engine (.ref store.objects.size) now =
      .ok (pieces.map Value.string).toArray after := by
    rw [drainAll, bind_ok room, bind_ok rounds, drained, Array.empty_append]
  have collected : collectOr engine (.type "can only join an iterable") (.ref buffer) store =
      .ok (pieces.map Value.string) after := by
    rw [collectOr, bind_ok found]
    dsimp only
    rw [bind_ok all]
    rfl
  have single : Arguments.single (text "str.join") ⟨[.ref buffer], []⟩ store =
      .ok (.ref buffer) store := rfl
  refine ⟨after, ?_, remains⟩
  change StringMethod.join engine [] ⟨[.ref buffer], []⟩ store = _
  rw [StringMethod.join, bind_ok single, bind_ok collected, bind_ok joinable_strings, join_nil]
  rfl

/-- Statements behind others run if the others are left for the next statement. -/
theorem runBlock_append {engine : Engine} {scene : Scene} {first rest : List Stmt} :
    runBlock engine scene (first ++ rest) = (do
      match ← runBlock engine scene first with
      | .next => runBlock engine scene rest
      | flow => return flow) := by
  induction first with
  | nil => rw [List.nil_append, runBlock, pure_bind]
  | cons statement others ih =>
      rw [List.cons_append, runBlock, runBlock, bind_assoc]
      refine congrArg (runStatement engine scene statement >>= ·) (funext fun flow => ?_)
      cases flow with
      | next => exact ih
      | breakLoop => exact (pure_bind _ _).symm
      | continueLoop => exact (pure_bind _ _).symm
      | returned value => exact (pure_bind _ _).symm

/-- An engine with a few levels leaves calls to the one below. -/
theorem call_ofDepth (depth : Nat) :
    (Engine.ofDepth (depth + 3)).call = callValue (Engine.ofDepth (depth + 2)) := by
  have deep : ¬ depth + 2 < 2 := Nat.not_lt.mpr (Nat.le_add_left 2 depth)
  rw [Engine.ofDepth]
  dsimp only
  rw [if_neg deep]

theorem body_ofDepth (depth : Nat) :
    (Engine.ofDepth (depth + 1)).body = runBody (Engine.ofDepth depth) := by
  rw [Engine.ofDepth]

end Stencil.Run
