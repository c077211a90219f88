import Stencil.Proofs.Script.LexemeBound
import Stencil.Script.Grammar.Basic
import Stencil.Script.Names

/-! # Programs whose names can be spelled

The names that a program reads come from its lexemes, so each of them is an identifier in its
compatibility form. What is said here about every kind of tree (`Stencil.Script.Spells`) is what the
readers of the grammar keep.
-/

namespace Stencil.Script

/-- The names that are read among some mentions can be spelled. -/
def AllSpelled (mentions : List Mention) : Prop := ∀ name, .read name ∈ mentions → IsName name

namespace AllSpelled

variable {name : Name} {left right : List Mention}

@[simp] theorem nil : AllSpelled [] := fun _ member => nomatch member

@[simp] theorem cons_read : AllSpelled (.read name :: right) ↔ IsName name ∧ AllSpelled right := by
  simp only [AllSpelled, List.mem_cons, Mention.read.injEq, forall_eq_or_imp]

@[simp] theorem cons_bind : AllSpelled (.bind name :: right) ↔ AllSpelled right := by
  simp only [AllSpelled, List.mem_cons, reduceCtorEq, false_or]

@[simp] theorem append : AllSpelled (left ++ right) ↔ AllSpelled left ∧ AllSpelled right := by
  simp only [AllSpelled, List.mem_append, or_imp, forall_and]

@[simp] theorem bindOption (target : Option Name) : AllSpelled (bindOption target) := by
  cases target with
  | none => exact nil
  | some target => exact cons_bind.mpr nil

end AllSpelled

/-- Trees, and what is read on the way to them, whose names can be spelled. -/
class Spellable (α : Type) where
  Spells : α → Prop

export Spellable (Spells)

section

variable {α β : Type} [Spellable α] [Spellable β]

instance : Spellable Unit := ⟨fun _ => True⟩
instance : Spellable Bool := ⟨fun _ => True⟩
instance : Spellable Nat := ⟨fun _ => True⟩
instance : Spellable Relation := ⟨fun _ => True⟩
instance : Spellable Alias := ⟨fun _ => True⟩
instance : Spellable Expr := ⟨fun value => AllSpelled value.mentions⟩
instance : Spellable DictEntry := ⟨fun value => AllSpelled value.mentions⟩
instance : Spellable NamedArgument := ⟨fun value => AllSpelled value.mentions⟩
instance : Spellable Piece := ⟨fun value => AllSpelled value.mentions⟩
instance : Spellable Clause := ⟨fun value => AllSpelled value.mentions⟩
instance : Spellable Parameter := ⟨fun value => AllSpelled value.mentions⟩
instance : Spellable Target := ⟨fun value => AllSpelled value.mentions⟩
instance : Spellable Pattern := ⟨fun value => AllSpelled value.mentions⟩
instance : Spellable WithItem := ⟨fun value => AllSpelled value.mentions⟩
instance : Spellable Stmt := ⟨fun value => AllSpelled value.mentions⟩
instance : Spellable Handler := ⟨fun value => AllSpelled value.mentions⟩
instance : Spellable MatchCase := ⟨fun value => AllSpelled value.mentions⟩
instance : Spellable (List α) := ⟨fun values => ∀ value ∈ values, Spells value⟩
instance : Spellable (Option α) := ⟨fun found => ∀ value ∈ found, Spells value⟩
instance : Spellable (α × β) := ⟨fun pair => Spells pair.1 ∧ Spells pair.2⟩

variable {value : α} {other : β} {values others : List α}

@[simp] theorem spells_unit (value : Unit) : Spells value := trivial
@[simp] theorem spells_bool (value : Bool) : Spells value := trivial
@[simp] theorem spells_nat (value : Nat) : Spells value := trivial
@[simp] theorem spells_relation (value : Relation) : Spells value := trivial
@[simp] theorem spells_alias (value : Alias) : Spells value := trivial
@[simp] theorem spells_name (name : Name) : Spells name := fun _ _ => trivial

@[simp] theorem spells_nil : Spells ([] : List α) := fun _ member => nomatch member

@[simp] theorem spells_cons : Spells (value :: values) ↔ Spells value ∧ Spells values :=
  List.forall_mem_cons

@[simp] theorem spells_append : Spells (values ++ others) ↔ Spells values ∧ Spells others :=
  List.forall_mem_append

@[simp] theorem spells_reverse : Spells values.reverse ↔ Spells values := by
  simp only [Spells, List.mem_reverse]

@[simp] theorem spells_none : Spells (none : Option α) := fun _ member => nomatch member

@[simp] theorem spells_some : Spells (some value) ↔ Spells value :=
  ⟨fun spelled => spelled value rfl, fun spelled _ same => Option.some.inj same ▸ spelled⟩

@[simp] theorem spells_pair : Spells (value, other) ↔ Spells value ∧ Spells other := Iff.rfl

/-- Several lists have names that can be spelled when each of them has. -/
theorem spells_flatten {lists : List (List α)} (spelled : Spells lists) :
    Spells lists.flatten := by
  intro value member
  obtain ⟨values, inLists, inValues⟩ := List.mem_flatten.mp member
  exact spelled values inLists value inValues

end

/-- The mentions of a list, collected item by item. -/
theorem allSpelled_list {α : Type} {collect : List α → List Mention} {single : α → List Mention}
    (nil : collect [] = [])
    (cons : ∀ first rest, collect (first :: rest) = single first ++ collect rest)
    {values : List α} : AllSpelled (collect values) ↔ ∀ value ∈ values, AllSpelled (single value) := by
  induction values with
  | nil => simp only [nil, AllSpelled.nil, List.not_mem_nil, false_implies, implies_true]
  | cons first rest ih => simp only [cons, AllSpelled.append, ih, List.forall_mem_cons]

@[simp] theorem allSpelled_exprs {values : List Expr} :
    AllSpelled (exprsMentions values) ↔ Spells values := allSpelled_list rfl fun _ _ => rfl

@[simp] theorem allSpelled_entries {values : List DictEntry} :
    AllSpelled (entriesMentions values) ↔ Spells values := allSpelled_list rfl fun _ _ => rfl

@[simp] theorem allSpelled_named {values : List NamedArgument} :
    AllSpelled (namedMentions values) ↔ Spells values := allSpelled_list rfl fun _ _ => rfl

@[simp] theorem allSpelled_pieces {values : List Piece} :
    AllSpelled (piecesMentions values) ↔ Spells values := allSpelled_list rfl fun _ _ => rfl

@[simp] theorem allSpelled_clauses {values : List Clause} :
    AllSpelled (clausesMentions values) ↔ Spells values := allSpelled_list rfl fun _ _ => rfl

@[simp] theorem allSpelled_parameters {values : List Parameter} :
    AllSpelled (parametersMentions values) ↔ Spells values := allSpelled_list rfl fun _ _ => rfl

@[simp] theorem allSpelled_targets {values : List Target} :
    AllSpelled (targetsMentions values) ↔ Spells values := allSpelled_list rfl fun _ _ => rfl

@[simp] theorem allSpelled_patterns {values : List Pattern} :
    AllSpelled (patternsMentions values) ↔ Spells values := allSpelled_list rfl fun _ _ => rfl

@[simp] theorem allSpelled_stmts {values : List Stmt} :
    AllSpelled (stmtsMentions values) ↔ Spells values := allSpelled_list rfl fun _ _ => rfl

@[simp] theorem allSpelled_handlers {values : List Handler} :
    AllSpelled (handlersMentions values) ↔ Spells values := allSpelled_list rfl fun _ _ => rfl

@[simp] theorem allSpelled_cases {values : List MatchCase} :
    AllSpelled (casesMentions values) ↔ Spells values := allSpelled_list rfl fun _ _ => rfl

@[simp] theorem allSpelled_option {value : Option Expr} :
    AllSpelled (optionMentions value) ↔ Spells value := by
  cases value with
  | none => simp only [optionMentions, AllSpelled.nil, spells_none]
  | some value => simp only [optionMentions, spells_some]; rfl

mutual

/-- A target reads no names but those of the expression that it comes from. -/
theorem spells_toTarget? : ∀ {value : Expr} {target : Target}, Spells value →
    value.toTarget? = some target → Spells target
  | .name _, _, _, same => by
      cases same
      exact AllSpelled.cons_bind.mpr AllSpelled.nil
  | .attribute _ _, _, spelled, same => by cases same; exact spelled
  | .subscript _ _, _, spelled, same => by cases same; exact spelled
  | .tuple _, _, spelled, same => by
      obtain ⟨targets, found, rfl⟩ := Option.map_eq_some_iff.mp same
      exact allSpelled_targets.mpr (spells_targetsOf? (allSpelled_exprs.mp spelled) found)
  | .list _, _, spelled, same => by
      obtain ⟨targets, found, rfl⟩ := Option.map_eq_some_iff.mp same
      exact allSpelled_targets.mpr (spells_targetsOf? (allSpelled_exprs.mp spelled) found)
  | .starred value, _, (spelled : Spells value), same => by
      obtain ⟨inner, found, rfl⟩ := Option.map_eq_some_iff.mp same
      have inside : Spells inner := spells_toTarget? spelled found
      exact inside

theorem spells_targetsOf? : ∀ {values : List Expr} {targets : List Target}, Spells values →
    targetsOf? values = some targets → Spells targets
  | [], _, _, same => by cases same; exact spells_nil
  | first :: rest, _, spelled, same => by
      obtain ⟨target, found, same⟩ := Option.bind_eq_some_iff.mp same
      obtain ⟨targets, foundRest, same⟩ := Option.bind_eq_some_iff.mp same
      cases same
      have parts := spells_cons.mp spelled
      exact spells_cons.mpr ⟨spells_toTarget? parts.1 found, spells_targetsOf? parts.2 foundRest⟩

end

/-- Only a name can be assigned to as a name. -/
theorem eq_name_of_toTarget? {value : Expr} {name : Name}
    (same : value.toTarget? = some (.name name)) : value = .name name := by
  cases value with
  | name => cases same; rfl
  | tuple | list | starred =>
      obtain ⟨_, _, differs⟩ := Option.map_eq_some_iff.mp same
      cases differs
  | _ => cases same

end Stencil.Script
