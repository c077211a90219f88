import Stencil.Proofs.Reach.Expressions

/-! # Targets and patterns outside a fence

A value outside may be assigned to a target, and what a pattern takes from a value outside is
outside again: the items of a sequence, the values of keys and attributes, and the list or
dictionary of what is left over.
-/

namespace Stencil.Run

open Script

variable {fence : Fence} {engine : Engine} {scene : Scene} {value : Value}

mutual

theorem spares_assignTarget (sound : engine.Spares fence) (outside : scene.IsOutside fence) :
    ∀ {target : Target} {value : Value}, fence.Admits scene target.mentions →
      value.IsOutside fence → SparesAll fence (assignTarget engine scene target value)
  | .name identifier, _, _, valueOutside => spares_bindName outside valueOutside
  | .attribute object field, _, admits, valueOutside => by
      have objectAdmits : fence.Admits scene object.mentions := admits
      exact (spares_evaluate sound outside objectAdmits).bind fun _ objectOutside =>
        spares_assignAttribute objectOutside valueOutside
  | .subscript object index, _, admits, valueOutside => by
      obtain ⟨object, index⟩ := Fence.admits_append.mp admits
      refine (spares_evaluate sound outside object).bind fun _ objectOutside => ?_
      exact (spares_evaluate sound outside index).bind fun _ indexOutside =>
        spares_assignElement sound objectOutside indexOutside valueOutside
  | .tuple items, _, admits, valueOutside =>
      (spares_unpackFor sound valueOutside).bind fun _ partsOutside =>
        spares_assignAll sound outside admits partsOutside
  | .list items, _, admits, valueOutside =>
      (spares_unpackFor sound valueOutside).bind fun _ partsOutside =>
        spares_assignAll sound outside admits partsOutside
  | .starred target, value, admits, valueOutside => by
      have targetAdmits : fence.Admits scene target.mentions := admits
      have spares := spares_assignTarget sound outside targetAdmits valueOutside
      exact spares

theorem spares_assignAll (sound : engine.Spares fence) (outside : scene.IsOutside fence) :
    ∀ {targets : List Target} {values : List Value}, fence.Admits scene (targetsMentions targets) →
      AreOutside fence values → SparesAll fence (assignAll engine scene targets values)
  | [], _, _, _ => .pure trivial
  | _ :: _, [], _, _ => .pure trivial
  | _ :: _, _ :: _, admits, valuesOutside => by
      obtain ⟨target, others⟩ := Fence.admits_append.mp admits
      obtain ⟨valueOutside, restOutside⟩ := areOutside_cons.mp valuesOutside
      exact (spares_assignTarget sound outside target valueOutside).andThen
        (spares_assignAll sound outside others restOutside)

end

theorem spares_assignTargets (sound : engine.Spares fence) (outside : scene.IsOutside fence)
    {targets : List Target} (admits : fence.Admits scene (targetsMentions targets))
    (valueOutside : value.IsOutside fence) :
    SparesAll fence (targets.forM fun target => assignTarget engine scene target value) := by
  induction targets with
  | nil => exact .pure trivial
  | cons first rest ih =>
      obtain ⟨target, others⟩ := Fence.admits_append.mp admits
      exact (spares_assignTarget sound outside target valueOutside).andThen (ih others)

mutual

theorem spares_deleteTarget (sound : engine.Spares fence) (outside : scene.IsOutside fence) :
    ∀ {target : Target}, fence.Admits scene target.mentions →
      SparesAll fence (deleteTarget engine scene target)
  | .name identifier, _ => spares_unbindName outside
  | .attribute object field, admits => by
      have objectAdmits : fence.Admits scene object.mentions := admits
      exact (spares_evaluate sound outside objectAdmits).bind fun _ objectOutside =>
        spares_deleteAttribute objectOutside
  | .subscript object index, admits => by
      obtain ⟨object, index⟩ := Fence.admits_append.mp admits
      refine (spares_evaluate sound outside object).bind fun _ objectOutside => ?_
      exact (spares_evaluate sound outside index).bind fun _ indexOutside =>
        spares_deleteElement objectOutside indexOutside
  | .tuple items, admits => spares_deleteAll sound outside admits
  | .list items, admits => spares_deleteAll sound outside admits
  | .starred target, admits => by
      have targetAdmits : fence.Admits scene target.mentions := admits
      have spares := spares_deleteTarget sound outside targetAdmits
      exact spares

theorem spares_deleteAll (sound : engine.Spares fence) (outside : scene.IsOutside fence) :
    ∀ {targets : List Target}, fence.Admits scene (targetsMentions targets) →
      SparesAll fence (deleteAll engine scene targets)
  | [], _ => .pure trivial
  | _ :: _, admits => by
      obtain ⟨target, others⟩ := Fence.admits_append.mp admits
      exact (spares_deleteTarget sound outside target).andThen
        (spares_deleteAll sound outside others)

end

theorem spares_deleteTargets (sound : engine.Spares fence) (outside : scene.IsOutside fence)
    {targets : List Target} (admits : fence.Admits scene (targetsMentions targets)) :
    SparesAll fence (targets.forM (deleteTarget engine scene)) := by
  induction targets with
  | nil => exact .pure trivial
  | cons first rest ih =>
      obtain ⟨target, others⟩ := Fence.admits_append.mp admits
      exact (spares_deleteTarget sound outside target).andThen (ih others)

/-- The items of a sequence that a pattern can fit are outside. -/
def Matchable.IsOutside (fence : Fence) (given : Matchable) : Prop :=
  ∀ place wanted, AreOutside fence (given.items place wanted)

theorem allDrawnOutside_none : AllDrawnOutside fence none := nofun

theorem allDrawnOutside_nil : AllDrawnOutside fence (some []) :=
  fun _ same => Option.some.inj same ▸ areOutside_nil

theorem Matchable.isOutside_ofList {items : List Value} (outside : AreOutside fence items) :
    (Matchable.ofList items).IsOutside fence :=
  fun _ _ item member => outside item (List.mem_of_mem_drop (List.mem_of_mem_take member))

theorem spares_matchable? (outside : value.IsOutside fence) :
    Spares fence (fun found => ∀ given, found = some given → given.IsOutside fence)
      (matchable? value) := by
  have missing : Spares fence
      (fun found => ∀ given : Matchable, found = some given → given.IsOutside fence)
      (pure none) := .pure nofun
  have ofList {items : List Value} (outside : AreOutside fence items) : Spares fence
      (fun found => ∀ given : Matchable, found = some given → given.IsOutside fence)
      (pure (some (.ofList items))) := by
    refine .pure fun given same => ?_
    cases same
    exact Matchable.isOutside_ofList outside
  cases outside with
  | tuple parts => exact ofList parts
  | range start stop step =>
      rw [matchable?]
      split
      · exact spares_complain
      · refine .pure fun given same => ?_
        cases same
        exact fun place wanted => areOutside_map _ fun next => .int _
  | ref isOpen =>
      refine (spares_load isOpen).bind fun object objectOutside => ?_
      cases objectOutside with
      | list itemsOutside => exact ofList itemsOutside
      | _ => exact missing
  | _ => exact missing

theorem spares_dealItems {patterns : List Pattern} {given : Matchable}
    (outside : given.IsOutside fence) :
    Spares fence (AllDrawnOutside fence) (dealItems patterns given) := by
  have missing : Spares fence (AllDrawnOutside fence) (pure none) := .pure allDrawnOutside_none
  unfold dealItems
  split
  · split
    · exact .pure fun values same => Option.some.inj same ▸ outside _ _
    · exact missing
  · dsimp only
    split
    · exact missing
    generalize (if patterns.any isDroppedRest then 0 else _) = left
    split
    · exact spares_outOfRoom
    · refine (spares_newList (outside _ _)).bind fun rest restOutside => .pure ?_
      intro values same
      cases same
      exact areOutside_append.mpr ⟨outside _ _, areOutside_cons.mpr ⟨restOutside, outside _ _⟩⟩

theorem spares_valuesOfKeys {entries : List (Value × Value)} {seen keys : List Value}
    (entriesOutside : EntriesOutside fence entries) :
    Spares fence (AllDrawnOutside fence) (valuesOfKeys entries seen keys) := by
  induction keys generalizing seen with
  | nil => exact .pure allDrawnOutside_nil
  | cons key rest ih =>
      refine spares_requireKey.andThen ?_
      split
      · exact spares_display.bind fun _ _ => spares_complain
      cases found : lookupKey key entries with
      | none => exact .pure allDrawnOutside_none
      | some value =>
          exact ih.bind fun _ othersOutside => .pure
            (allDrawnOutside_cons (isOutside_lookupKey entriesOutside value found) othersOutside)

theorem spares_attributesOf (outside : value.IsOutside fence) {names : List Name} :
    Spares fence (AllDrawnOutside fence) (attributesOf value names) := by
  induction names with
  | nil => exact .pure allDrawnOutside_nil
  | cons name rest ih =>
      refine (spares_attributeOf? outside).bind fun found isOutside => ?_
      cases found with
      | none => exact .pure allDrawnOutside_none
      | some first =>
          exact ih.bind fun _ othersOutside =>
            .pure (allDrawnOutside_cons (isOutside first rfl) othersOutside)

theorem spares_classValues {cls : Value} (outside : value.IsOutside fence) {positional : Nat}
    {fields : List Name} :
    Spares fence (AllDrawnOutside fence) (classValues cls value positional fields) := by
  unfold classValues
  split
  · refine spares_kindOf.bind fun kind _ => ?_
    split
    · exact .pure allDrawnOutside_none
    dsimp only
    generalize (if fitsItself _ then 1 else 0) = most
    split
    · exact spares_complain
    · refine (spares_attributesOf outside).bind fun found foundOutside => .pure ?_
      intro values same
      obtain ⟨attributes, rfl, rfl⟩ := Option.map_eq_some_iff.mp same
      refine areOutside_append.mpr ⟨fun item member => ?_, foundOutside attributes rfl⟩
      rw [List.eq_of_mem_replicate member]
      exact outside
  · exact spares_complain

/-- The values that a pattern gives to names are outside. -/
abbrev Fit.IsOutside (fence : Fence) (fit : Fit) : Prop :=
  ∀ named, fit = some named → NamedOutside fence named

namespace Fit

variable {fit : Fit} {named : List (Name × Value)}

theorem isOutside_none : Fit.IsOutside fence none := nofun

theorem isOutside_nil : Fit.IsOutside fence (some []) :=
  fun _ same => Option.some.inj same ▸ namedOutside_nil

theorem isOutside_capture {target : Option Name} (outside : value.IsOutside fence) :
    Fit.IsOutside fence (capture target value) := by
  intro named same
  cases target with
  | none => exact isOutside_nil named same
  | some name =>
      cases same
      exact List.forall_mem_singleton.mpr outside

/-- More values before those of a fit. -/
theorem IsOutside.prepend (outside : Fit.IsOutside fence fit) (namedOutside : NamedOutside fence named) :
    Fit.IsOutside fence (fit.map (named ++ ·)) := by
  intro whole same
  obtain ⟨others, rfl, rfl⟩ := Option.map_eq_some_iff.mp same
  exact List.forall_mem_append.mpr ⟨namedOutside, outside others rfl⟩

/-- One more value behind those of a fit. -/
theorem IsOutside.concat (outside : Fit.IsOutside fence fit) {name : Name}
    (valueOutside : value.IsOutside fence) :
    Fit.IsOutside fence (fit.map (· ++ [(name, value)])) := by
  intro whole same
  obtain ⟨others, rfl, rfl⟩ := Option.map_eq_some_iff.mp same
  exact ParameterList.namedOutside_concat (outside others rfl) valueOutside

end Fit

mutual

/-- **What a pattern takes from a value is outside.** -/
theorem spares_fitPattern (sound : engine.Spares fence) (outside : scene.IsOutside fence) :
    ∀ {pattern : Pattern} {value : Value}, fence.Admits scene pattern.mentions →
      value.IsOutside fence →
      Spares fence (Fit.IsOutside fence) (fitPattern engine scene pattern value)
  | .value expression, _, admits, _ => by
      have expressionAdmits : fence.Admits scene expression.mentions := admits
      refine (spares_evaluate sound outside expressionAdmits).bind fun _ _ => ?_
      refine spares_areEqual.bind fun _ _ => .pure ?_
      split
      · exact Fit.isOutside_nil
      · exact Fit.isOutside_none
  | .singleton constant, _, _, _ => by
      refine spares_constantValue.bind fun _ _ => .pure ?_
      split
      · exact Fit.isOutside_nil
      · exact Fit.isOutside_none
  | .sequence items, _, admits, valueOutside => by
      have itemsAdmit : fence.Admits scene (patternsMentions items) := admits
      refine (spares_matchable? valueOutside).bind fun found givenOutside => ?_
      cases found with
      | none => exact .pure Fit.isOutside_none
      | some given =>
          refine (spares_dealItems (givenOutside given rfl)).bind fun found dealtOutside => ?_
          cases found with
          | none => exact .pure Fit.isOutside_none
          | some dealt =>
              exact spares_fitAll sound outside itemsAdmit (dealtOutside dealt rfl)
  | .mapping keys patterns rest, _, admits, valueOutside => by
      obtain ⟨before, -⟩ := Fence.admits_append.mp admits
      obtain ⟨keysAdmit, patternsAdmit⟩ := Fence.admits_append.mp before
      refine Spares.get.bind fun store fenced => ?_
      split
      · exact .pure Fit.isOutside_none
      case h_2 entries isMapping =>
        have entriesOutside := fenced.entriesIn valueOutside isMapping
        split
        · exact .pure Fit.isOutside_none
        refine (spares_evaluateItems sound outside keysAdmit).bind fun keys _ => ?_
        refine (spares_valuesOfKeys entriesOutside).bind fun found valuesOutside => ?_
        cases found with
        | none => exact .pure Fit.isOutside_none
        | some values =>
            refine (spares_fitAll sound outside patternsAdmit (valuesOutside values rfl)).bind
              fun fit fitOutside => ?_
            split
            · refine (spares_newDict ?_).bind fun dict dictOutside => .pure ?_
              · exact fun entry member => entriesOutside entry (List.mem_filter.mp member).1
              · exact Fit.IsOutside.concat fitOutside dictOutside
            · exact .pure fitOutside
  | .ofClass cls positional fields named, _, admits, valueOutside => by
      obtain ⟨before, namedAdmit⟩ := Fence.admits_append.mp admits
      obtain ⟨clsAdmits, positionalAdmit⟩ := Fence.admits_append.mp before
      refine (spares_evaluate sound outside clsAdmits).bind fun _ _ => ?_
      refine (spares_classValues valueOutside).bind fun found foundOutside => ?_
      cases found with
      | none => exact .pure Fit.isOutside_none
      | some values =>
          have valuesOutside := foundOutside values rfl
          refine (spares_fitAll sound outside positionalAdmit fun item member =>
            valuesOutside item (List.mem_of_mem_take member)).bind fun fit firstOutside => ?_
          cases fit with
          | none => exact .pure Fit.isOutside_none
          | some first =>
              exact (spares_fitAll sound outside namedAdmit fun item member =>
                valuesOutside item (List.mem_of_mem_drop member)).bind fun _ secondOutside =>
                  .pure (secondOutside.prepend (firstOutside first rfl))
  | .starred target, _, _, valueOutside => .pure (Fit.isOutside_capture valueOutside)
  | .capture target, _, _, valueOutside => .pure (Fit.isOutside_capture valueOutside)
  | .bound pattern target, _, admits, valueOutside =>
      (spares_fitPattern sound outside (Fence.admits_bind_cons.mp admits) valueOutside).bind
        fun _ fitOutside => .pure (fitOutside.concat valueOutside)
  | .alternatives patterns, _, admits, valueOutside =>
      spares_fitAny sound outside admits valueOutside

theorem spares_fitAll (sound : engine.Spares fence) (outside : scene.IsOutside fence) :
    ∀ {patterns : List Pattern} {values : List Value},
      fence.Admits scene (patternsMentions patterns) → AreOutside fence values →
      Spares fence (Fit.IsOutside fence) (fitAll engine scene patterns values)
  | [], _, _, _ => .pure Fit.isOutside_nil
  | _ :: _, [], _, _ => .pure Fit.isOutside_nil
  | _ :: _, _ :: _, admits, valuesOutside => by
      obtain ⟨pattern, others⟩ := Fence.admits_append.mp admits
      obtain ⟨valueOutside, restOutside⟩ := areOutside_cons.mp valuesOutside
      refine (spares_fitPattern sound outside pattern valueOutside).bind fun fit firstOutside => ?_
      cases fit with
      | none => exact .pure Fit.isOutside_none
      | some first =>
          exact (spares_fitAll sound outside others restOutside).bind fun _ fitOutside =>
            .pure (fitOutside.prepend (firstOutside first rfl))

theorem spares_fitAny (sound : engine.Spares fence) (outside : scene.IsOutside fence) :
    ∀ {patterns : List Pattern} {value : Value},
      fence.Admits scene (patternsMentions patterns) → value.IsOutside fence →
      Spares fence (Fit.IsOutside fence) (fitAny engine scene patterns value)
  | [], _, _, _ => .pure Fit.isOutside_none
  | _ :: _, _, admits, valueOutside => by
      obtain ⟨pattern, others⟩ := Fence.admits_append.mp admits
      refine (spares_fitPattern sound outside pattern valueOutside).bind fun fit fitOutside => ?_
      cases fit with
      | none => exact spares_fitAny sound outside others valueOutside
      | some found => exact .pure fitOutside

end

end Stencil.Run
