import Stencil.Proofs.Run.Data
import Stencil.Proofs.Run.Store

/-! # Iteration over data

The iterator of data hands out the elements of the data one after the other, as long as the lists
and dictionaries of the store stay as they are (`Stencil.Run.Cursor.Yields`). Every step moves
the cursor of the iterator and changes nothing else.
-/

namespace Stencil.Run

variable {store now : Store}

/-- An iterator with another cursor. -/
def movedTo (cursor : Cursor) : Object → Object
  | .cursor kind _ => .cursor kind cursor
  | other => other

/-- A cursor that hands out some values one after the other, as long as the objects of a store
stay as they are. -/
inductive Cursor.Yields (store : Store) : Cursor → List Value → Prop
  | items (rest : List Value) : Yields store (.items rest) rest
  | list {address : Address} {elements : Array Value} (within : address < store.objects.size)
      (holds : store.object address = .list elements) (index : Nat) :
      Yields store (.list address index) (elements.toList.drop index)
  | keys {address : Address} {content : Dictionary} (within : address < store.objects.size)
      (holds : store.object address = .dict content) {slot : Nat} {passedSlots slots : List Nat}
      {passed entries : List (Value × Value)}
      (splitSlots : content.slots.taken = passedSlots ++ slots)
      (split : content.entries = passed ++ entries) (sameLength : passedSlots.length = passed.length)
      (sound : content.IsSound) (behind : ∀ here ∈ passedSlots, here < slot)
      (ahead : ∀ here ∈ slots, slot ≤ here) :
      Yields store
        (.view ⟨.keys, address, slot, entries.length, some content.entries.length⟩)
        (entries.map Prod.fst)

/-- The first entry from a slot on lies behind those that have been passed. -/
theorem firstFrom_search {slot : Nat} {passedSlots slots : List Nat}
    {passed entries : List (Value × Value)} (sameLength : passedSlots.length = passed.length)
    (behind : ∀ here ∈ passedSlots, here < slot) :
    Dictionary.firstFrom.search slot (passedSlots ++ slots) (passed ++ entries) =
      Dictionary.firstFrom.search slot slots entries := by
  induction passedSlots generalizing passed with
  | nil =>
      obtain rfl := List.length_eq_zero_iff.mp sameLength.symm
      rfl
  | cons here others ih =>
      cases passed with
      | nil => cases sameLength
      | cons entry passed =>
          rw [List.cons_append, List.cons_append, Dictionary.firstFrom.search,
            if_neg (Nat.not_le.mpr (behind here List.mem_cons_self))]
          exact ih (Nat.succ.inj sameLength) fun there member =>
            behind there (List.mem_cons_of_mem here member)

theorem requireSize_ok {address : Address} {walk : ViewWalk} {content : Dictionary}
    (holds : now.object walk.dict = .dict content)
    (size : walk.size = some content.entries.length) :
    walk.requireSize address .view now = .ok content now := by
  have dictionary : now.dictionary walk.dict = content := by
    rw [Store.dictionary, holds]
  have got : (get : Action Store) now = .ok now now := rfl
  rw [ViewWalk.requireSize, bind_ok got, dictionary, if_pos size]
  rfl

variable {engine : Engine} {iterator : Address} {cursor : Cursor} {value : Value}
  {values : List Value}

/-- A cursor hands out the next of its values. -/
theorem Cursor.Yields.draw_cons (yields : cursor.Yields store values)
    (same : ∀ address < store.objects.size, now.object address = store.object address)
    {rest : List Value} (next : values = value :: rest) :
    ∃ cursor' : Cursor, cursor'.Yields store rest ∧
      cursor.draw engine iterator now =
        .ok (some value) (now.change iterator (movedTo cursor')) := by
  cases yields with
  | items =>
      subst next
      exact ⟨.items rest, .items rest, rfl⟩
  | @list address elements within holds index =>
      have here : elements[index]? = some value := by
        rw [← Array.getElem?_toList, ← List.head?_drop, next]
        rfl
      have behind : elements.toList.drop (index + 1) = rest := by
        rw [← List.tail_drop, next]
        rfl
      refine ⟨.list address (index + 1), behind ▸ .list within holds (index + 1), ?_⟩
      have loaded : load address now = .ok (.list elements) now :=
        congrArg (EStateM.Result.ok · now) ((same address within).trans holds)
      rw [Cursor.draw, bind_ok loaded]
      dsimp only
      rw [here]
      rfl
  | @keys address content within holds slot passedSlots slots passed entries splitSlots split
      sameLength sound behind ahead =>
      obtain ⟨entry, others, rfl, rfl, rfl⟩ : ∃ entry others, entries = entry :: others ∧
          entry.1 = value ∧ others.map Prod.fst = rest := by
        cases entries with
        | nil => cases next
        | cons entry others =>
            obtain ⟨first, behind⟩ := List.cons.inj next
            exact ⟨entry, others, rfl, first, behind⟩
      -- As many slots as entries are left, so the next entry has a slot.
      have lengths := sound.length_eq
      rw [splitSlots, split, List.length_append, List.length_append, sameLength,
        Nat.add_left_cancel_iff] at lengths
      obtain ⟨here, slots', rfl⟩ : ∃ here slots', slots = here :: slots' := by
        cases slots with
        | nil => cases lengths
        | cons here slots' => exact ⟨here, slots', rfl⟩
      have sorted := sound.ordered.sorted
      rw [splitSlots, List.pairwise_append] at sorted
      obtain ⟨-, sortedSlots, beforeSlots⟩ := sorted
      have found : content.firstFrom slot = some (here, entry) := by
        rw [Dictionary.firstFrom, splitSlots, split, firstFrom_search sameLength behind,
          Dictionary.firstFrom.search, if_pos (ahead here List.mem_cons_self)]
      have splitSlots' : content.slots.taken = (passedSlots ++ [here]) ++ slots' := by
        rw [splitSlots, List.append_assoc]
        rfl
      have split' : content.entries = (passed ++ [entry]) ++ others := by
        rw [split, List.append_assoc]
        rfl
      have sameLength' : (passedSlots ++ [here]).length = (passed ++ [entry]).length := by
        rw [List.length_append, List.length_append, sameLength]
        rfl
      have behind' : ∀ there ∈ passedSlots ++ [here], there < here + 1 := by
        intro there member
        rcases List.mem_append.mp member with inPassed | isHere
        · exact Nat.lt_succ_of_lt (beforeSlots there inPassed here List.mem_cons_self)
        · exact List.mem_singleton.mp isHere ▸ Nat.lt_succ_self here
      have ahead' : ∀ there ∈ slots', here + 1 ≤ there :=
        fun there member => (List.pairwise_cons.mp sortedSlots).1 there member
      refine ⟨_, .keys within holds splitSlots' split' sameLength' sound behind' ahead', ?_⟩
      have kept : (ViewWalk.mk .keys address slot (entry :: others).length
          (some content.entries.length)).requireSize iterator .view now = .ok content now :=
        requireSize_ok ((same address within).trans holds) rfl
      rw [Cursor.draw, ViewWalk.advance, bind_ok kept]
      dsimp only
      rw [found]
      rfl

/-- A cursor without values ends. -/
theorem Cursor.Yields.draw_nil (yields : cursor.Yields store values)
    (same : ∀ address < store.objects.size, now.object address = store.object address)
    (ended : values = []) :
    cursor.draw engine iterator now = .ok none (now.change iterator (movedTo .finished)) := by
  cases yields with
  | items =>
      subst ended
      rfl
  | @list address elements within holds index =>
      have here : elements[index]? = none := by
        rw [← Array.getElem?_toList, ← List.head?_drop, ended]
        rfl
      have loaded : load address now = .ok (.list elements) now :=
        congrArg (EStateM.Result.ok · now) ((same address within).trans holds)
      rw [Cursor.draw, bind_ok loaded]
      dsimp only
      rw [here]
      rfl
  | @keys address content within holds slot passedSlots slots passed entries splitSlots split
      sameLength sound behind ahead =>
      obtain rfl : entries = [] := List.map_eq_nil_iff.mp ended
      have lengths := sound.length_eq
      rw [splitSlots, split, List.length_append, List.length_append, sameLength,
        Nat.add_left_cancel_iff] at lengths
      obtain rfl : slots = [] := List.length_eq_zero_iff.mp lengths
      have found : content.firstFrom slot = none := by
        rw [Dictionary.firstFrom, splitSlots, split, firstFrom_search sameLength behind]
        rfl
      have kept : (ViewWalk.mk .keys address slot 0 (some content.entries.length)).requireSize
          iterator .view now = .ok content now :=
        requireSize_ok ((same address within).trans holds) rfl
      change (ViewWalk.mk .keys address slot 0 (some content.entries.length)).advance iterator
        now = _
      rw [ViewWalk.advance, bind_ok kept, found]
      rfl

theorem draw_cursor {kind : Kind} (holds : now.object iterator = .cursor kind cursor) :
    draw engine (.ref iterator) now = cursor.draw engine iterator now := by
  have loaded : load iterator now = .ok (.cursor kind cursor) now :=
    congrArg (EStateM.Result.ok · now) holds
  change (load iterator >>= _) now = _
  rw [bind_ok loaded]

/-- A loop over an iterator has more rounds than the iterator is known to have values. -/
theorem lt_roundLimit_add {count remaining : Nat} (enough : count ≤ remaining) :
    count < roundLimit + remaining :=
  Nat.lt_of_le_of_lt enough (Nat.lt_add_of_pos_left (Nat.zero_lt_succ _))

theorem roundsOf_cursor {kind : Kind} (holds : now.object iterator = .cursor kind cursor) :
    roundsOf (.ref iterator) now = .ok (roundLimit + cursor.remaining now) now := by
  have loaded : load iterator now = .ok (.cursor kind cursor) now :=
    congrArg (EStateM.Result.ok · now) holds
  change (load iterator >>= _) now = _
  rw [bind_ok loaded]
  rfl

theorem iterate_ok {next : Value} {after : Store}
    (found : iterator? value now = .ok (some next) after) : iterate value now = .ok next after := by
  rw [iterate, bind_ok found]
  rfl

theorem iterate_list {address : Address} {elements : Array Value}
    (holds : now.object address = .list elements) :
    iterate (.ref address) now = .ok (.ref now.objects.size)
      (now.push (.cursor (.iterator "list_iterator") (.list address 0))) := by
  have loaded : load address now = .ok (.list elements) now :=
    congrArg (EStateM.Result.ok · now) holds
  refine iterate_ok ?_
  change (load address >>= _) now = _
  rw [bind_ok loaded]
  rfl

theorem entries_dict {address : Address} {content : Dictionary}
    (holds : now.object address = .dict content) : now.entries address = content.entries := by
  rw [Store.entries, Store.dictionary, holds]

theorem iterate_dict {address : Address} {content : Dictionary}
    (holds : now.object address = .dict content) :
    iterate (.ref address) now = .ok (.ref now.objects.size)
      (now.push (.cursor (.iterator "dict_keyiterator")
        (.view ⟨.keys, address, 0, content.entries.length, some content.entries.length⟩))) := by
  have loaded : load address now = .ok (.dict content) now :=
    congrArg (EStateM.Result.ok · now) holds
  refine iterate_ok ?_
  change (load address >>= _) now = _
  rw [bind_ok loaded, ← entries_dict holds]
  rfl

variable {region : Address → Prop}

/-- **Data that have elements are iterated over**, in enough rounds for all of them. -/
theorem iterate_elements (isRegion : store.IsDataRegion region)
    (same : ∀ address < store.objects.size, now.object address = store.object address)
    (larger : store.objects.size ≤ now.objects.size)
    (data : IsData region value) (found : value.elementsIn? store = some values) :
    ∃ kind, ∃ cursor : Cursor, cursor.Yields store values ∧
      iterate value now = .ok (.ref now.objects.size) (now.push (.cursor kind cursor)) ∧
      values.length ≤ cursor.remaining (now.push (.cursor kind cursor)) := by
  cases data with
  | nothing => cases found
  | bool value => cases found
  | int value => cases found
  | string content =>
      cases found
      exact ⟨_, .items _, .items _, iterate_ok rfl, Nat.le_refl _⟩
  | tuple parts =>
      cases found
      exact ⟨_, .items _, .items _, iterate_ok rfl, Nat.le_refl _⟩
  | @ref address inside =>
      have within := isRegion.lt_size address inside
      have holds := isRegion.isData address inside
      rw [Value.elementsIn?] at found
      cases object : store.object address <;> rw [object] at holds found
      case list elements =>
        cases found
        refine ⟨_, _, .list within object 0, iterate_list ((same address within).trans object), ?_⟩
        have kept : ∀ cursor, (now.push cursor).object address = .list elements := fun cursor =>
          (Store.object_push_of_lt (Nat.lt_of_lt_of_le within larger)).trans
            ((same address within).trans object)
        rw [Cursor.remaining, kept]
        exact Nat.le_refl _
      case dict content =>
        cases found
        cases holds with
        | dict sound parts =>
            have yields : Cursor.Yields store (.view ⟨.keys, address, 0, content.entries.length,
                some content.entries.length⟩) (content.entries.map Prod.fst) :=
              .keys within object (List.nil_append _).symm (List.nil_append _).symm rfl sound
                (fun _ member => (List.not_mem_nil member).elim) (fun _ _ => Nat.zero_le _)
            refine ⟨_, _, yields, iterate_dict ((same address within).trans object), ?_⟩
            rw [List.length_map]
            exact Nat.le_refl _
      all_goals cases found

/-- Data without elements are not iterated over. -/
theorem raises_iterate (isRegion : store.IsDataRegion region)
    (data : IsData region value) (noElements : value.elementsIn? store = none) :
    RaisesAfter now .typeError (iterate value now) := by
  cases data with
  | nothing => exact raises_complain
  | bool value => exact raises_complain
  | int value => exact raises_complain
  | string content => cases noElements
  | tuple parts => cases noElements
  | @ref address inside =>
      have holds := isRegion.isData address inside
      rw [Value.elementsIn?] at noElements
      generalize store.object address = object at holds noElements
      cases holds with
      | list _ => cases noElements
      | dict _ _ => cases noElements

end Stencil.Run
