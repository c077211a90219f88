import Stencil.Number.BinaryFraction
import Stencil.Run.Display

/-! # Identity, equality and order of values

Keys of dictionaries are compared by their contents alone, and numbers of all kinds
by their exact values. Lists, dictionaries and their like are equal when their
contents are; two sequences are ordered by the first place where they differ.
-/

namespace Stencil.Run

open Script

/-- The order of a whole number and a floating-point number; there is none for what is no
number. -/
def compareIntFloat (left : Int) (right : Float) : Option Ordering :=
  match FloatParts.ofFloat right with
  | .finite parts => some (compare (left * parts.denominator) parts.signedNumerator)
  | .infinite isNegative => some (if isNegative then .gt else .lt)
  | .notNumber => none

/-- The order of two floating-point numbers; there is none for what is no number. -/
def compareFloats (left right : Float) : Option Ordering :=
  if left < right then some .lt
  else if right < left then some .gt
  else if left == right then some .eq
  else none

/-- A value is a number; truth values count as zero and one. -/
def Value.isNumber : Value → Bool
  | .bool _ | .int _ | .float _ => true
  | _ => false

/-- The order of two numbers. -/
def compareNumbers (left right : Value) : Option Ordering :=
  match left.int?, right.int? with
  | some left, some right => some (compare left right)
  | some left, none =>
      match right with
      | .float right => compareIntFloat left right
      | _ => none
  | none, some right =>
      match left with
      | .float left => (compareIntFloat right left).map Ordering.swap
      | _ => none
  | none, none =>
      match left, right with
      | .float left, .float right => compareFloats left right
      | _, _ => none

/-- Two ranges hand out the same numbers. -/
def sameRange (left right : Int × Int × Int) : Bool :=
  let count := rangeLength left.1 left.2.1 left.2.2
  count == rangeLength right.1 right.2.1 right.2.2 &&
    (count == 0 || (left.1 == right.1 && (count == 1 || left.2.2 == right.2.2)))

mutual

/-- Two values are one key: what they hold is the same. -/
def Value.sameKey : Value → Value → Bool
  | .nothing, .nothing | .ellipsis, .ellipsis | .notImplemented, .notImplemented
  | .publicModule, .publicModule => true
  | .string left, .string right => left == right
  | .bytes left, .bytes right => left == right
  | .tuple left, .tuple right => sameKeys left right
  | .range start stop step, .range start' stop' step' =>
      sameRange (start, stop, step) (start', stop', step')
  | .slice lower upper step, .slice lower' upper' step' =>
      lower.sameKey lower' && upper.sameKey upper' && step.sameKey step'
  | .view kind dict, .view kind' dict' => kind == kind' && dict == dict'
  | .ofKind left, .ofKind right => left == right
  | .builtin left, .builtin right => left == right
  | .method receiver name, .method receiver' name' => name == name' && receiver.sameKey receiver'
  | .unboundMethod kind name, .unboundMethod kind' name' => kind == kind' && name == name'
  | .ref left, .ref right => left == right
  | left, right => compareNumbers left right == some .eq

/-- Two lists of values hold the same keys. -/
def sameKeys : List Value → List Value → Bool
  | [], [] => true
  | left :: lefts, right :: rights => left.sameKey right && sameKeys lefts rights
  | _, _ => false

end

mutual

/-- Two values are one and the same. -/
def Value.isSame : Value → Value → Bool
  | .bool left, .bool right => left == right
  | .int left, .int right => left == right
  | .float left, .float right => left.toBits == right.toBits
  | .bool _, .int _ | .int _, .bool _ | .int _, .float _ | .float _, .int _ | .bool _, .float _
  | .float _, .bool _ => false
  | .tuple left, .tuple right => areSame left right
  | left, right => left.sameKey right

/-- Two lists of values are the same one by one. -/
def areSame : List Value → List Value → Bool
  | [], [] => true
  | left :: lefts, right :: rights => left.isSame right && areSame lefts rights
  | _, _ => false

end

mutual

/-- The kind that keeps a value from being a key. -/
def Value.unhashableIn (store : Store) : Value → Option Kind
  | .tuple items => anyUnhashable store items
  | .slice _ _ _ => some .slice
  | .view .values _ => none
  | .view kind _ => some kind.kind
  | .ref address =>
      match store.object address with
      | .list _ => some .list
      | .dict _ => some .dict
      | .set _ => some .set
      | .namespace _ => some .namespace
      | .proxy _ => some .proxy
      | _ => none
  | _ => none

/-- The kind that keeps one of several values from being a key. -/
def anyUnhashable (store : Store) : List Value → Option Kind
  | [] => none
  | first :: rest => (first.unhashableIn store).or (anyUnhashable store rest)

end

/-- A value can be a key. -/
def requireKey (key : Value) : Action Unit := do
  match key.unhashableIn (← get) with
  | some kind => complain (.unhashable kind)
  | none => pure ()

/-- The value of a key. -/
def lookupKey (key : Value) (entries : List (Value × Value)) : Option Value :=
  (entries.find? fun entry => entry.1.sameKey key).map Prod.snd

/-- The entries with a value for a key; a new key comes last, an old one keeps its place. -/
def insertKey (key value : Value) : List (Value × Value) → List (Value × Value)
  | [] => [(key, value)]
  | entry :: rest =>
      if entry.1.sameKey key then (entry.1, value) :: rest
      else entry :: insertKey key value rest

namespace Dictionary

/-- The dictionary with a value for a key. -/
def insert (key value : Value) (content : Dictionary) : Dictionary :=
  let entries := insertKey key value content.entries
  ⟨entries,
    if entries.length = content.entries.length then content.slots else content.slots.push⟩

/-- The dictionary without a key. -/
def erase (key : Value) (content : Dictionary) : Dictionary :=
  match content.entries.findIdx? fun entry => entry.1.sameKey key with
  | some place => ⟨content.entries.eraseIdx place, content.slots.eraseAt place⟩
  | none => content

/-- The dictionary without its last entry. -/
def dropLast (content : Dictionary) : Dictionary :=
  ⟨content.entries.dropLast, content.slots.dropLast⟩

/-- The dictionary with further entries; of two values for a key the later one counts. -/
def merge (others : List (Value × Value)) (content : Dictionary) : Dictionary :=
  others.foldl (fun content entry => content.insert entry.1 entry.2) content

/-- A copy, which has empty slots only while they are few. -/
def copy (content : Dictionary) : Dictionary :=
  if content.slots.next * 2 / 3 ≤ content.entries.length then content
  else .ofEntries content.entries

/-- The first entry from a slot on, with its own slot. -/
def firstFrom (slot : Nat) (content : Dictionary) : Option (Nat × Value × Value) :=
  search content.slots.taken content.entries
where
  /-- The first of some entries with their slots. -/
  search : List Nat → List (Value × Value) → Option (Nat × Value × Value)
    | here :: slots, entry :: entries =>
        if slot ≤ here then some (here, entry) else search slots entries
    | _, _ => none

/-- The last entry before a slot, with its own slot. -/
def lastBefore (slot : Nat) (content : Dictionary) : Option (Nat × Value × Value) :=
  search none content.slots.taken content.entries
where
  /-- The last of some entries with their slots, or else one that was found before. -/
  search (found : Option (Nat × Value × Value)) :
      List Nat → List (Value × Value) → Option (Nat × Value × Value)
    | here :: slots, entry :: entries =>
        if here < slot then search (some (here, entry)) slots entries else found
    | _, _ => found

end Dictionary

/-- The members with one more member. -/
def insertMember (member : Value) (members : List Value) : List Value :=
  if members.any member.sameKey then members else members ++ [member]

/-- The entries of a mapping: a dictionary, or one that cannot be changed. -/
def Value.entriesIn? (store : Store) : Value → Option (List (Value × Value))
  | .ref address =>
      match store.object address with
      | .dict _ | .proxy _ => some (store.entries address)
      | _ => none
  | _ => none

/-- The length of one list after another has been compared with it one by one. -/
def allEqual (equal : Value → Value → Except Complaint Bool) :
    List Value → List Value → Except Complaint Bool
  | [], [] => .ok true
  | left :: lefts, right :: rights => do
      if left.isSame right then allEqual equal lefts rights
      else if ← equal left right then allEqual equal lefts rights
      else return false
  | _, _ => .ok false

/-- Every entry has an equal value in other entries. -/
def entriesWithin (equal : Value → Value → Except Complaint Bool)
    (others : List (Value × Value)) : List (Value × Value) → Except Complaint Bool
  | [] => .ok true
  | (key, value) :: rest =>
      match lookupKey key others with
      | none => .ok false
      | some other => do
          if value.isSame other then entriesWithin equal others rest
          else if ← equal value other then entriesWithin equal others rest
          else return false

/-- Two values are equal. -/
def Value.equalIn (store : Store) (depth : Nat) (left right : Value) : Except Complaint Bool :=
  match depth with
  | 0 => .error (.nesting " in comparison")
  | depth + 1 =>
      let equal (left right : Value) : Except Complaint Bool := left.equalIn store depth right
      match left, right with
      | .tuple left, .tuple right =>
          if left.length = right.length then allEqual equal left right else .ok false
      | .ref left, .ref right =>
          if left = right then .ok true
          else
            match store.object left, store.object right with
            | .list lefts, .list rights =>
                if lefts.size = rights.size then allEqual equal lefts.toList rights.toList
                else .ok false
            | .set lefts, .set rights =>
                .ok (lefts.length == rights.length &&
                  lefts.all fun member => rights.any member.sameKey)
            | .namespace lefts, .namespace rights =>
                let named (fields : List (Name × Value)) : List (Value × Value) :=
                  fields.map fun field => (.string field.1, field.2)
                if lefts.length = rights.length then
                  entriesWithin equal (named rights) (named lefts)
                else .ok false
            | _, _ =>
                match (Value.ref left).entriesIn? store, (Value.ref right).entriesIn? store with
                | some lefts, some rights =>
                    if lefts.length = rights.length then entriesWithin equal rights lefts
                    else .ok false
                | _, _ => .ok false
      | left, right => .ok (left.sameKey right)

/-- Two values are equal. -/
def areEqual (left right : Value) : Action Bool := do
  settle (left.equalIn (← get) nestingLimit right)

/-- The relations that order values. -/
inductive OrderRelation where
  | less | lessEqual | greater | greaterEqual
  deriving DecidableEq, Repr

namespace OrderRelation

/-- The sign of a relation. -/
def sign : OrderRelation → String
  | .less => "<"
  | .lessEqual => "<="
  | .greater => ">"
  | .greaterEqual => ">="

/-- A relation holds in an order. -/
def holds (relation : OrderRelation) : Option Ordering → Bool
  | none => false
  | some .lt => relation == .less || relation == .lessEqual
  | some .eq => relation == .lessEqual || relation == .greaterEqual
  | some .gt => relation == .greater || relation == .greaterEqual

end OrderRelation

/-- The order of two lists of numbers, by the first place where they differ. -/
def compareNumbersList : List Nat → List Nat → Ordering
  | [], [] => .eq
  | [], _ :: _ => .lt
  | _ :: _, [] => .gt
  | left :: lefts, right :: rights =>
      if left < right then .lt else if right < left then .gt else compareNumbersList lefts rights

/-- A relation of two sequences: that of the first elements that differ, or of the lengths. -/
def sequencesOrdered (relation : OrderRelation)
    (equal ordered : Value → Value → Except Complaint Bool) :
    List Value → List Value → Except Complaint Bool
  | [], [] => .ok (relation.holds (some .eq))
  | [], _ :: _ => .ok (relation.holds (some .lt))
  | _ :: _, [] => .ok (relation.holds (some .gt))
  | left :: lefts, right :: rights => do
      if left.isSame right then sequencesOrdered relation equal ordered lefts rights
      else if ← equal left right then sequencesOrdered relation equal ordered lefts rights
      else ordered left right

/-- Every member of a set is one of another set. -/
def isSubset (members others : List Value) : Bool :=
  members.all fun member => others.any member.sameKey

/-- Two values stand in a relation of order. -/
def Value.orderedIn (store : Store) (relation : OrderRelation) (depth : Nat)
    (left right : Value) : Except Complaint Bool :=
  match depth with
  | 0 => .error (.nesting " in comparison")
  | depth + 1 =>
      let equal (left right : Value) : Except Complaint Bool := left.equalIn store depth right
      let ordered (left right : Value) : Except Complaint Bool :=
        left.orderedIn store relation depth right
      let refused : Except Complaint Bool :=
        .error (.noOrder relation.sign (left.kindIn store) (right.kindIn store))
      match left, right with
      | .string left, .string right => .ok (relation.holds (some (compareNumbersList left right)))
      | .bytes left, .bytes right => .ok (relation.holds (some (compareNumbersList left right)))
      | .tuple left, .tuple right => sequencesOrdered relation equal ordered left right
      | .ref left, .ref right =>
          match store.object left, store.object right with
          | .list lefts, .list rights =>
              sequencesOrdered relation equal ordered lefts.toList rights.toList
          | .set lefts, .set rights =>
              match relation with
              | .less => .ok (isSubset lefts rights && lefts.length < rights.length)
              | .lessEqual => .ok (isSubset lefts rights)
              | .greater => .ok (isSubset rights lefts && rights.length < lefts.length)
              | .greaterEqual => .ok (isSubset rights lefts)
          | _, _ => refused
      | left, right =>
          if left.isNumber && right.isNumber then .ok (relation.holds (compareNumbers left right))
          else refused

/-- Two values stand in a relation of order. -/
def areOrdered (relation : OrderRelation) (left right : Value) : Action Bool := do
  settle (left.orderedIn (← get) relation nestingLimit right)

end Stencil.Run
