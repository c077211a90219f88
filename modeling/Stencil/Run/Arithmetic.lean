import Stencil.Run.Percent

/-! # Operators

Operators compute with whole numbers of any size, with floating-point numbers as
soon as one operand is one, and with sequences that are joined or repeated. Every
other pair of operands is refused by the names of their kinds.
-/

namespace Stencil.Run

open Script

/-- The sign of an operator in a complaint. -/
def operatorSign (operator : BinaryOperator) (isAugmented : Bool) : String :=
  let sign := String.ofList (operator.spelling.map Char.ofNat)
  if isAugmented then sign ++ "=" else if operator = .power then "** or pow()" else sign

/-- The floating-point number nearest to a whole number, unless it is too large. -/
def floatOfInt (value : Int) : Except Complaint Float :=
  match floatOfInt? value with
  | some value => .ok value
  | none => .error (.overflow "int too large to convert to float")

/-- A number as a floating-point number. -/
def Value.float? : Value → Option (Except Complaint Float)
  | .float value => some (.ok value)
  | other => other.int?.map floatOfInt

/-- The power of two floating-point numbers. -/
def powerFloats (base exponent : Float) : Action Value := do
  if base == 0 && exponent < 0 then
    complain (.zeroDivision "0.0 cannot be raised to a negative power")
  else if base < 0 && base.isFinite && exponent.isFinite && exponent.floor != exponent then
    unsupported "complex numbers"
  else
    let result := base.pow exponent
    if result.isInf && base.isFinite && exponent.isFinite then
      raiseWith .overflowError [.int 34, .string (text "Numerical result out of range")]
    else return .float result

/-- An operator on whole numbers; the operators for bits alone keep truth values. -/
def combineInts (operator : BinaryOperator) (left right : Int) : Action Value := do
  match operator with
  | .add => return .int (left + right)
  | .subtract => return .int (left - right)
  | .multiply => return .int (left * right)
  | .divide =>
      if right = 0 then complain (.zeroDivision "division by zero")
      else
        match floatOfQuotient? ((left < 0) != (right < 0)) left.natAbs right.natAbs with
        | some value => return .float value
        | none => complain (.overflow "integer division result too large for a float")
  | .floorDivide =>
      if right = 0 then complain (.zeroDivision "integer division or modulo by zero")
      else return .int (left.fdiv right)
  | .modulo =>
      if right = 0 then complain (.zeroDivision "integer modulo by zero")
      else return .int (left.fmod right)
  | .power =>
      if right < 0 then
        powerFloats (← settle (floatOfInt left)) (← settle (floatOfInt right))
      else return .int (left.pow right.toNat)
  | .shiftLeft =>
      if right < 0 then complain (.value "negative shift count")
      else if left = 0 then return .int 0
      else if 30 * twoTo 61 ≤ right.toNat then complain (.overflow "too many digits in integer")
      else if 8 * roomLimit ≤ right.toNat then outOfRoom
      else return .int (left * (twoTo right.toNat : Int))
  | .shiftRight =>
      if right < 0 then complain (.value "negative shift count")
      else return .int (left.fdiv (twoTo (min right.toNat (left.natAbs.log2 + 1)) : Int))
  | .bitAnd => return .int (bitAnd left right)
  | .bitOr => return .int (bitOr left right)
  | .bitXor => return .int (bitXor left right)
  | .matrixMultiply => complain (.operands "@" .int .int)

/-- The operators that are defined for floating-point numbers. -/
def takesFloats : BinaryOperator → Bool
  | .add | .subtract | .multiply | .divide | .floorDivide | .modulo | .power => true
  | .matrixMultiply | .shiftLeft | .shiftRight | .bitOr | .bitXor | .bitAnd => false

/-- An operator on floating-point numbers. -/
def combineFloats (operator : BinaryOperator) (left right : Float) : Action Value := do
  match operator with
  | .add => return .float (left + right)
  | .subtract => return .float (left - right)
  | .multiply => return .float (left * right)
  | .divide =>
      if right == 0 then complain (.zeroDivision "float division by zero")
      else return .float (left / right)
  | .floorDivide =>
      if right == 0 then complain (.zeroDivision "float floor division by zero")
      else return .float (floorDivideFloats left right).1
  | .modulo =>
      if right == 0 then complain (.zeroDivision "float modulo")
      else return .float (floorDivideFloats left right).2
  | .power => powerFloats left right
  | other => complain (.operands (operatorSign other false) .float .float)

/-- An operator on two truth values that gives a truth value. -/
def combineBools (operator : BinaryOperator) (left right : Bool) : Option Bool :=
  match operator with
  | .bitAnd => some (left && right)
  | .bitOr => some (left || right)
  | .bitXor => some (left != right)
  | _ => none

/-- A list of items several times over. -/
def repeatItems {α : Type} (count : Int) (items : List α) : List α :=
  (List.replicate count.toNat items).flatten

/-- The items of a sequence in a store, with what makes a sequence of the same kind. -/
inductive Sequence where
  | string (value : Text)
  | bytes (value : List Nat)
  | tuple (items : List Value)
  | list (items : Array Value)

/-- The sequence that a value is. -/
def Value.sequenceIn? (store : Store) : Value → Option Sequence
  | .string value => some (.string value)
  | .bytes value => some (.bytes value)
  | .tuple items => some (.tuple items)
  | .ref address =>
      match store.object address with
      | .list items => some (.list items)
      | _ => none
  | _ => none

/-- Items of some size several times over, if there is room for them. -/
def repeatWithin {α : Type} (size : Nat) (tooLong : Action (List α)) (count : Int)
    (items : List α) : Action (List α) :=
  let result := items.length * count.toNat
  if items.isEmpty then return []
  else if !fitsPlace result then tooLong
  else if roomLimit < size * result then outOfRoom
  else return repeatItems count items

/-- The number of times that a sequence is repeated. -/
def repetitions (value : Value) : Action Int := do
  match value.int? with
  | none => complainOf .repetition value
  | some count => if fitsPlace count then return count else complainOf .countTooLarge value

/-- A sequence several times over. -/
def repeatSequence (count : Int) : Sequence → Action Value
  | .string value => do
      let tooLong := complain (.overflow "repeated string is too long")
      return .string (← repeatWithin 1 tooLong count value)
  | .bytes value => do
      let tooLong := complain (.overflow "repeated bytes are too long")
      return .bytes (← repeatWithin 1 tooLong count value)
  | .tuple items => return .tuple (← repeatWithin 8 outOfRoom count items)
  | .list items => do
      newList (← repeatWithin 8 outOfRoom count items.toList).toArray

/-- Two sequences of one kind as one, or the complaint about the second one. -/
def joinSequences (left : Sequence) (right : Value) : Action Value := do
  match left, right.sequenceIn? (← get) with
  | .string left, some (.string right) => return .string (left ++ right)
  | .bytes left, some (.bytes right) => return .bytes (left ++ right)
  | .tuple left, some (.tuple right) => return .tuple (left ++ right)
  | .list left, some (.list right) => newList (left ++ right)
  | .string _, _ => complainOf (.concatenation "str") right
  | .bytes _, _ =>
      complain ⟨.typeError, text "can't concat " ++ (← kindOf right).name ++ text " to bytes"⟩
  | .tuple _, _ => complainOf (.concatenation "tuple") right
  | .list _, _ => complainOf (.concatenation "list") right

/-- The members of a set. -/
def Value.membersIn? (store : Store) : Value → Option (List Value)
  | .ref address =>
      match store.object address with
      | .set members => some members
      | _ => none
  | _ => none

/-- An operator on two sets. -/
def combineSets (operator : BinaryOperator) (left right : List Value) : Option (List Value) :=
  let within (members : List Value) (member : Value) : Bool := members.any member.sameKey
  match operator with
  | .bitOr => some (left ++ right.filter fun member => !within left member)
  | .bitAnd => some (left.filter (within right))
  | .subtract => some (left.filter fun member => !within right member)
  | .bitXor =>
      some (left.filter (fun member => !within right member) ++
        right.filter fun member => !within left member)
  | _ => none

/-- The entries of two mappings; of two values for a key the second one counts. -/
def mergeEntries (left right : List (Value × Value)) : List (Value × Value) :=
  right.foldl (fun entries entry => insertKey entry.1 entry.2 entries) left

/-- An operator on operands of which not both are numbers. -/
def combineOthers (operator : BinaryOperator) (isAugmented : Bool) (left right : Value) :
    Action Value := do
  let store ← get
  let refused : Action Value :=
    complain (.operands (operatorSign operator isAugmented) (left.kindIn store)
      (right.kindIn store))
  match operator, left.sequenceIn? store, right.sequenceIn? store with
  | .add, some left, _ => joinSequences left right
  | .multiply, some sequence, _ => do repeatSequence (← repetitions right) sequence
  | .multiply, none, some sequence => do repeatSequence (← repetitions left) sequence
  | .modulo, some (.string template), _ => return .string (← formatPercent template right)
  | _, _, _ =>
      match left.membersIn? store, right.membersIn? store with
      | some lefts, some rights =>
          match combineSets operator lefts rights with
          | some members => return .ref (← allocate (.set members))
          | none => refused
      | _, _ =>
          match operator, left.entriesIn? store, right.entriesIn? store with
          | .bitOr, some lefts, some rights => newDict (mergeEntries lefts rights)
          | _, _, _ => refused

/-- The value of a binary operator. -/
def combine (operator : BinaryOperator) (isAugmented : Bool) (left right : Value) :
    Action Value := do
  let refused : Action Value := do
    let store ← get
    complain (.operands (operatorSign operator isAugmented) (left.kindIn store)
      (right.kindIn store))
  match left, right with
  | .bool first, .bool second =>
      match combineBools operator first second with
      | some value => return .bool value
      | none =>
          if operator = .matrixMultiply then refused
          else combineInts operator (if first then 1 else 0) (if second then 1 else 0)
  | _, _ =>
      match left.int?, right.int? with
      | some first, some second =>
          if operator = .matrixMultiply then refused else combineInts operator first second
      | _, _ =>
          match left.float?, right.float? with
          | some first, some second => do
              if takesFloats operator then
                combineFloats operator (← settle first) (← settle second)
              else refused
          | _, _ => combineOthers operator isAugmented left right

/-- The value of an operator with one operand. -/
def applyUnary (operator : UnaryOperator) (operand : Value) : Action Value := do
  match operator, operand, operand.int? with
  | .negate, _, _ => return .bool !(← isTrue operand)
  | .plus, .float value, _ => return .float value
  | .minus, .float value, _ => return .float (-value)
  | .plus, _, some value => return .int value
  | .minus, _, some value => return .int (-value)
  | .invert, _, some value => return .int (-value - 1)
  | .plus, _, none => complainOf (.operand "unary +") operand
  | .minus, _, none => complainOf (.operand "unary -") operand
  | .invert, _, none => complainOf (.operand "unary ~") operand

end Stencil.Run
