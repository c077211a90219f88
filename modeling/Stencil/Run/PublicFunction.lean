import Stencil.Run.Construction

/-! # Public functions

The functions that every program knows: lengths, sums and extremes, sorting, tests,
conversions between numbers and texts, and the access to attributes by name.
-/

namespace Stencil.Run

open Script

/-- The length of a value. -/
def lengthOf (value : Value) : Action Value := do
  match value.lengthIn? (← get) with
  | some length => if fitsPlace length then return .int (length : Nat) else complain .sizeTooLarge
  | none => complainOf .noLength value

/-- The size of a number without its sign. -/
def magnitude (value : Value) : Action Value := do
  match value with
  | .float number => return .float number.abs
  | other =>
      match other.int? with
      | some number => return .int number.natAbs
      | none => complainOf (.operand "abs()") value

/-- A value that an iterator still has counts as the wanted truth value. -/
def drawsTruth (engine : Engine) (wanted : Bool) (iterator : Value) : Nat → Action Bool
  | 0 => throw .unfinished
  | rounds + 1 => do
      match ← draw engine iterator with
      | none => return false
      | some value =>
          if (← isTrue value) == wanted then return true
          else drawsTruth engine wanted iterator rounds

/-- The values that an iterator still has are added to a value. -/
def addDrawn (engine : Engine) (iterator : Value) : Nat → Value → Action Value
  | 0, _ => throw .unfinished
  | rounds + 1, total => do
      match ← draw engine iterator with
      | none => return total
      | some value => addDrawn engine iterator rounds (← combine .add false total value)

/-- The sum of values. -/
def sumOf (engine : Engine) (arguments : Arguments) : Action Value := do
  let signature : Signature :=
    { callee := text "sum"
      unnamed := 1
      names := ["start"]
      positions := 2
      needed := 1 }
  match ← signature.bind arguments with
  | [some source, start] => do
      let iterator ← iterate source
      match start.getD (.int 0) with
      | .string _ => complain (.type "sum() can't sum strings [use ''.join(seq) instead]")
      | .bytes _ => complain (.type "sum() can't sum bytes [use b''.join(seq) instead]")
      | start => addDrawn engine iterator (← roundsOf iterator) start
  | _ => return .nothing

/-- The best of the values that an iterator still has, by a relation of their keys. -/
def bestDrawn (engine : Engine) (relation : OrderRelation) (key iterator : Value) :
    Nat → Option Keyed → Action (Option Keyed)
  | 0, _ => throw .unfinished
  | rounds + 1, best => do
      match ← draw engine iterator with
      | none => return best
      | some value => do
          let found ← if key.isNothing then pure value else engine.call key [value] []
          let next ←
            match best with
            | none => pure ⟨found, value⟩
            | some best =>
                if ← areOrdered relation found best.key then pure ⟨found, value⟩ else pure best
          bestDrawn engine relation key iterator rounds (some next)

/-- The best of several values. -/
def bestOf (engine : Engine) (name : String) (relation : OrderRelation) (arguments : Arguments) :
    Action Value := do
  if arguments.positional.isEmpty then complain (.atLeast (text name) 1 0)
  match arguments.named.find? fun entry =>
      entry.1 != text "key" && entry.1 != text "default" with
  | some entry =>
      complain ⟨.typeError, Complaint.marked entry.1 ++
        text " is an invalid keyword argument for " ++ text name ++ text "()"⟩
  | none => do
      let key := (arguments.named.lookup (text "key")).getD .nothing
      let usual := arguments.named.lookup (text "default")
      let source ←
        match arguments.positional with
        | [only] => iterate only
        | several =>
            if usual.isSome then
              complain ⟨.typeError, text "Cannot specify a default for " ++ text name ++
                text "() with multiple positional arguments"⟩
            else iterate (.tuple several)
      match ← bestDrawn engine relation key source (← roundsOf source) none, usual with
      | some best, _ => return best.value
      | none, some usual => return usual
      | none, none =>
          complain ⟨.valueError, text name ++ text "() arg is an empty sequence"⟩

/-- The values of an iterable in order, as a list. -/
def sortedOf (engine : Engine) (arguments : Arguments) : Action Value := do
  Arguments.between (text "sorted") 1 1 arguments.positional
  let values ← collect engine (arguments.positional.headD .nothing)
  let (key, isReversed) ← ListMethod.sortArguments { arguments with positional := [] }
  newList (← sortValues engine key isReversed values.toList).toArray

mutual

/-- A kind is one of those that a value stands for: a class, or a tuple of such values. The value
must be of such a form. -/
def Value.coversKind (kind : Kind) : Value → Option Bool
  | .ofKind other => some (kind.isBelow other)
  | .tuple items => anyCoversKind kind items
  | _ => none

/-- A kind is one of those that one of several values stands for. -/
def anyCoversKind (kind : Kind) : List Value → Option Bool
  | [] => some false
  | first :: rest =>
      match first.coversKind kind with
      | some false => anyCoversKind kind rest
      | decided => decided

end

/-- A value is of a kind. -/
def isInstance (arguments : Arguments) : Action Value := do
  arguments.requireUnnamed (text "isinstance")
  Arguments.between (text "isinstance") 2 2 arguments.positional
  match arguments.positional with
  | [value, kinds] =>
      match kinds.coversKind (← kindOf value) with
      | some answer => return .bool answer
      | none =>
          complain (.type "isinstance() arg 2 must be a type, a tuple of types, or a union")
  | _ => return .nothing

/-- A class is below another. -/
def isSubclass (arguments : Arguments) : Action Value := do
  arguments.requireUnnamed (text "issubclass")
  Arguments.between (text "issubclass") 2 2 arguments.positional
  match arguments.positional with
  | [.ofKind kind, kinds] =>
      match kinds.coversKind kind with
      | some answer => return .bool answer
      | none =>
          complain (.type "issubclass() arg 2 must be a class, a tuple of classes, or a union")
  | _ => complain (.type "issubclass() arg 1 must be a class")

/-- What is printed is turned into text and dropped. -/
def printed (arguments : Arguments) : Action Value := do
  match arguments.named.find? fun entry =>
      !isNamed entry.1 ["sep", "end", "file", "flush"] with
  | some entry =>
      complain ⟨.typeError, Complaint.marked entry.1 ++
        text " is an invalid keyword argument for print()"⟩
  | none => do
      requireText "sep"
      requireText "end"
      match arguments.named.lookup (text "file") with
      | none | some .nothing => pure ()
      | some _ => unsupported "printing into files"
      turnIntoText arguments.positional
      return .nothing
where
  /-- A named argument is a text or nothing. -/
  requireText (name : String) : Action Unit := do
    match (arguments.named.lookup (text name)).getD .nothing with
    | .nothing | .string _ => pure ()
    | other =>
        complain ⟨.typeError, text name ++ text " must be None or a string, not " ++
          (← kindOf other).name⟩
  /-- Every value is turned into text. -/
  turnIntoText : List Value → Action Unit
    | [] => return ()
    | first :: rest => do
        let _ ← textOf first
        turnIntoText rest

/-- A notation in which what is not ASCII is escaped. -/
def asciiOnly (shown : Text) : Text :=
  shown.flatMap fun point => if point < 128 then [point] else Text.numericEscape point

/-- A whole number in a base that is a power of two, with its mark. -/
def basedText (base : Nat) (mark : String) (number : Int) : Text :=
  (if number < 0 then text "-" else []) ++ text mark ++ natText base number.natAbs

/-- A value as a number in a base. -/
def basedOf (callee : String) (base : Nat) (mark : String) (arguments : Arguments) :
    Action Value := do
  return .string (basedText base mark (← wholeArgument (← arguments.single (text callee))))

/-- The number of the only code point of a text. -/
def pointOf (value : Value) : Action Value := do
  let wrongLength (length : Nat) : Action Value :=
    complain ⟨.typeError, text "ord() expected a character, but string of length " ++
      natText 10 length ++ text " found"⟩
  match value with
  | .string [point] | .bytes [point] => return .int (point : Nat)
  | .string points => wrongLength points.length
  | .bytes values => wrongLength values.length
  | other =>
      complain ⟨.typeError, text "ord() expected string of length 1, but " ++
        (← kindOf other).name ++ text " found"⟩

/-- The text of one code point. -/
def textOfPoint (value : Value) : Action Value := do
  let number ← wholeArgument value
  if 0 ≤ number && number < 0x110000 then return .string [number.toNat]
  else complain (.value "chr() arg not in range(0x110000)")

/-- A whole number rounded to a multiple of a power of ten, a tie to the even multiple. -/
def roundWhole (number : Int) (places : Int) : Int :=
  if 0 ≤ places then number
  else
    let unit := tenTo (-places).toNat
    let rounded : Int := roundQuotient number.natAbs unit * unit
    if number < 0 then -rounded else rounded

/-- A floating-point number rounded to some places behind the point. -/
def roundFloat (number : Float) (places : Int) : Float :=
  match FloatParts.ofFloat number with
  | .finite parts =>
      if 400 < places then number
      else if places < -400 then floatOfBits parts.isNegative 0
      else floatOfDecimal parts.isNegative (parts.roundScaled places) (-places)
  | _ => number

/-- A number rounded. -/
def rounded (arguments : Arguments) : Action Value := do
  let signature : Signature :=
    { callee := text "round"
      unnamed := 0
      names := ["number", "ndigits"]
      positions := 2
      needed := 1 }
  let bound ← signature.bind arguments
  let value := (bound.head?.getD none).getD .nothing
  let places := ((bound[1]?).getD none).getD .nothing
  match value with
  | .float number =>
      if places.isNothing then
        match FloatParts.ofFloat number with
        | .finite parts => return .int parts.nearest
        | .infinite _ => complain (.overflow "cannot convert float infinity to integer")
        | .notNumber => complain (.value "cannot convert float NaN to integer")
      else
        let result := roundFloat number (← wholeArgument places)
        if result.isInf && !number.isInf then
          complain (.overflow "rounded value too large to represent")
        else return .float result
  | other =>
      match other.int? with
      | some number =>
          if places.isNothing then return .int number
          else return .int (roundWhole number (← wholeArgument places))
      | none =>
          complain ⟨.typeError, text "type " ++ (← kindOf other).name ++
            text " doesn't define __round__ method"⟩

/-- The quotient and the remainder of a division. -/
def divided (left right : Value) : Action Value := do
  match left.int?, right.int? with
  | some first, some second =>
      if second = 0 then complain (.zeroDivision "integer division or modulo by zero")
      else return .tuple [.int (first.fdiv second), .int (first.fmod second)]
  | _, _ =>
      match left.float?, right.float? with
      | some first, some second => do
          let first ← settle first
          let second ← settle second
          if second == 0 then complain (.zeroDivision "float divmod()")
          else
            let (quotient, remainder) := floorDivideFloats first second
            return .tuple [.float quotient, .float remainder]
      | _, _ => complain (.operands "divmod()" (← kindOf left) (← kindOf right))

/-- A power of whole numbers on the clock of another one. -/
def powerModulo (base : Int) (modulus : Int) : Nat → Nat → Int
  | 0, _ => 0
  | _ + 1, 0 => (1 : Int).fmod modulus
  | fuel + 1, exponent =>
      let half := powerModulo base modulus fuel (exponent / 2)
      let square := (half * half).fmod modulus
      if exponent % 2 = 0 then square else (square * base).fmod modulus

/-- A power, perhaps on a clock. -/
def powerOf (arguments : Arguments) : Action Value := do
  let signature : Signature :=
    { callee := text "pow"
      unnamed := 0
      names := ["base", "exp", "mod"]
      positions := 3
      needed := 2 }
  match ← signature.bind arguments with
  | [some base, some exponent, modulus] =>
      match modulus.getD .nothing with
      | .nothing => combine .power false base exponent
      | modulus =>
          match base.int?, exponent.int?, modulus.int? with
          | some base, some exponent, some modulus =>
              if modulus = 0 then complain (.value "pow() 3rd argument cannot be 0")
              else if exponent < 0 then unsupported "inverses on a clock"
              else
                return .int (powerModulo base modulus (exponent.toNat.log2 + 2) exponent.toNat)
          | _, _, _ =>
              complain (.type
                "pow() 3rd argument not allowed unless all arguments are integers")
  | _ => return .nothing

/-- A value in a written format. -/
def formatted (arguments : Arguments) : Action Value := do
  arguments.requireUnnamed (text "format")
  Arguments.between (text "format") 1 2 arguments.positional
  match arguments.positional with
  | [value] => return .string (← formatValue value [])
  | [value, .string written] => return .string (← formatValue value written)
  | [_, other] =>
      complain ⟨.typeError, text "format() argument 2 must be str, not " ++
        (← kindOf other).name⟩
  | _ => return .nothing

/-- The name of an attribute that is asked for. -/
def attributeName (value : Value) : Action Name := do
  match value with
  | .string name => return name
  | other =>
      complain ⟨.typeError, text "attribute name must be string, not " ++
        Complaint.marked (← kindOf other).name⟩

/-- The attribute of a value, if it has it. -/
def attributeOf? (value : Value) (name : Name) : Action (Option Value) := do
  match ← attempt (attributeOf value name) with
  | .ok found => return some found
  | .error exception =>
      match ← load exception with
      | .exception .attributeError _ => return none
      | _ => throw (.raised exception)

/-- The attribute with a name, or another value. -/
def getAttribute (arguments : Arguments) : Action Value := do
  arguments.requireUnnamed (text "getattr")
  Arguments.between (text "getattr") 2 3 arguments.positional
  match arguments.positional with
  | [value, name] => attributeOf value (← attributeName name)
  | [value, name, usual] => return (← attributeOf? value (← attributeName name)).getD usual
  | _ => return .nothing

/-- A value has an attribute. -/
def hasAttribute (arguments : Arguments) : Action Value := do
  arguments.requireUnnamed (text "hasattr")
  Arguments.between (text "hasattr") 2 2 arguments.positional
  match arguments.positional with
  | [value, name] => return .bool (← attributeOf? value (← attributeName name)).isSome
  | _ => return .nothing

/-- A value that can be called. -/
def isCallable (value : Value) : Action Bool := do
  match value with
  | .ofKind _ | .builtin _ | .method _ _ | .unboundMethod _ _ => return true
  | .ref address =>
      match ← load address with
      | .function _ => return true
      | _ => return false
  | _ => return false

/-- The next value of an iterator, or another value. -/
def nextOf (engine : Engine) (arguments : Arguments) : Action Value := do
  arguments.requireUnnamed (text "next")
  Arguments.between (text "next") 1 2 arguments.positional
  match arguments.positional with
  | [] => return .nothing
  | iterator :: usual => do
      match ← draw engine iterator, usual with
      | some value, _ => return value
      | none, usual :: _ => return usual
      | none, [] => raiseWith .stopIteration []

/-- A public function is called. -/
def applyBuiltin (engine : Engine) (function : Builtin) (arguments : Arguments) :
    Action Value := do
  match function with
  | .written => unsupported "this call"
  | .abs => magnitude (← arguments.single (text "abs"))
  | .all => do
      let iterator ← iterate (← arguments.single (text "all"))
      return .bool !(← drawsTruth engine false iterator (← roundsOf iterator))
  | .any => do
      let iterator ← iterate (← arguments.single (text "any"))
      return .bool (← drawsTruth engine true iterator (← roundsOf iterator))
  | .ascii => return .string (asciiOnly (← display (← arguments.single (text "ascii"))))
  | .bin => basedOf "bin" 2 "0b" arguments
  | .callable => return .bool (← isCallable (← arguments.single (text "callable")))
  | .chr => textOfPoint (← arguments.single (text "chr"))
  | .divmod => do
      arguments.requireUnnamed (text "divmod")
      Arguments.between (text "divmod") 2 2 arguments.positional
      match arguments.positional with
      | [left, right] => divided left right
      | _ => return .nothing
  | .format => formatted arguments
  | .getattr => getAttribute arguments
  | .hasattr => hasAttribute arguments
  | .hash => unsupported "hash values"
  | .hex => basedOf "hex" 16 "0x" arguments
  | .isinstance => isInstance arguments
  | .issubclass => isSubclass arguments
  | .iter => do
      arguments.requireUnnamed (text "iter")
      Arguments.between (text "iter") 1 2 arguments.positional
      match arguments.positional with
      | [value] => iterate value
      | _ => unsupported "iteration by calls"
  | .len => lengthOf (← arguments.single (text "len"))
  | .max => bestOf engine "max" .greater arguments
  | .min => bestOf engine "min" .less arguments
  | .next => nextOf engine arguments
  | .oct => basedOf "oct" 8 "0o" arguments
  | .ord => pointOf (← arguments.single (text "ord"))
  | .pow => powerOf arguments
  | .print => printed arguments
  | .repr => return .string (← display (← arguments.single (text "repr")))
  | .round => rounded arguments
  | .sorted => sortedOf engine arguments
  | .sum => sumOf engine arguments
  | .other _ => unsupported "this public function"

end Stencil.Run
