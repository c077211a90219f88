import Stencil.Run.Comparison
import Stencil.Run.Format

/-! # Texts with percent signs

Each percent sign in a text stands for one of the values on its right, or for the
value of a key that is named in parentheses. Flags, a width and a precision may
follow it, and a letter that says how the value is written.
-/

namespace Stencil.Run

open CodePoint

/-- A place in a text that takes a value. -/
structure PercentField where
  isLeft : Bool
  showsPlus : Bool
  showsSpace : Bool
  /-- The base is shown or the point is kept. -/
  isAlternate : Bool
  isZeroPadded : Bool
  width : Nat
  precision : Option Nat
  deriving DecidableEq, Repr

/-- A place without flags. -/
def PercentField.plain : PercentField := ⟨false, false, false, false, false, 0, none⟩

/-- The values that are left for a text, and the mapping that names are looked up in. -/
structure PercentValues where
  rest : List Value
  mapping : Option Value

/-- A computation over the values that are left. -/
abbrev Percent := StateT PercentValues Action

/-- The next value. -/
def nextValue : Percent Value := do
  let values ← get
  match values.rest with
  | first :: rest =>
      set { values with rest := rest }
      return first
  | [] => complain (.type "not enough arguments for format string")

/-- The flags at the start of a text, and what is behind them. -/
def takeFlags (field : PercentField) : Text → PercentField × Text
  | [] => (field, [])
  | point :: rest =>
      if point = letter "-" then takeFlags { field with isLeft := true } rest
      else if point = letter "+" then takeFlags { field with showsPlus := true } rest
      else if point = space then takeFlags { field with showsSpace := true } rest
      else if point = hash then takeFlags { field with isAlternate := true } rest
      else if point = letter "0" then takeFlags { field with isZeroPadded := true } rest
      else (field, point :: rest)

/-- A number below a bound that is written, or taken from the values. -/
def takeCount (bound : Nat) (tooBig tooLarge : String) (rest : Text) :
    Percent (Option Int × Text) := do
  match takePoint (letter "*") rest with
  | none =>
      let (found, after) := takeNumber rest
      if bound ≤ found.getD 0 then complain (.value tooBig)
      else return (found.map Int.ofNat, after)
  | some after =>
      match (← nextValue).int? with
      | none => complain (.type "* wants int")
      | some count =>
          let limit : Int := bound
          if limit ≤ count || count < -limit then complain (.overflow tooLarge)
          else return (some count, after)

/-- A written value in its place: a sign, the mark of a base, and the rest. -/
def PercentField.place (field : PercentField) (isNumber : Bool) (sign mark content : Text) :
    Text :=
  let missing := field.width - (sign.length + mark.length + content.length)
  if field.isLeft then sign ++ mark ++ content ++ Text.spaces missing
  else if field.isZeroPadded && isNumber then
    sign ++ mark ++ List.replicate missing (letter "0") ++ content
  else Text.spaces missing ++ sign ++ mark ++ content

/-- The sign of a number in a place. -/
def PercentField.sign (field : PercentField) (isNegative : Bool) : Text :=
  if isNegative then text "-"
  else if field.showsPlus then text "+"
  else if field.showsSpace then text " " else []

/-- The whole number that a floating-point number is cut to. -/
def truncateFloat (value : Float) : Except Complaint Int :=
  match FloatParts.ofFloat value with
  | .finite parts => .ok parts.truncate
  | .infinite _ => .error (.overflow "cannot convert float infinity to integer")
  | .notNumber => .error (.value "cannot convert float NaN to integer")

/-- A whole number in a place. -/
def PercentField.placeInt (field : PercentField) (style : CodePoint) (value : Int) :
    Except Complaint Text := do
  let base := if style = letter "o" then 8 else if style = letter "x" || style = letter "X" then 16
    else 10
  let digits ← if base = 10 then displayInt value.natAbs else pure (natText base value.natAbs)
  let digits := List.replicate (field.precision.getD 0 - digits.length) 48 ++ digits
  let digits := if style = letter "X" then capitalLetters digits else digits
  let mark := if field.isAlternate && base ≠ 10 then [48, style] else []
  return field.place true (field.sign (value < 0)) mark digits

/-- A floating-point number in a place. -/
def PercentField.placeFloat (field : PercentField) (style : CodePoint) (value : Float) : Text :=
  let isCapital := isCapitalLetter style
  let format : Format :=
    { fill := space, align := none, sign := none, noNegativeZero := false
      isAlternate := field.isAlternate, isZeroPadded := false, width := 0, grouping := none
      precision := some (field.precision.getD 6), style := none }
  let (whole, rest) := floatPieces format (some (if isCapital then style + 32 else style)) value
  let shown := if isCapital then capitalLetters (whole ++ rest) else whole ++ rest
  field.place true (field.sign (twoTo 63 ≤ value.toBits.toNat && !value.isNaN)) [] shown

/-- The complaint about a value that is not a number of the kind that a letter wants. -/
def percentKind (style : CodePoint) (wanted : String) (kind : Kind) : Complaint :=
  ⟨.typeError, text "%" ++ [style] ++ text " format: " ++ text wanted ++
    text " is required, not " ++ kind.name⟩

/-- A value in a place, written as a letter says. -/
def PercentField.placeValue (field : PercentField) (style : CodePoint) (index : Nat)
    (value : Value) : Action Text := do
  let placeText (content : Text) : Text :=
    field.place false [] [] ((field.precision.map fun count => content.take count).getD content)
  if style = letter "s" then return placeText (← textOf value)
  else if style = letter "r" then return placeText (← display value)
  else if style = letter "a" then
    return placeText ((← display value).flatMap fun point =>
      if point < 128 then [point] else Text.numericEscape point)
  else if (text "diu").contains style then
    match value with
    | .float value => settle (truncateFloat value >>= field.placeInt style)
    | other =>
        match other.int? with
        | some value => settle (field.placeInt style value)
        | none => complain (percentKind style "a real number" (← kindOf value))
  else if (text "oxX").contains style then
    match value.int? with
    | some value => settle (field.placeInt style value)
    | none => complain (percentKind style "an integer" (← kindOf value))
  else if (text "eEfFgG").contains style then
    match value with
    | .float value => return field.placeFloat style value
    | other =>
        match other.int? with
        | some value =>
            match floatOfInt? value with
            | some value => return field.placeFloat style value
            | none => complain (.overflow "int too large to convert to float")
        | none =>
            complain ⟨.typeError, text "must be real number, not " ++ (← kindOf value).name⟩
  else if style = letter "c" then
    match value, value.int? with
    | .string [point], _ => return field.place false [] [] [point]
    | _, some number =>
        if !fitsPlace number then complain (.type "%c requires int or char")
        else if 0 ≤ number && number < 0x110000 then
          return field.place false [] [] [number.toNat]
        else complain (.overflow "%c arg not in range(0x110000)")
    | _, none => complain (.type "%c requires int or char")
  else
    complain ⟨.valueError, text "unsupported format character '" ++
      [if 31 ≤ style && style < 127 then style else letter "?"] ++ text "' (0x" ++
      natText 16 style ++ text ") at index " ++ natText 10 index⟩

/-- The key in parentheses, and what is behind it. -/
def takeKey : Nat → Text → Option (Text × Text)
  | _, [] => none
  | depth, point :: rest =>
      if point = letter ")" then
        match depth with
        | 0 => some ([], rest)
        | depth + 1 => (takeKey depth rest).map fun (key, rest) => (point :: key, rest)
      else
        (takeKey (if point = letter "(" then depth + 1 else depth) rest).map fun (key, rest) =>
          (point :: key, rest)

/-- The value of a key that is a text in what a text is filled from. -/
def valueOfKey (mapping : Value) (key : Text) : Action Value := do
  let indexed (container : String) : Action Value :=
    complain (.indexKind container .string)
  match mapping, mapping.entriesIn? (← get) with
  | _, some entries =>
      match lookupKey (.string key) entries with
      | some found => return found
      | none => missingKey (.string key)
  | .bytes _, none => indexed "byte"
  | .range _ _ _, none => indexed "range"
  | _, none => indexed "list"

/-- The value that a place with a key takes is made the next value. -/
def takeNamed (rest : Text) : Percent Text := do
  match takePoint (letter "(") rest with
  | none => return rest
  | some inside =>
      let values ← get
      match values.mapping with
      | none => complain (.type "format requires a mapping")
      | some mapping =>
          match takeKey 0 inside with
          | none => complain (.value "incomplete format key")
          | some (key, after) =>
              set { values with rest := [← valueOfKey mapping key] }
              return after

/-- A place, from behind its percent sign: what it writes, and what is behind it. -/
def percentField (whole : Nat) (rest : Text) : Percent (Text × Text) := do
  let rest ← takeNamed rest
  let (field, rest) := takeFlags .plain rest
  let (width, rest) ← takeCount (twoTo 63) "width too big"
    "Python int too large to convert to C ssize_t" rest
  let field :=
    match width with
    | none => field
    | some count => { field with width := count.natAbs, isLeft := field.isLeft || count < 0 }
  let (field, rest) ←
    match takePoint (letter ".") rest with
    | none => pure (field, rest)
    | some after => do
        let (precision, after) ← takeCount (twoTo 31) "precision too big"
          "Python int too large to convert to C int" after
        pure ({ field with precision := some (precision.getD 0).toNat }, after)
  let rest :=
    match rest with
    | point :: after => if (text "hlL").contains point then after else rest
    | [] => rest
  match rest with
  | [] => complain (.value "incomplete format")
  | style :: after =>
      if style = letter "%" then return (text "%", after)
      else
        let value ← nextValue
        if roomLimit < field.width then outOfRoom
        else return (← field.placeValue style (whole - rest.length) value, after)

/-- A text with its places filled; each round reads at least one code point. -/
def fillPercent (whole : Nat) : Nat → Text → Percent Text
  | 0, _ => return []
  | _ + 1, [] => return []
  | fuel + 1, point :: rest => do
      if point = letter "%" then
        let (written, rest) ← percentField whole rest
        return written ++ (← fillPercent whole fuel rest)
      else return point :: (← fillPercent whole fuel rest)

/-- A text with percent signs filled with values. -/
def formatPercent (template : Text) (values : Value) : Action Text := do
  let store ← get
  let given : PercentValues :=
    match values with
    | .tuple items => ⟨items, none⟩
    | .string _ => ⟨[values], none⟩
    | .bytes _ | .range _ _ _ => ⟨[values], some values⟩
    | .ref address =>
        match store.object address with
        | .dict _ | .proxy _ | .list _ => ⟨[values], some values⟩
        | _ => ⟨[values], none⟩
    | other => ⟨[other], none⟩
  let (filled, left) ← (fillPercent template.length (template.length + 1) template).run given
  if !left.rest.isEmpty && left.mapping.isNone then
    complain (.type "not all arguments converted during string formatting")
  else return filled

end Stencil.Run
