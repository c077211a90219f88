import Stencil.Number.Reading
import Stencil.Run.Arguments
import Stencil.Text.Case
import Stencil.Text.Lines

/-! # Methods of texts

A method of a text never changes it. Places inside a text are given as for a range of
indices, and a search that is limited to such a range counts from the start of the text.
-/

namespace Stencil.Run

open Script

/-- What a method of a text does. -/
abbrev StringMethod := Engine → Text → Arguments → Action Value

namespace StringMethod

/-- A method without arguments. -/
def plain (name : String) (result : Text → Value) : String × StringMethod :=
  (name, fun _ value arguments => do
    arguments.requireNone (text ("str." ++ name))
    return result value)

/-- A method that gives another text. -/
def mapping (name : String) (result : Text → Text) : String × StringMethod :=
  plain name fun value => .string (result value)

/-- A method that takes marks, or blanks, off a text. -/
def stripping (name : String) (result : (CodePoint → Bool) → Text → Text) :
    String × StringMethod :=
  (name, fun _ value arguments => do
    arguments.requireUnnamed (text ("str." ++ name))
    Arguments.between (text name) 0 1 arguments.positional
    match arguments.positional with
    | [] | [.nothing] => return .string (result CodePoint.isBlank value)
    | .string marks :: _ => return .string (result marks.contains value)
    | _ => complain (.type (name ++ " arg must be None or str")))

/-- The texts that an iterable has for joining. -/
def joinable : Nat → List Value → Action (List Text)
  | _, [] => return []
  | place, .string value :: rest => return value :: (← joinable (place + 1) rest)
  | place, other :: _ => do
      complain ⟨.typeError, text "sequence item " ++ natText 10 place ++
        text ": expected str instance, " ++ (← kindOf other).name ++ text " found"⟩

/-- Texts are joined with a separator between them. -/
def join : StringMethod := fun engine separator arguments => do
  let items ← arguments.single (text "str.join")
  let values ← collectOr engine (.type "can only join an iterable") items
  return .string (Text.join separator (← joinable 0 values))

/-- A number of times, where a negative one stands for all. -/
def times (all : Nat) (count : Int) : Nat := if count < 0 then all else min all count.toNat

/-- The argument at a position as a text. -/
def textArgument (callee : String) (position : Nat) (value : Value) : Action Text := do
  match value with
  | .string value => return value
  | other => complain (.call (text callee) (text "argument " ++ natText 10 position ++
      text " must be str, not " ++ (← kindOf other).name))

/-- Occurrences of a needle give way to another text. -/
def replace : StringMethod := fun _ value arguments => do
  arguments.requireUnnamed (text "str.replace")
  Arguments.between (text "replace") 2 3 arguments.positional
  match arguments.positional with
  | needle :: replacement :: rest => do
      let needle ← textArgument "replace" 1 needle
      let replacement ← textArgument "replace" 2 replacement
      let count ←
        match rest with
        | [] => pure (-1)
        | count :: _ => smallArgument count
      return .string (Text.replace needle replacement (times (value.length + 1) count) value)
  | _ => return .string value

/-- The separator of a split, and how often it counts. -/
def splitArguments (name : String) (all : Nat) (arguments : Arguments) :
    Action (Option Text × Nat) := do
  let signature : Signature :=
    { callee := text name
      unnamed := 0
      names := ["sep", "maxsplit"]
      positions := 2
      needed := 0 }
  let bound ← signature.bind arguments
  let count ←
    match bound[1]? with
    | some (some count) => smallArgument count
    | _ => pure (-1)
  match (bound.head?.getD none).getD .nothing with
  | .nothing => return (none, times all count)
  | .string [] => complain (.value "empty separator")
  | .string separator => return (some separator, times all count)
  | other =>
      complain ⟨.typeError, text "must be str or None, not " ++ (← kindOf other).name⟩

/-- A list of texts. -/
def listOfTexts (parts : List Text) : Action Value := newList (parts.map Value.string).toArray

/-- A text is split at a separator or at blanks. -/
def splitting (name : String) (atBlanks : Nat → Text → List Text)
    (atSeparator : Text → Nat → Text → List Text) : String × StringMethod :=
  (name, fun _ value arguments => do
    let (separator, limit) ← splitArguments name (value.length + 1) arguments
    match separator with
    | none => listOfTexts (atBlanks limit value)
    | some separator => listOfTexts (atSeparator separator limit value))

/-- The part of a text that two optional places select, with the place of its start; there is
none when the places lie crosswise. -/
def section? (value : Text) (places : List Value) : Action (Option (Nat × Text)) := do
  let selection ← settle (Selection.ofSlice value.length (places.headD .nothing)
    ((places.drop 1).headD .nothing) .nothing)
  let beyond :=
    match places with
    | start :: _ => start.int?.any fun start => (value.length : Int) < start
    | [] => false
  if selection.stop < selection.start || beyond then return none
  else return some (selection.start.toNat, selection.pick value)

/-- A text begins or ends in one of several texts. -/
def edging (name : String) (test : Text → Text → Bool) : String × StringMethod :=
  (name, fun _ value arguments => do
    arguments.requireUnnamed (text ("str." ++ name))
    match arguments.positional with
    | [] => complain (.call (text name) (text "takes at least 1 argument (0 given)"))
    | edge :: places => do
        if 2 < places.length then
          complain (.call (text name) (text "takes at most 3 arguments (" ++
            natText 10 (places.length + 1) ++ text " given)"))
        let inside ← section? value places
        let tests (edge : Text) : Bool := inside.any fun found => test edge found.2
        match edge with
        | .string edge => return .bool (tests edge)
        | .tuple edges =>
            let rec go : List Value → Action Value
              | [] => return .bool false
              | .string edge :: rest => if tests edge then return .bool true else go rest
              | other :: _ => do
                  complain ⟨.typeError, text "tuple for " ++ text name ++
                    text " must only contain str, not " ++ (← kindOf other).name⟩
            go edges
        | other =>
            complain ⟨.typeError, text name ++
              text " first arg must be str or a tuple of str, not " ++ (← kindOf other).name⟩)

/-- A needle is looked for in a text or in a part of it. -/
def searching (name : String) (result : Text → Option (Nat × Text) → Action Value) :
    String × StringMethod :=
  (name, fun _ value arguments => do
    arguments.requireUnnamed (text ("str." ++ name))
    match arguments.positional with
    | [] => complain (.call (text name) (text "takes at least 1 argument (0 given)"))
    | needle :: places => do
        if 2 < places.length then
          complain (.call (text name) (text "takes at most 3 arguments (" ++
            natText 10 (places.length + 1) ++ text " given)"))
        let inside ← section? value places
        match needle with
        | .string needle => result needle inside
        | other => complain ⟨.typeError, text "must be str, not " ++ (← kindOf other).name⟩)

/-- The place of a needle in a part of a text, counted from the start of the text. -/
def placeIn (find : Text → Text → Option Nat) (needle : Text) (inside : Option (Nat × Text)) :
    Option Int :=
  inside.bind fun (start, part) => (find needle part).map fun place => (start + place : Int)

/-- A place that must be there. -/
def requirePlace : Option Int → Action Value
  | some place => return .int place
  | none => complain (.value "substring not found")

/-- A text is filled up to a width. -/
def filling (name : String) (place : CodePoint → Nat → Text → Text) : String × StringMethod :=
  (name, fun _ value arguments => do
    arguments.requireUnnamed (text ("str." ++ name))
    Arguments.between (text name) 1 2 arguments.positional
    match arguments.positional with
    | [] => return .string value
    | width :: fill => do
        let width ← smallArgument width
        match fill with
        | [] => return .string (place CodePoint.space width.toNat value)
        | .string [fill] :: _ => return .string (place fill width.toNat value)
        | .string _ :: _ =>
            complain (.type "The fill character must be exactly one character long")
        | other :: _ =>
            complain ⟨.typeError, text "The fill character must be a unicode character, not " ++
              (← kindOf other).name⟩)

/-- A text in the middle of a width; of an odd number of places to fill, the left side gets one
more when the width is odd. -/
def centered (fill : CodePoint) (width : Nat) (value : Text) : Text :=
  let missing := width - value.length
  let left := missing / 2 + if missing % 2 = 1 && width % 2 = 1 then 1 else 0
  List.replicate left fill ++ value ++ List.replicate (missing - left) fill

/-- Zeros behind the sign of a number up to a width. -/
def zeroFilled (width : Nat) (value : Text) : Text :=
  let zeros := List.replicate (width - value.length) 48
  match value with
  | 43 :: rest => 43 :: zeros ++ rest
  | 45 :: rest => 45 :: zeros ++ rest
  | rest => zeros ++ rest

/-- A text filled up with zeros. -/
def zeroFill : StringMethod := fun _ value arguments => do
  let width ← smallArgument (← arguments.single (text "str.zfill"))
  return .string (zeroFilled width.toNat value)

/-- A text without an edge that it may have. -/
def trimming (name : String) (result : Text → Text → Text) : String × StringMethod :=
  (name, fun _ value arguments => do
    match ← arguments.single (text ("str." ++ name)) with
    | .string edge => return .string (result edge value)
    | other => complain (.call (text name) (text "argument must be str, not " ++
        (← kindOf other).name)))

/-- The lines of a text, with their ends or without. -/
def splitLines : StringMethod := fun _ value arguments => do
  let signature : Signature :=
    { callee := text "splitlines"
      unnamed := 0
      names := ["keepends"]
      positions := 1
      needed := 0 }
  let bound ← signature.bind arguments
  match bound with
  | [some keeps] =>
      if ← isTrue keeps then unsupported "lines with their ends"
      else listOfTexts (Text.splitLines value)
  | _ => listOfTexts (Text.splitLines value)

/-- A text with a capital first letter and small letters behind it. -/
def capitalized : Text → Text
  | [] => []
  | first :: rest => titleForms.apply first ++ Text.toSmallFrom [first] rest

/-- Three parts of a text around a separator. -/
def partitioning (name : String) (find : Text → Text → Option Nat)
    (missing : Text → List Text) : String × StringMethod :=
  (name, fun _ value arguments => do
    match ← arguments.single (text ("str." ++ name)) with
    | .string [] => complain (.value "empty separator")
    | .string separator =>
        let parts :=
          match find separator value with
          | some place =>
              [value.take place, separator, value.drop (place + separator.length)]
          | none => missing value
        return .tuple (parts.map Value.string)
    | other => complain ⟨.typeError, text "must be str, not " ++ (← kindOf other).name⟩)

/-- The methods that are run. -/
def known : List (String × StringMethod) :=
  [mapping "upper" Text.toCapitals, mapping "lower" Text.toSmall, mapping "title" Text.toTitle,
    mapping "capitalize" capitalized,
    ("join", join), ("replace", replace), ("zfill", zeroFill), ("splitlines", splitLines),
    stripping "strip" fun test value => Text.dropEndWhile test (value.dropWhile test),
    stripping "lstrip" fun test value => value.dropWhile test,
    stripping "rstrip" Text.dropEndWhile,
    splitting "split" Text.wordsBetween Text.partsBetween,
    splitting "rsplit" Text.wordsBetweenFromEnd Text.partsBetweenFromEnd,
    edging "startswith" List.isPrefixOf, edging "endswith" List.isSuffixOf,
    searching "find" fun needle inside =>
      return .int ((placeIn Text.place? needle inside).getD (-1)),
    searching "rfind" fun needle inside =>
      return .int ((placeIn Text.lastPlace? needle inside).getD (-1)),
    searching "index" fun needle inside => requirePlace (placeIn Text.place? needle inside),
    searching "rindex" fun needle inside => requirePlace (placeIn Text.lastPlace? needle inside),
    searching "count" fun needle inside =>
      return .int ((inside.map fun found => Text.occurrences needle found.2).getD 0 : Nat),
    filling "ljust" fun fill width value =>
      value ++ List.replicate (width - value.length) fill,
    filling "rjust" fun fill width value =>
      List.replicate (width - value.length) fill ++ value,
    filling "center" centered,
    trimming "removeprefix" fun edge value =>
      if edge.isPrefixOf value then value.drop edge.length else value,
    trimming "removesuffix" fun edge value =>
      if edge.isSuffixOf value then value.take (value.length - edge.length) else value,
    partitioning "partition" Text.place? fun value => [value, [], []],
    partitioning "rpartition" Text.lastPlace? fun value => [[], [], value],
    plain "isdigit" fun value => .bool (!value.isEmpty && value.all CodePoint.isAnyDigit),
    plain "isdecimal" fun value =>
      .bool (!value.isEmpty && value.all fun point => point.decimalValue?.isSome),
    plain "isspace" fun value => .bool (!value.isEmpty && value.all CodePoint.isBlank),
    plain "isascii" fun value => .bool (value.all (· < 128))]

/-- The names of the other methods. -/
def others : List String :=
  ["casefold", "encode", "expandtabs", "format", "format_map", "isalnum", "isalpha",
    "isidentifier", "islower", "isnumeric", "isprintable", "istitle", "isupper", "maketrans",
    "swapcase", "translate"]

end StringMethod

end Stencil.Run
