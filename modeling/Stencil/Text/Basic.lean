/-! # Text as code points

Template text is a list of code points, and a code point is its number. A lone
surrogate is a code point like any other, so every text that a caller can hand
over is a value of `Stencil.Text`, and every offset counts code points. Two
operations carry most of the library: the first occurrence of a marker
(`Stencil.Text.splitAt?`) and the replacement of one code point by a text
(`Stencil.Text.substitute`).
-/

namespace Stencil

/-- A code point, given by its number. -/
abbrev CodePoint := Nat

/-- A text is the list of its code points. -/
abbrev Text := List CodePoint

/-- The text that a string writes. -/
def text (written : String) : Text := written.toList.map Char.toNat

namespace CodePoint

/-- The tabulator. -/
@[match_pattern] abbrev tab : CodePoint := 9

/-- The line feed. -/
@[match_pattern] abbrev lineFeed : CodePoint := 10

/-- The form feed. -/
@[match_pattern] abbrev formFeed : CodePoint := 12

/-- The carriage return. -/
@[match_pattern] abbrev carriageReturn : CodePoint := 13

/-- The space. -/
@[match_pattern] abbrev space : CodePoint := 32

/-- The double quotation mark. -/
@[match_pattern] abbrev doubleQuote : CodePoint := 34

/-- The number sign, which opens a comment. -/
@[match_pattern] abbrev hash : CodePoint := 35

/-- The apostrophe. -/
@[match_pattern] abbrev apostrophe : CodePoint := 39

/-- The backslash. -/
@[match_pattern] abbrev backslash : CodePoint := 92

/-- A surrogate has no encoding of its own. -/
def isSurrogate (point : CodePoint) : Bool := 0xD800 ≤ point && point ≤ 0xDFFF

/-- An ASCII decimal digit. -/
def isDigit (point : CodePoint) : Bool := 48 ≤ point && point ≤ 57

/-- A small ASCII letter. -/
def isSmallLetter (point : CodePoint) : Bool := 97 ≤ point && point ≤ 122

/-- A capital ASCII letter. -/
def isCapitalLetter (point : CodePoint) : Bool := 65 ≤ point && point ≤ 90

/-- An ASCII letter. -/
def isLetter (point : CodePoint) : Bool := point.isSmallLetter || point.isCapitalLetter

/-- The value of a digit in a base up to 36, by ASCII digits and letters. -/
def digitValue? (point : CodePoint) : Option Nat :=
  if point.isDigit then some (point - 48)
  else if point.isSmallLetter then some (point - 87)
  else if point.isCapitalLetter then some (point - 55)
  else none

/-- The digit that writes a value below 36, with small letters. -/
def ofDigitValue (value : Nat) : CodePoint := if value < 10 then 48 + value else 87 + value

end CodePoint

/-- A set of code points given by its maximal intervals, both ends included. -/
abbrev Intervals := List (CodePoint × CodePoint)

/-- A code point lies in one of the intervals. -/
def Intervals.has (intervals : Intervals) (point : CodePoint) : Bool :=
  intervals.any fun interval => interval.1 ≤ point && point ≤ interval.2

namespace Text

/-- A run of spaces. -/
def spaces (count : Nat) : Text := List.replicate count CodePoint.space

/-- Texts written one after the other with a separator between them. -/
def join (separator : Text) : List Text → Text
  | [] => []
  | [last] => last
  | first :: rest => first ++ separator ++ join separator rest

/-- The text before the first occurrence of a needle, and the text after it. -/
def splitAt? (needle : Text) : Text → Option (Text × Text)
  | [] => if needle.isEmpty then some ([], []) else none
  | point :: rest =>
      if needle.isPrefixOf (point :: rest) then
        some ([], (point :: rest).drop needle.length)
      else
        (splitAt? needle rest).map fun (before, after) => (point :: before, after)

/-- A found needle divides the text into what is before it, itself and what is after it. -/
theorem eq_of_splitAt? {needle : Text} :
    ∀ {whole before after : Text},
      splitAt? needle whole = some (before, after) → whole = before ++ needle ++ after
  | [], before, after, found => by
      cases needle with
      | nil =>
          simp only [splitAt?, List.isEmpty_nil, ↓reduceIte, Option.some.injEq,
            Prod.mk.injEq] at found
          simp [← found.1, ← found.2]
      | cons point needle => simp [splitAt?] at found
  | point :: rest, before, after, found => by
      by_cases starts : needle.isPrefixOf (point :: rest) = true
      · simp only [splitAt?, starts, ↓reduceIte, Option.some.injEq, Prod.mk.injEq] at found
        obtain ⟨rfl, rfl⟩ := found
        obtain ⟨tail, whole⟩ := List.isPrefixOf_iff_prefix.mp starts
        simp [← whole]
      · simp only [splitAt?, starts, Bool.false_eq_true, ↓reduceIte, Option.map_eq_some_iff,
          Prod.exists, Prod.mk.injEq] at found
        obtain ⟨inner, tail, deeper, rfl, rfl⟩ := found
        simp [eq_of_splitAt? deeper]

/-- The text after a found needle is shorter than the whole unless the needle is empty. -/
theorem length_splitAt?_lt {needle whole before after : Text} (held : needle ≠ [])
    (found : splitAt? needle whole = some (before, after)) : after.length < whole.length := by
  have positive := List.length_pos_iff.mpr held
  rw [eq_of_splitAt? found]
  simp only [List.length_append]
  omega

/-- Text that does not begin with the needle has something before it. -/
theorem before_ne_nil_of_splitAt? {needle whole before after : Text}
    (differs : needle.isPrefixOf whole = false)
    (found : splitAt? needle whole = some (before, after)) : before ≠ [] := by
  rintro rfl
  have whole_eq := eq_of_splitAt? found
  rw [List.nil_append] at whole_eq
  have starts := List.isPrefixOf_iff_prefix.mpr ⟨after, whole_eq.symm⟩
  rw [differs] at starts
  exact Bool.noConfusion starts

/-- A needle occurs somewhere in a text. -/
def occursIn (needle haystack : Text) : Bool := (splitAt? needle haystack).isSome

/-- What follows a start in a text that begins with it. -/
def after? (start whole : Text) : Option Text :=
  if start.isPrefixOf whole then some (whole.drop start.length) else none

/-- A text ends in another. -/
def endsIn (ending whole : Text) : Bool := ending.isSuffixOf whole

/-- Every occurrence of one code point gives way to a text. -/
def substitute (target : CodePoint) (replacement : Text) (whole : Text) : Text :=
  whole.flatMap fun point => if point = target then replacement else [point]

/-- The text without the longest end whose code points all satisfy a test. -/
def dropEndWhile (test : CodePoint → Bool) (whole : Text) : Text :=
  (whole.reverse.dropWhile test).reverse

/-- The parts of a text between the occurrences of one code point. -/
def splitOn (separator : CodePoint) : Text → List Text
  | [] => [[]]
  | point :: rest =>
      if point = separator then
        [] :: splitOn separator rest
      else
        match splitOn separator rest with
        | [] => [[point]]
        | part :: parts => (point :: part) :: parts

/-- The order of texts is the dictionary order of their code points. -/
def precedes : Text → Text → Bool
  | [], _ => true
  | _ :: _, [] => false
  | left :: lefts, right :: rights =>
      if left < right then true else if right < left then false else precedes lefts rights

/-- Texts in dictionary order, each one once. -/
def sortedSet (names : List Text) : List Text := names.eraseDups.mergeSort precedes

end Text

/-- The digits of a number in a base, most significant first, before a tail. -/
def digitsOnto (base : Nat) (fuel value : Nat) (tail : Text) : Text :=
  match fuel with
  | 0 => tail
  | fuel + 1 =>
      let extended := CodePoint.ofDigitValue (value % base) :: tail
      if value < base then extended else digitsOnto base fuel (value / base) extended

/-- A natural number in a base of at least two, with small letters above nine. -/
def natText (base value : Nat) : Text := digitsOnto base (value.log2 + 1) value []

/-- A whole number in decimal notation. -/
def intText (value : Int) : Text :=
  if value < 0 then 45 :: natText 10 value.natAbs else natText 10 value.natAbs

/-- A number in hexadecimal notation, filled up with zeros to a width. -/
def hexText (width value : Nat) : Text :=
  let digits := natText 16 value
  List.replicate (width - digits.length) 48 ++ digits

/-- The number that digits of a base write; `none` when one is not such a digit. -/
def natOfDigits? (base : Nat) (digits : Text) : Option Nat :=
  digits.foldlM (fun value point =>
    match point.digitValue? with
    | some digit => if digit < base then some (value * base + digit) else none
    | none => none) 0

end Stencil
