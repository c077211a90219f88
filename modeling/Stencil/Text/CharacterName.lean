import Stencil.Text.Basic
import Stencil.Text.CharacterName.Alias
import Stencil.Text.CharacterName.AncientScripts
import Stencil.Text.CharacterName.Asia
import Stencil.Text.CharacterName.Components
import Stencil.Text.CharacterName.Letters
import Stencil.Text.CharacterName.Pictures
import Stencil.Text.CharacterName.Signs
import Stencil.Text.CharacterName.Syllables

/-! # Names of code points

Every character has a name by which an escape can ask for it. The names stand in tables
of lines. A line begins with the hexadecimal number of a code point, and behind a space
stand the names of that code point and of the ones that follow it, divided by
semicolons. A small letter at the start of a name stands for words of the name before it:
`a` for the first word, `b` for the first two. Syllables and ideographs of great numbers
are named by rules.
-/

namespace Stencil

/-- A search for a name that has come to some place of a table. -/
structure NameSearch where
  next : CodePoint
  /-- The words of the last name. -/
  previous : List Text
  found : Option CodePoint

namespace NameSearch

/-- A search at the start of a table. -/
def start : NameSearch := ⟨0, [], none⟩

/-- The words of a name, which may begin with words of the one before it. -/
def wordsOf (previous : List Text) (written : Text) : List Text :=
  match written with
  | [] => []
  | first :: rest =>
      if first.isSmallLetter then
        previous.take (first - 96) ++ Text.splitOn CodePoint.space rest
      else Text.splitOn CodePoint.space written

/-- The search behind a name of the table. -/
def passName (wanted : List Text) (search : NameSearch) (written : Text) : NameSearch :=
  let words := wordsOf search.previous written
  { next := search.next + 1
    previous := words
    found := if words = wanted then some search.next else search.found }

/-- The search behind a line of the table. -/
def passLine (wanted : List Text) (search : NameSearch) (line : Text) : NameSearch :=
  let first := (natOfDigits? 16 (line.takeWhile (· ≠ CodePoint.space))).getD 0
  let names := (line.dropWhile (· ≠ CodePoint.space)).drop 1
  (Text.splitOn 59 names).foldl (passName wanted) { search with next := first }

end NameSearch

/-- The code point that has a name in a table. -/
def lookupName (wanted : List Text) (table : String) : Option CodePoint :=
  ((Text.splitOn CodePoint.lineFeed (text table)).foldl (NameSearch.passLine wanted)
    NameSearch.start).found

namespace CharacterName

/-- The tables of all names. -/
def tables : List String :=
  [alphabets, nearEast, southAsia, eastAsia, phonetics, signs, shapes, syllables, presentation,
    oldScripts, oldLetters, cuneiform, hieroglyphs, components, music, pictures, secondNames]

/-- A name with capitals for the small ASCII letters. -/
def capital (name : Text) : Text :=
  name.map fun point => if point.isSmallLetter then point - 32 else point

/-- A number in hexadecimal notation with capitals. -/
def capitalHex (value : Nat) : Text := capital (natText 16 value)

/-- Characters that are named by a number: the start of the names, and their intervals. -/
def numbered : List (String × Intervals) :=
  [("CJK COMPATIBILITY IDEOGRAPH-", [(0xF900, 0xFA6D), (0xFA70, 0xFAD9), (0x2F800, 0x2FA1D)]),
    ("NUSHU CHARACTER-", [(0x1B170, 0x1B2FB)]),
    ("KHITAN SMALL SCRIPT CHARACTER-", [(0x18B00, 0x18CD5)])]

/-- The code point of a name that holds its number. -/
def ofNumbered? (name : Text) : Option CodePoint :=
  numbered.findSome? fun (start, intervals) => do
    let digits ← Text.after? (text start) name
    let point ← natOfDigits? 16 digits
    if intervals.has point && capitalHex point = digits then some point else none

/-- What the names of unified ideographs begin with. -/
def ideographStart : Text := text "CJK UNIFIED IDEOGRAPH-"

/-- The unified ideographs. -/
def ideographs : Intervals :=
  [(0x3400, 0x4DBF), (0x4E00, 0x9FFF), (0x20000, 0x2A6DF), (0x2A700, 0x2B738),
    (0x2B740, 0x2B81D), (0x2B820, 0x2CEA1), (0x2CEB0, 0x2EBE0), (0x30000, 0x3134A)]

/-- The ideograph of a number, which is written with four or five digits and capitals. -/
def ideograph? (digits : Text) : Option CodePoint := do
  let isWritten : Bool :=
    (digits.length = 4 || digits.length = 5) && digits.all fun point => !point.isSmallLetter
  let point ← natOfDigits? 16 digits
  if isWritten && ideographs.has point then some point else none

/-- What the names of composed syllables begin with. -/
def syllableStart : Text := text "HANGUL SYLLABLE "

/-- The names of the consonants that a syllable begins with. -/
def initials : List String :=
  ["G", "GG", "N", "D", "DD", "R", "M", "B", "BB", "S", "SS", "", "J", "JJ", "C", "K", "T", "P",
    "H"]

/-- The names of the vowels of a syllable. -/
def vowels : List String :=
  ["A", "AE", "YA", "YAE", "EO", "E", "YEO", "YE", "O", "WA", "WAE", "OE", "YO", "U", "WEO", "WE",
    "WI", "YU", "EU", "YI", "I"]

/-- The names of the consonants that a syllable ends in. -/
def finals : List String :=
  ["", "G", "GG", "GS", "N", "NJ", "NH", "D", "L", "LG", "LM", "LB", "LS", "LT", "LP", "LH", "M",
    "B", "BS", "S", "SS", "NG", "J", "C", "K", "T", "P", "H"]

/-- The longest of some parts that a text begins with: its index, and the rest of the text. -/
def takePart (parts : List String) (whole : Text) : Option (Nat × Text) :=
  parts.zipIdx.foldl (fun best (part, index) =>
    match Text.after? (text part) whole with
    | none => best
    | some rest =>
        match best with
        | some (_, shorter) => if rest.length < shorter.length then some (index, rest) else best
        | none => some (index, rest)) none

/-- The syllable that is composed of a consonant, a vowel and perhaps another consonant. -/
def syllable? (parts : Text) : Option CodePoint := do
  let (initial, rest) ← takePart initials parts
  let (vowel, rest) ← takePart vowels rest
  let (final, rest) ← takePart finals rest
  if rest = [] then some (0xAC00 + (initial * 21 + vowel) * 28 + final) else none

/-- The code point of a name. Letters of either case may write it, except the names of unified
ideographs and of composed syllables. -/
def point? (name : Text) : Option CodePoint :=
  match Text.after? syllableStart name, Text.after? ideographStart name with
  | some parts, _ => syllable? parts
  | none, some digits => ideograph? digits
  | none, none =>
      let wanted := capital name
      match ofNumbered? wanted with
      | some point => some point
      | none => tables.findSome? (lookupName (Text.splitOn CodePoint.space wanted))

end CharacterName

end Stencil
