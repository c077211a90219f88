import Stencil.Text.Compatibility.Tables
import Stencil.Text.Identifier

/-! # Compatibility forms

A word can be written with variants of its letters, and with letters and their marks apart or as
one. All these are one identifier: the one in the compatibility form, in which variants are
replaced by what they stand for and letters are joined with their marks as far as that is possible
(the form NFKC of Unicode, version 14, for the code points of which identifiers are made).
-/

namespace Stencil

namespace Compatibility

/-- The class of a mark; zero when a code point is no mark. -/
def markClass (point : CodePoint) : Nat :=
  match markClasses.find? fun (_, marks) => marks.has point with
  | some (markClass, _) => markClass
  | none => 0

/-- The entry of a table whose rows begin with the code point of their first entry. -/
def entry? {α : Type} (rows : List (CodePoint × List α)) (point : CodePoint) : Option α :=
  rows.findSome? fun (first, images) => if first ≤ point then images[point - first]? else none

/-- What a variant stands for. -/
def variant? (point : CodePoint) : Option Text :=
  match shifts.find? fun (first, last, _) => first ≤ point && point ≤ last with
  | some (first, _, image) => some [image + (point - first)]
  | none =>
      match entry? (variants ++ ideographs) point with
      | some image => some [image]
      | none => entry? ligatures point

/-- The letter and the mark that a code point stands for. -/
def parts? (point : CodePoint) : Option (CodePoint × CodePoint) :=
  composites.findSome? fun (mark, letters) =>
    (letters.find? fun (_, whole) => whole == point).map fun (letter, _) => (letter, mark)

/-- The code point that stands for a letter with a mark. -/
def whole? (letter mark : CodePoint) : Option CodePoint :=
  composites.lookup mark >>= List.lookup letter

/-- The first composed syllable. -/
def firstSyllable : CodePoint := 0xAC00

/-- The consonants, the vowels and the final consonants of syllables: the first code point of each
sort and their number. The first final consonant stands for none. -/
def initials : CodePoint × Nat := (0x1100, 19)

@[inherit_doc initials] def vowels : CodePoint × Nat := (0x1161, 21)

@[inherit_doc initials] def finals : CodePoint × Nat := (0x11A7, 28)

/-- The index of a code point among those of a sort. -/
def indexIn? (sort : CodePoint × Nat) (point : CodePoint) : Option Nat :=
  if sort.1 ≤ point && point < sort.1 + sort.2 then some (point - sort.1) else none

/-- The parts of a composed syllable. -/
def syllableParts? (point : CodePoint) : Option Text :=
  (indexIn? (firstSyllable, initials.2 * vowels.2 * finals.2) point).map fun index =>
    let final := index % finals.2
    let pair := [initials.1 + index / (vowels.2 * finals.2), vowels.1 + index / finals.2 % vowels.2]
    if final = 0 then pair else pair ++ [finals.1 + final]

/-- The syllable that two code points make: a consonant and a vowel, or a syllable without a final
consonant and one. -/
def syllable? (first second : CodePoint) : Option CodePoint :=
  match indexIn? initials first, indexIn? vowels second, indexIn? finals second with
  | some initial, some vowel, _ => some (firstSyllable + (initial * vowels.2 + vowel) * finals.2)
  | _, _, some (final + 1) => do
      let index ← indexIn? (firstSyllable, initials.2 * vowels.2 * finals.2) first
      if index % finals.2 = 0 then some (first + final + 1) else none
  | _, _, _ => none

/-- A code point in its plainest parts; a letter may have several marks. -/
def partsWithin : Nat → CodePoint → Text
  | 0, point => [point]
  | bound + 1, point =>
      match syllableParts? point, variant? point, parts? point with
      | some parts, _, _ => parts
      | none, some image, _ => image
      | none, none, some (letter, mark) => partsWithin bound letter ++ [mark]
      | none, none, none => [point]

/-- The greatest number of marks in one code point. -/
def markLimit : Nat := 3

/-- A code point behind a reversed text, in front of the marks that belong behind it. -/
def putMark (point : CodePoint) : Text → Text
  | [] => [point]
  | last :: before =>
      if markClass point ≠ 0 && markClass point < markClass last then last :: putMark point before
      else point :: last :: before

/-- A text in its plainest parts, with the marks of each letter in the order of their classes. -/
def apart (whole : Text) : Text :=
  ((whole.flatMap (partsWithin (markLimit + 1))).foldl (fun before point => putMark point before)
    []).reverse

/-- A text behind a letter, joined with the letter as far as that is possible. The marks behind the
letter that have not been joined are given, last one first. -/
def joinOnto (letter : CodePoint) (passed : Text) : Text → Text
  | [] => letter :: passed.reverse
  | next :: rest =>
      let isNear := passed.head?.all fun last => markClass last < markClass next
      match if isNear then (syllable? letter next).or (whole? letter next) else none with
      | some joined => joinOnto joined passed rest
      | none =>
          if markClass next = 0 then letter :: (passed.reverse ++ joinOnto next [] rest)
          else joinOnto letter (next :: passed) rest

/-- The compatibility form of a text. -/
def form (whole : Text) : Text :=
  match apart whole with
  | [] => []
  | first :: rest => joinOnto first [] rest

end Compatibility

/-- The identifier that a word spells. Letters of ASCII have no other form. The compatibility form
of an identifier is an identifier and its own form; a word of which that should not hold spells
itself. -/
def Text.spelledName (word : Text) : Text :=
  if word.all (· < 128) then word
  else
    let form := Compatibility.form word
    if form.isIdentifier && Compatibility.form form == form then form else word

namespace Text

variable {word : Text}

theorem spelledName_of_ascii (ascii : word.all (· < 128) = true) : word.spelledName = word :=
  if_pos ascii

/-- A word spells itself, or an identifier that spells itself. -/
theorem spelledName_cases : word.spelledName = word ∨
    word.spelledName.isIdentifier = true ∧ word.spelledName.spelledName = word.spelledName := by
  by_cases ascii : word.all (· < 128) = true
  · exact .inl (spelledName_of_ascii ascii)
  by_cases settled : ((Compatibility.form word).isIdentifier &&
      Compatibility.form (Compatibility.form word) == Compatibility.form word) = true
  · obtain ⟨identifier, same⟩ := Bool.and_eq_true_iff.mp settled
    have spelled : word.spelledName = Compatibility.form word :=
      (if_neg ascii).trans (if_pos settled)
    refine .inr (spelled ▸ ⟨identifier, ?_⟩)
    by_cases formAscii : (Compatibility.form word).all (· < 128) = true
    · exact spelledName_of_ascii formAscii
    · refine (if_neg formAscii).trans ?_
      rw [eq_of_beq same]
      exact ite_self _
  · exact .inl ((if_neg ascii).trans (if_neg settled))

/-- An identifier spells an identifier. -/
theorem isIdentifier_spelledName (identifier : word.isIdentifier = true) :
    word.spelledName.isIdentifier = true := by
  rcases @spelledName_cases word with same | settled
  · rwa [same]
  · exact settled.1

/-- What a word spells is spelled as it is. -/
theorem spelledName_spelledName : word.spelledName.spelledName = word.spelledName := by
  rcases @spelledName_cases word with same | settled
  · rw [same, same]
  · exact settled.2

end Text

end Stencil
