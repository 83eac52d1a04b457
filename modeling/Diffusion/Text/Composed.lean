import Diffusion.Text.Compositions
import Diffusion.Text.MarkClasses

/-!
Texts in which letters with marks are single characters wherever there is one.

A text is taken apart into letters and marks, the marks of each letter are put in order, and then
letters take up their marks.
-/

namespace Diffusion.Text

/-! ## Syllables of Hangul

A syllable is a lead, a vowel and perhaps a tail, and its code is computed from theirs. -/

/-- The code of the first syllable. -/
def firstSyllable : Nat := 0xac00

/-- The code of the first lead; there are 19. -/
def firstLead : Nat := 0x1100

/-- The code of the first vowel; there are 21. -/
def firstVowel : Nat := 0x1161

/-- The code before the first tail; there are 27. -/
def noTail : Nat := 0x11a7

/-- The parts of a syllable. -/
def syllableParts (code : Nat) : List Nat :=
  let n := code - firstSyllable
  [firstLead + n / 588, firstVowel + n % 588 / 28] ++
    if n % 28 = 0 then [] else [noTail + n % 28]

/-- The syllable of a lead and a vowel, or of a syllable without a tail and a tail. -/
def syllable? (first second : Nat) : Option Nat :=
  if firstLead ≤ first ∧ first < firstLead + 19 ∧
      firstVowel ≤ second ∧ second < firstVowel + 21 then
    some (firstSyllable + ((first - firstLead) * 21 + (second - firstVowel)) * 28)
  else if firstSyllable ≤ first ∧ first < firstSyllable + 11172 ∧ (first - firstSyllable) % 28 = 0 ∧
      noTail < second ∧ second < noTail + 28 then
    some (first + (second - noTail))
  else none

/-! ## Letters and marks -/

/-- The character of a letter with a mark, from their codes. -/
def composition? (first second : Char) : Option Char :=
  match syllable? first.toNat second.toNat with
  | some code => some (Char.ofNat code)
  | none =>
    (compositions.find? fun (letter, mark, _) =>
      letter = first.toNat && mark = second.toNat).map fun (_, _, both) => Char.ofNat both

/-- The most marks that one character stands for. -/
def mostMarks : Nat := 4

/-- A character as its letter and up to a number of its marks. -/
def apart : Nat → Char → List Char
  | 0, c => [c]
  | marks + 1, c =>
    if firstSyllable ≤ c.toNat ∧ c.toNat < firstSyllable + 11172 then
      (syllableParts c.toNat).map Char.ofNat
    else
      match compositions.find? fun (_, _, both) => both = c.toNat with
      | some (letter, mark, _) => apart marks (Char.ofNat letter) ++ [Char.ofNat mark]
      | none => [c]

/-- Puts a character before others, but a mark after marks of lower classes. -/
def placed (c : Char) : List Char → List Char
  | [] => [c]
  | d :: rest =>
    if 0 < markClass d ∧ markClass d < markClass c then d :: placed c rest else c :: d :: rest

/-- The text with the marks of each letter in the order of their classes. -/
def ordered (cs : List Char) : List Char := cs.foldr placed []

/-- A text in which letters have taken up their marks, as far as it is read. -/
structure Composing where
  /-- What no longer changes, in reverse. -/
  done : List Char
  /-- The last letter. -/
  letter : Option Char
  /-- The marks that the letter could not take up, in reverse. -/
  marks : List Char

/-- The text that is read. -/
def Composing.text (s : Composing) : List Char :=
  s.done.reverse ++ s.letter.toList ++ s.marks.reverse

/-- Reads a character. A letter takes up what follows it unless a mark of the same class, or of a
higher one, is between them. -/
def Composing.next (s : Composing) (c : Char) : Composing :=
  let near := s.marks.head?.all fun mark => markClass mark < markClass c
  match s.letter.bind fun letter => if near then composition? letter c else none with
  | some both => { s with letter := some both }
  | none =>
    if markClass c = 0 then ⟨s.text.reverse, some c, []⟩ else { s with marks := c :: s.marks }

/-- The text with single characters for letters with marks. -/
def composed (cs : List Char) : List Char :=
  ((ordered (cs.flatMap (apart mostMarks))).foldl Composing.next ⟨[], none, []⟩).text

end Diffusion.Text
