import Diffusion.Text.Ranges

/-!
Names typed by people: blanks around them and the case of their letters do not count.
-/

namespace Diffusion.Text

/-- The code points of blanks: what separates words or lines in any script. -/
def blanks : Ranges :=
  [(0x9, 0xd), (0x20, 0x20), (0x85, 0x85), (0xa0, 0xa0), (0x1680, 0x1680), (0x2000, 0x200a),
   (0x2028, 0x2029), (0x202f, 0x202f), (0x205f, 0x205f), (0x3000, 0x3000)]

def isBlank (c : Char) : Bool := blanks.covers c

theorem isBlank_of_isWhitespace {c : Char} (white : c.isWhitespace = true) :
    isBlank c = true := by
  simp only [Char.isWhitespace, Bool.or_eq_true, decide_eq_true_eq] at white
  rcases white with ((rfl | rfl) | rfl) | rfl <;> decide

/-- The text without the blanks at its ends. -/
def trimmed (s : String) : String :=
  String.ofList ((s.toList.dropWhile isBlank).reverse.dropWhile isBlank).reverse

/-- The small letter of a capital whose small letter is one of `a` to `z`, and every other
character as it is. The Kelvin sign is the one such capital outside `A` to `Z`. -/
def smallLetter (c : Char) : Char := if c = '\u212a' then 'k' else c.toLower

/-- The text with small letters for capitals, for comparison with names in `a` to `z`. -/
def caseless (s : String) : String := s.map smallLetter

end Diffusion.Text
