/-!
Texts of URLs in pieces.
-/

namespace Diffusion.Url

/-- The pieces of a text between the characters that separate them. There is one more of them than
of those characters. -/
def pieces (separates : Char → Bool) : List Char → List (List Char)
  | [] => [[]]
  | c :: rest =>
    if separates c then [] :: pieces separates rest
    else match pieces separates rest with
      | piece :: others => (c :: piece) :: others
      | [] => [[c]]

/-- The text before the first occurrence of a character, and the text after it. -/
def cutAt (c : Char) (cs : List Char) : List Char × Option (List Char) :=
  match cs.dropWhile (· ≠ c) with
  | [] => (cs, none)
  | _ :: rest => (cs.takeWhile (· ≠ c), some rest)

/-- The text before the last occurrence of a character, if it occurs, and the text after it. -/
def cutAtLast (c : Char) (cs : List Char) : Option (List Char) × List Char :=
  match cutAt c cs.reverse with
  | (after, some before) => (some before.reverse, after.reverse)
  | (all, none) => (none, all.reverse)

end Diffusion.Url
