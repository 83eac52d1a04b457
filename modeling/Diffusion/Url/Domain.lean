import Diffusion.Text.Composed
import Diffusion.Text.Unassigned
import Diffusion.Url.Domain.Direction
import Diffusion.Url.Domain.Expansions
import Diffusion.Url.Domain.Joining
import Diffusion.Url.Domain.Shifts
import Diffusion.Url.Pieces
import Diffusion.Url.Punycode

/-!
Domains in any script, and their form in letters, digits and hyphens.

Characters that look or count the same are replaced by one of them, and letters with marks are
single characters.
-/

namespace Diffusion.Url.Domain

/-- Characters that are left out. -/
def ignored : Text.Ranges :=
  [(0xad, 0xad), (0x34f, 0x34f), (0x115f, 0x1160), (0x17b4, 0x17b5), (0x180b, 0x180f),
   (0x200b, 0x200b), (0x2060, 0x2064), (0x206a, 0x206f), (0x3164, 0x3164), (0xfe00, 0xfe0f),
   (0xfeff, 0xfeff), (0xffa0, 0xffa0), (0x1bca0, 0x1bca3), (0x1d173, 0x1d17a), (0xe0100, 0xe01ef)]

/-- Characters that no domain may have, other than those without a meaning of their own. -/
def refused : Text.Ranges :=
  [(0x80, 0x9f), (0x600, 0x605), (0x61c, 0x61c), (0x6dd, 0x6dd), (0x70f, 0x70f), (0x890, 0x891),
   (0x8e2, 0x8e2), (0x1680, 0x1680), (0x200e, 0x200f), (0x2024, 0x2026), (0x2028, 0x202e),
   (0x2066, 0x2069), (0x2488, 0x249b), (0x2ff0, 0x2fff), (0x31ef, 0x31ef), (0x33c2, 0x33c2),
   (0x33c7, 0x33c7), (0x33d8, 0x33d8), (0xd800, 0xf8ff), (0xfe12, 0xfe12), (0xfe19, 0xfe19),
   (0xfe30, 0xfe30), (0xfe52, 0xfe52), (0xfff9, 0xfffd), (0x110bd, 0x110bd), (0x110cd, 0x110cd),
   (0x13430, 0x1343f), (0x1f100, 0x1f100), (0xe0001, 0xe0001), (0xe0020, 0xe007f),
   (0xf0000, 0xffffd), (0x100000, 0x10fffd)]

/-- Whether a character is plain: its code has seven bits. -/
def isPlain (c : Char) : Bool := c.toNat < 0x80

/-- Plain characters that no domain may have. -/
def isForbidden (c : Char) : Bool :=
  c.toNat ≤ 0x20 || c.toNat = 0x7f || "%#/:<>?@[\\]^|".toList.contains c

/-- Whether no domain may have a character, as it is or in another form. -/
def isRefused (c : Char) : Bool := !isPlain c && (refused.covers c || Text.isUnassigned c)

/-- The characters that stand for a character. -/
def folded (c : Char) : List Char :=
  if isPlain c then [c.toLower]
  else if ignored.covers c then []
  else
    match shifts.find? fun (first, last, _) => first ≤ c.toNat && c.toNat ≤ last with
    | some (first, _, image) => [Char.ofNat (image + (c.toNat - first))]
    | none =>
      if alternating.any fun (first, last) =>
          first ≤ c.toNat && c.toNat ≤ last && (c.toNat - first) % 2 = 0 then
        [Char.ofNat (c.toNat + 1)]
      else
        match expansions.lookup c.toNat with
        | some codes => codes.map Char.ofNat
        | none => [c]

/-- Whether a character may stand in a label as it is. -/
def isSettled (c : Char) : Bool := !isRefused c && !isForbidden c && folded c = [c]

/-- What the plain form of a label in another script starts with. -/
def mark : List Char := "xn--".toList

/-- The characters that a label shows. A label with the mark must be the plain form of one that
needs it. -/
def shown? (label : List Char) : Option (List Char) := do
  if !mark.isPrefixOf label then return label
  let rest := label.drop mark.length
  if !rest.all isPlain then none
  let shown ← Punycode.decode? rest
  if shown.all isPlain || !shown.all isSettled || Text.composed shown ≠ shown then none
  return shown

/-- Whether the characters that a label shows make a label. -/
def isLabel (shown : List Char) : Bool :=
  shown.all isPlain || !shown.head?.any Text.isMark && joinersMatter [] shown

/-- The plain form of a label. -/
def plainLabel (label : List Char) : List Char :=
  if label.all isPlain then label else mark ++ Punycode.encode label

/-- The plain form of a domain. -/
def plain? (domain : String) : Option (List Char) := do
  if domain.toList.any isRefused then none
  let cs := Text.composed (domain.toList.flatMap folded)
  if cs.any isForbidden then none
  let labels := pieces (· = '.') cs
  let shown ← labels.mapM shown?
  if !shown.all isLabel then none
  if shown.any (fun label => !label.all isPlain && label.any turnsAround) &&
      !shown.all keepsOrder then none
  return ['.'].intercalate (labels.map plainLabel)

end Diffusion.Url.Domain
