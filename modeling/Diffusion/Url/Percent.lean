import Diffusion.Bytes.Hexadecimal

/-!
Escapes in URLs: a percent sign and the two digits of a byte.

Each part of a URL has its own characters that must not stand there as they are.
-/

namespace Diffusion.Url

/-- Characters that are escaped wherever they stand: controls and all that take more than a byte. -/
def isUnprintable (c : Char) : Bool := c.toNat < 0x20 || 0x7e < c.toNat

/-- What is escaped after the number sign. -/
def escapedInFragment (c : Char) : Bool := isUnprintable c || " \"<>`".toList.contains c

/-- What is escaped after the question mark. A quotation mark may end an attribute of a page, so it
is escaped where the scheme is one of the web. -/
def escapedInQuery (web : Bool) (c : Char) : Bool :=
  isUnprintable c || " \"#<>".toList.contains c || web && c.toNat = 0x27

/-- What is escaped in a part of a path. -/
def escapedInPath (c : Char) : Bool := escapedInFragment c || "#?\x7b\x7d".toList.contains c

/-- What is escaped in the name and the password of a user. -/
def escapedInUser (c : Char) : Bool := escapedInPath c || "/:;=@[\\]^|".toList.contains c

def escapeByte (b : UInt8) : List Char :=
  ['%', (Bytes.hexDigit (b.toNat / 16)).toUpper, (Bytes.hexDigit (b.toNat % 16)).toUpper]

/-- A text with the bytes of some of its characters escaped. -/
def escape (escaped : Char → Bool) (cs : List Char) : String :=
  String.ofList <| cs.flatMap fun c =>
    if escaped c then c.toString.toUTF8.toList.flatMap escapeByte else [c]

/-- The byte that an escape stands for, from the byte values of its three characters. -/
def escapedByte? (sign high low : UInt8) : Option UInt8 := do
  guard (sign = 0x25)
  let h ← Bytes.hexValue? (Char.ofNat high.toNat)
  let l ← Bytes.hexValue? (Char.ofNat low.toNat)
  return UInt8.ofNat (16 * h + l)

/-- The bytes of a text with its escapes read. A percent sign without two digits after it stands
for itself. -/
def unescapedBytes : List UInt8 → List UInt8
  | a :: b :: c :: rest =>
    match escapedByte? a b c with
    | some byte => byte :: unescapedBytes rest
    | none => a :: unescapedBytes (b :: c :: rest)
  | short => short

/-- A text with its escapes read, unless the bytes are no text. -/
def unescape? (cs : List Char) : Option String :=
  String.fromUTF8? ⟨(unescapedBytes (String.ofList cs).toUTF8.toList).toArray⟩

end Diffusion.Url
