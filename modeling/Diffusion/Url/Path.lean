import Diffusion.Url.Percent
import Diffusion.Url.Pieces

/-!
Paths of URLs, with their dots and drive letters resolved.
-/

namespace Diffusion.Url

/-- The path of a URL. -/
inductive Path where
  /-- Segments, each after a slash. -/
  | rooted (segments : List String)
  /-- A text that does not start with a slash. -/
  | plain (text : String)
deriving DecidableEq, Repr

def Path.text : Path → String
  | rooted segments => String.join (segments.map ("/" ++ ·))
  | plain text => text

/-- Whether a character ends a segment. Backslashes count where the scheme is one of the web. -/
def isSlash (web : Bool) (c : Char) : Bool := c = '/' || web && c = '\\'

/-- The segment with its escaped dots read. -/
def dots : List Char → List Char
  | '%' :: '2' :: 'e' :: rest | '%' :: '2' :: 'E' :: rest => '.' :: dots rest
  | '.' :: rest => '.' :: dots rest
  | cs => cs

/-- Whether a segment names a drive: a letter and a colon or a bar. -/
def isDrive : List Char → Bool
  | [letter, sign] => letter.isAlpha && (sign = ':' || sign = '|')
  | _ => false

/-- The segments before two dots, in reverse, without the one that the dots take back. A drive is
not left. -/
def leave : List String → List String
  | [] => []
  | segment :: before => if isDrive segment.toList then segment :: before else before

/-- Goes on by a segment. The segments before come in reverse. One dot stays where it is and two
lead back; at the end of a path they leave an empty segment. The first segment of a path to a file
may name a drive, which is then written with a colon. -/
def goOn (file isLast : Bool) (before : List String) (segment : List Char) : List String :=
  let ending := if isLast then [""] else []
  match dots segment with
  | ['.', '.'] => ending ++ leave before
  | ['.'] => ending ++ before
  | _ =>
    if file && before.isEmpty && isDrive segment then
      String.ofList (segment.take 1 ++ [':']) :: before
    else escape escapedInPath segment :: before

/-- The segments of a path after those before, which come in reverse. -/
def follow (file : Bool) (before : List String) : List (List Char) → List String
  | [] => before.reverse
  | [last] => (goOn file true before last).reverse
  | segment :: rest => follow file (goOn file false before segment) rest

/-- The segments of a text that comes after the first slash of a path. -/
def segments (web file : Bool) (cs : List Char) : List String :=
  follow file [] (pieces (isSlash web) cs)

end Diffusion.Url
