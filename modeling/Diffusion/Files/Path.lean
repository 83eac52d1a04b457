import Diffusion.Error

/-!
Paths as text, with a slash between their parts.
-/

namespace Diffusion.Path

def isAbsolute (path : String) : Bool := path.startsWith "/"

/-- A path taken from a directory. An absolute one stays as it is. -/
def join (directory path : String) : String :=
  if isAbsolute path ∨ directory.isEmpty then path
  else if directory.endsWith "/" then directory ++ path
  else directory ++ "/" ++ path

/-- Drops slashes and single dots from the end of a reversed path. The root keeps its slash. -/
def dropEnd : List Char → List Char
  | ['/'] => ['/']
  | '/' :: rest => dropEnd rest
  | '.' :: '/' :: rest => dropEnd ('/' :: rest)
  | cs => cs

/-- The path without its last part; the root and the empty path have none to leave out. -/
def parent? (path : String) : Option String :=
  match dropEnd path.toList.reverse with
  | [] => none
  | ['/'] => none
  | cs => some (String.ofList (dropEnd (cs.dropWhile (· ≠ '/'))).reverse)

/-- The most bytes of a path. -/
def mostBytes : Nat := 4095

/-- The most bytes of a name in a path. -/
def mostNameBytes : Nat := 255

/-- What is wrong with a path whatever files there are. -/
def fault? (path : String) : Option FileFault :=
  if path.toList.contains '\x00' then some .zeroInPath
  else if mostBytes < path.utf8ByteSize then some .nameTooLong
  else if path.isEmpty then some .notFound
  else none

end Diffusion.Path
