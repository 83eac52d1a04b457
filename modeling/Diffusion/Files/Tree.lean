import Diffusion.Files.Path

/-!
A tree of files, and what file operations do to it.

The tree is a list of places with what they hold; the root is a directory that is always there. A
place is named by the parts of its path. Every part of a path but the last must lead through a
directory.
-/

namespace Diffusion

/-- What a place of a tree holds. -/
inductive FileEntry where
  | file (bytes : ByteArray)
  | directory

/-- The place of a file: the names from the root to it. -/
abbrev Place := List String

/-- Places and what they hold. -/
structure FileTree where
  entries : List (Place × FileEntry)

namespace FileTree

/-- Nothing but the root. -/
def empty : FileTree := ⟨[]⟩

variable (t : FileTree)

def find? (place : Place) : Option FileEntry :=
  if place.isEmpty then some .directory else t.entries.lookup place

def put (place : Place) (entry : FileEntry) : FileTree :=
  ⟨t.entries.filter (fun (other, _) => other ≠ place) ++ [(place, entry)]⟩

def remove (place : Place) : FileTree :=
  ⟨t.entries.filter fun (other, _) => !place.isPrefixOf other⟩

/-- The place that a name leads to from a directory. A dot stays there and two dots lead back. -/
def enter (place : Place) (name : String) : Place :=
  if name = "." then place else if name = ".." then place.dropLast else place ++ [name]

/-- Follows names from a place, which must be a directory wherever a name follows. -/
def follow : Place → List String → Except FileFault Place
  | place, [] => .ok place
  | place, name :: rest =>
    match t.find? place with
    | none => .error .notFound
    | some (.file _) => .error .notADirectory
    | some .directory =>
      if Path.mostNameBytes < name.utf8ByteSize then .error .nameTooLong
      else follow (enter place name) rest

/-- The pieces between slashes, empty ones included. -/
def segments : List Char → List (List Char)
  | [] => [[]]
  | c :: rest =>
    if c = '/' then [] :: segments rest
    else match segments rest with
      | [] => [[c]]
      | first :: others => (c :: first) :: others

def names (path : String) : List String :=
  ((segments path.toList).filter fun name => !name.isEmpty).map String.ofList

/-- Where the names of a path start, for a program in a directory. -/
def start (directory : Place) (path : String) : Place :=
  if Path.isAbsolute path then [] else directory

/-- The place of a path, seen from a directory. A path that ends in a slash must lead to a
directory. -/
def locate (directory : Place) (path : String) : Except FileFault Place :=
  match Path.fault? path with
  | some fault => .error fault
  | none =>
    t.follow (start directory path) (names path ++ if path.endsWith "/" then ["."] else [])

def read (directory : Place) (path : String) : Except FileFault ByteArray := do
  match t.find? (← t.locate directory path) with
  | some (.file bytes) => return bytes
  | some .directory => throw .isADirectory
  | none => throw .notFound

def holds (directory : Place) (path : String) : Bool :=
  match t.locate directory path with
  | .ok place => (t.find? place).isSome
  | .error _ => false

def isDirectory (directory : Place) (path : String) : Bool :=
  match t.locate directory path with
  | .ok place => (t.find? place matches some .directory)
  | .error _ => false

/-- The directory in which the last name of a path stands, and that name. There is no last name
where it would be a dot, two dots or nothing, since such a path can only lead to a directory. -/
def lastName (directory : Place) (path : String) : Except FileFault (Place × Option String) := do
  if let some fault := Path.fault? path then throw fault
  let above ← t.follow (start directory path) ((names path).dropLast ++ ["."])
  return (above, (names path).getLast?.filter fun name => name ≠ "." ∧ name ≠ "..")

/-- Writes a file, instead of the one that was there. A path with a slash at its end can name no
file. -/
def write (directory : Place) (path : String) (bytes : ByteArray) :
    Except FileFault FileTree := do
  let (above, name) ← t.lastName directory path
  match name.filter fun _ => !path.endsWith "/" with
  | none => throw .isADirectory
  | some name =>
    let place ← t.follow above [name]
    match t.find? place with
    | some .directory => throw .isADirectory
    | _ => return t.put place (.file bytes)

def makeDirectory (directory : Place) (path : String) : Except FileFault FileTree := do
  let (above, name) ← t.lastName directory path
  match name with
  | none => throw .alreadyExists
  | some name =>
    let place ← t.follow above [name]
    if (t.find? place).isSome then throw .alreadyExists
    return t.put place .directory

/-- Puts directories at a place and at all that lead to it, except where there is something. -/
def reaching (t : FileTree) (above : Place) : Place → FileTree
  | [] => t
  | name :: rest =>
    let next := above ++ [name]
    reaching (if (t.find? next).isSome then t else t.put next .directory) next rest

/-- Everything below a place, each directory before what it holds, sorted by name. -/
def below (place : Place) : List (Place × FileEntry) :=
  let inside := t.entries.filterMap fun (other, entry) =>
    if place.isPrefixOf other ∧ other ≠ place then some (other.drop place.length, entry) else none
  inside.mergeSort fun a b => !List.lex b.1 a.1

end FileTree

end Diffusion
