import Diffusion.Event
import Diffusion.Files.Tree

/-!
What programs ask of the machine they run on.

A program that touches files is written against a `Host`, so it runs on the real machine and on a
`World`, which is a value.
-/

namespace Diffusion

/-- The services of a machine, as calls in a monad. -/
structure Host (m : Type → Type) where
  read : String → m (Except FileFault ByteArray)
  write : String → ByteArray → m (Except FileFault Unit)
  /-- Makes a directory in one that is there. -/
  makeDirectory : String → m (Except FileFault Unit)
  isDirectory : String → m Bool
  /-- Whether a path leads to anything. -/
  holds : String → m Bool
  /-- Makes an empty directory that no one else uses. -/
  scratch : m (Except FileFault String)
  /-- Removes a directory with all it holds. -/
  discard : String → m Unit
  log : Event → m Unit
  print : String → m Unit

/-- The services of a machine to a program with a state of its own. -/
def Host.withState {m : Type → Type} [Monad m] (host : Host m) (σ : Type) : Host (StateT σ m) where
  read path := host.read path
  write path bytes := host.write path bytes
  makeDirectory path := host.makeDirectory path
  isDirectory path := host.isDirectory path
  holds path := host.holds path
  scratch := host.scratch
  discard path := host.discard path
  log event := host.log event
  print line := host.print line

/-- Makes a directory after those that lead to it, where they are missing. Each step takes a part
off the path, so its length bounds their number. -/
def Host.makeLeading {m : Type → Type} [Monad m] (host : Host m) :
    Nat → String → m (Except FileFault Unit)
  | 0, _ => return .ok ()
  | depth + 1, path => do
    match Path.parent? path with
    | none => return .ok ()
    | some parent =>
      match ← host.makeDirectory path with
      | .error .notFound =>
        match ← host.makeLeading depth parent with
        | .ok () => settled path (← host.makeDirectory path)
        | .error fault => return .error fault
      | answer => settled path answer
where
  /-- It does no harm that a directory is there already. -/
  settled (path : String) (answer : Except FileFault Unit) : m (Except FileFault Unit) := do
    if answer matches .error .alreadyExists then
      if ← host.isDirectory path then return .ok ()
    return answer

/-- Makes a directory and all that lead to it. A dot at the end of a path is not a step of its own,
so the directory that it stands for is not made. -/
def Host.makeDirectories {m : Type → Type} [Monad m] (host : Host m) (path : String) :
    m (Except FileFault Unit) :=
  host.makeLeading (path.length + 1) path

/-- A program on a machine: it ends with a value or without one. -/
abbrev Job (m : Type → Type) (α : Type) := ExceptT Halt m α

namespace Job

variable {m : Type → Type} [Monad m] {α : Type}

def fail (e : Error) : Job m α := throw (.error e)

/-- A result that needs no machine. -/
def ofExcept (r : Except Halt α) : Job m α := ExceptT.mk (pure r)

/-- A result that needs no machine and may be an error. -/
def ofResult (r : Except Error α) : Job m α := ofExcept (r.mapError .error)

def call (x : m α) : Job m α := ExceptT.lift x

/-- A file operation, with the error that its fault stands for. -/
def file (x : m (Except FileFault α)) (error : FileFault → Error) : Job m α := do
  match ← call x with
  | .ok a => return a
  | .error fault => fail (error fault)

end Job

/-- A machine as a value. -/
structure World where
  tree : FileTree
  directory : Place
  events : Array Event
  lines : Array String
  /-- How many scratch directories were made. -/
  scratches : Nat

namespace World

def fresh (directory : Place) : World where
  tree := FileTree.empty.reaching [] directory
  directory
  events := #[]
  lines := #[]
  scratches := 0

def host : Host (StateM World) where
  read path := return (← get).tree.read (← get).directory path
  write path bytes := do
    let w ← get
    match w.tree.write w.directory path bytes with
    | .ok tree =>
      set { w with tree }
      return .ok ()
    | .error fault => return .error fault
  makeDirectory path := do
    let w ← get
    match w.tree.makeDirectory w.directory path with
    | .ok tree =>
      set { w with tree }
      return .ok ()
    | .error fault => return .error fault
  isDirectory path := return (← get).tree.isDirectory (← get).directory path
  holds path := return (← get).tree.holds (← get).directory path
  scratch := do
    let w ← get
    let place := ["tmp", s!"scratch-{w.scratches}"]
    set { w with tree := w.tree.reaching [] place, scratches := w.scratches + 1 }
    return .ok s!"/tmp/scratch-{w.scratches}"
  discard path := modify fun w => { w with tree := w.tree.remove (FileTree.names path) }
  log event := modify fun w => { w with events := w.events.push event }
  print line := modify fun w => { w with lines := w.lines.push line }

end World

end Diffusion
