import Diffusion.Artifact.Load
import Diffusion.Model

/-!
Making sure that the files of a model are there. Nothing is transferred: a request is checked up
to the point where it would be sent.
-/

namespace Diffusion

namespace ModelFiles

variable {m : Type → Type} [Monad m] (host : Host m)

/-- Files that every model must have. -/
def required : List String := [Parameters.graphKey]

def missing (directory : String) : Job m (List String) :=
  required.filterM fun file => return !(← Job.call (host.holds (Path.join directory file)))

def check (directory : String) : Job m Unit := do
  let absent ← missing host directory
  if absent.isEmpty then return () else Job.fail (.modelFilesMissing directory absent)

/-- A token that a header may hold: no control characters but tabs. -/
def isHeaderText (token : String) : Bool :=
  token.all fun c => c = '\t' || (32 ≤ c.toNat && c.toNat ≠ 127)

/-- Asks for a file that is to be put below a directory. -/
def request (model : ModelSpec) (token : Option String) (directory file : String) :
    Job m Unit := do
  let target := Path.join directory file
  match Path.parent? target with
  | some parent => Job.file (host.makeDirectories parent) (.downloadDirectory parent)
  | none => pure ()
  let url := model.fileUrl file
  if (token.map isHeaderText).getD true then Job.fail (.transferUnavailable url)
  else Job.fail (.requestRefused url)

/-- Leaves the files of a model alone when they are there, and asks for them otherwise. -/
def ensure (model : ModelSpec) (token : Option String) (directory : String) : Job m Unit := do
  if (← missing host directory).isEmpty then
    Job.call (host.log (.modelPresent directory))
  else
    Job.call (host.log (.downloading model.id directory))
    for file in ← missing host directory do
      request host model token directory file

end ModelFiles

end Diffusion
