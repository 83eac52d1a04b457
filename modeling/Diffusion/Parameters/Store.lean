import Diffusion.Files.Host
import Diffusion.Files.Path
import Diffusion.Parameters

/-!
Parameters in files: the directory of a model, and archives outside an artifact.
-/

namespace Diffusion.Parameters

variable {m : Type → Type} [Monad m] (host : Host m)

/-- Reads the blob of one file and adds it. -/
def loadBlob (directory key : String) (p : Parameters) : Job m Parameters := do
  let path := Path.join directory key
  let bytes ← Job.file (host.read path) (.file "read" path)
  Job.call (host.log (.blobLoaded key bytes.size))
  return p.insert key bytes

/-- The parameters in the directory of a model: the graph, which must be there, and the tensors
kept apart, which may be. -/
def loadModel (directory : String) : Job m Parameters := do
  let graph := Path.join directory graphKey
  if ← Job.call (host.holds graph) then
    let p ← loadBlob host directory graphKey empty
    if ← Job.call (host.holds (Path.join directory tensorsKey)) then
      loadBlob host directory tensorsKey p
    else return p
  else Job.fail (.graphMissing graph)

/-- Makes the directory of a path, if the path has one. -/
def makeParent (path : String) : Job m Unit := do
  match Path.parent? path with
  | some parent => Job.file (host.makeDirectories parent) (.file "create" parent)
  | none => return ()

/-- Writes one blob below a directory. Only keys that a network may have are written. -/
def unpackBlob (directory : String) (b : Blob) : Job m Unit := do
  if allowedKeys.contains b.1 then
    let path := Path.join directory b.1
    makeParent host path
    Job.file (host.write path b.2) (.file "write" path)
  else Job.fail (.refusedKey b.1)

def unpack (p : Parameters) (directory : String) : Job m Unit :=
  p.blobs.forM (unpackBlob host directory)

/-- The tag of archives in their header. -/
def archiveFormat : String := "sd-scheduler-aot/weights-v1"

def archive (p : Parameters) : Except Halt ByteArray :=
  Container.write p.stored
    [("format", archiveFormat), ("parameters", ParameterEntry.encodeAll p.entries)]

/-- Writes an archive and answers with its entries. -/
def writeArchive (p : Parameters) (path : String) : Job m (List ParameterEntry) := do
  makeParent host path
  let bytes ← Job.ofExcept p.archive
  Job.file (host.write path bytes) (.archiveUnwritable path)
  Job.call (host.log (.archiveWritten path p.totalBytes))
  return p.entries

/-- Reads the blobs that entries name from an archive. -/
def readArchive (path : String) (entries : List ParameterEntry) : Job m Parameters := do
  let bytes ← Job.file (host.read path) (.archiveUnreadable path)
  match Container.read bytes with
  | .error fault => Job.fail (.notAnArchive path fault)
  | .ok container => Job.ofResult (ofContainer container entries)

end Diffusion.Parameters
