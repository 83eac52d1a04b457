import Diffusion.Files.Host
import Diffusion.Url.Request

/-!
Sending files to blob storage. Nothing is transferred: requests are checked up to the point where
they would be sent.
-/

namespace Diffusion.Upload

variable {m : Type → Type} [Monad m] (host : Host m)

/-- Sends a file to a blob of a container. The file must be readable before the URL counts. -/
def send (file container blob : String) : Job m Unit := do
  let _ ← Job.file (host.read file) (.file "read" file)
  match Url.standing (Url.ofBlob container blob) with
  | .malformed => Job.fail (.uploadRefused blob none)
  | .unsendable url => Job.fail (.uploadRefused blob (some url))
  | .sendable => Job.fail (.uploadUnavailable blob)

end Diffusion.Upload
