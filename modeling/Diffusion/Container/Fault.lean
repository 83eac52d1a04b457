import Diffusion.Text.Quoted

/-!
What can be wrong with a tensor container.
-/

namespace Diffusion

/-- Why a container was refused, in the order in which the checks are made, and the look-up of a
tensor it does not hold. -/
inductive ContainerFault where
  | headerTooSmall
  | headerTooLarge
  | headerBeyondEnd
  | headerNotText
  | headerMalformed
  | badOffset (tensor : String)
  | sizeOverflow
  | wrongSpan
  | dataLengthWrong
  | tensorMissing (tensor : String)
deriving DecidableEq, Repr

namespace ContainerFault

def text : ContainerFault → String
  | headerTooSmall => "HeaderTooSmall"
  | headerTooLarge => "HeaderTooLarge"
  | headerBeyondEnd => "InvalidHeaderLength"
  | headerNotText => "InvalidHeader"
  | headerMalformed => "InvalidHeaderDeserialization"
  | badOffset tensor => "InvalidOffset(" ++ Text.quoted tensor ++ ")"
  | sizeOverflow => "ValidationOverflow"
  | wrongSpan => "TensorInvalidInfo"
  | dataLengthWrong => "MetadataIncompleteBuffer"
  | tensorMissing tensor => "TensorNotFound(" ++ Text.quoted tensor ++ ")"

end ContainerFault

end Diffusion
