import Diffusion.Invocation

/-!
The tool on the machine it runs on.
-/

open Diffusion

namespace Diffusion.Main

/-- The fault that a failed call of the system stands for. -/
def faultOf (e : IO.Error) : FileFault :=
  match e with
  | .noFileOrDirectory .. => .notFound
  | .alreadyExists .. => .alreadyExists
  | .inappropriateType _ 20 _ => .notADirectory
  | .inappropriateType _ 21 _ => .isADirectory
  | .invalidArgument _ 36 _ => .nameTooLong
  | .permissionDenied _ code details | .resourceExhausted _ code details
  | .invalidArgument _ code details | .inappropriateType _ code details =>
    .other s!"{details} (os error {code})"
  | e => .other e.toString

def attempt {α : Type} (call : IO α) : IO (Except FileFault α) := do
  try return .ok (← call)
  catch e => return .error (faultOf e)

/-- A call of the system with a path that it takes whole. -/
def attemptAt {α : Type} (path : String) (call : IO α) : IO (Except FileFault α) := do
  match Path.fault? path with
  | some fault => return .error fault
  | none => attempt call

/-- The services of the real machine. Log lines go to the error output, the finest ones only
when they are asked for. -/
def host (verbose : Bool) : Host IO where
  read path := attemptAt path (IO.FS.readBinFile path)
  write path bytes := attemptAt path (IO.FS.writeBinFile path bytes)
  makeDirectory path := attemptAt path (IO.FS.createDir path)
  isDirectory path := do
    -- Of all that may be at the path, only a directory holds itself.
    match ← attemptAt path (IO.FS.createDir (path ++ "/.")) with
    | .error .alreadyExists => return true
    | _ => return false
  holds path := do
    match ← attemptAt path (IO.FS.Handle.mk path .read) with
    | .error .notFound | .error .notADirectory | .error .nameTooLong | .error .zeroInPath =>
      return false
    | _ => return true
  scratch := attempt do return (← IO.FS.createTempDir).toString
  discard path := IO.FS.removeDirAll path
  log event := do
    if verbose || event.level != .debug then IO.eprintln event.line
  print line := IO.println line

end Diffusion.Main

def main (arguments : List String) : IO UInt32 := do
  let values ← Environment.names.mapM fun name => do return (name, ← IO.getEnv name)
  let environment : Environment := fun name => (values.lookup name).join
  let verbose := (← IO.getEnv "RUST_LOG") == some "debug"
  let ending ← Invocation.run (Main.host verbose) arguments environment
  if let some report := ending.report? then IO.eprintln report
  return UInt32.ofNat ending.code
