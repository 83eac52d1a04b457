import Diffusion.Arithmetic.Machine
import Diffusion.CommandLine
import Diffusion.Export
import Diffusion.Run

/-!
One call of the tool, from its arguments and environment to its exit code.
-/

namespace Diffusion.Invocation

open CommandLine (Command Refusal)

variable {m : Type → Type} [Monad m] (host : Host m)

def execute (command : Command machine) (tool : ToolConfig) (environment : Environment) :
    Job m Unit :=
  match command with
  | .exporting options => do
    let outcome ← Export.run host (options.toExport tool) tool environment
    if let some path := outcome.artifactPath then
      Job.call (host.print ("Compiled to " ++ path))
    if let some path := outcome.weightsPath then
      Job.call (host.print ("Weights saved to " ++ path))
  | .running artifactPath options =>
    Run.run (A := machine) host (options.toRun artifactPath tool)

/-- Carries out a command with the settings of an environment, which are checked first. -/
def executeIn (environment : Environment) (command : Command machine) : Job m Unit :=
  let tool := ToolConfig.ofEnvironment environment
  match tool.problem? with
  | some problem => Job.fail (.environment problem)
  | none => execute host command tool environment

/-- How a call ends. -/
inductive Ending where
  | done
  /-- The command line leads to no command. -/
  | refused (reason : Refusal)
  | failed (reason : Halt)
deriving Repr

namespace Ending

/-- The exit code: 2 for a command line that is wrong, 1 for an error. -/
def code : Ending → Nat
  | done => 0
  | refused reason => if reason.isAnswer then 0 else 2
  | failed (.error _) => 1
  | failed _ => 101

/-- What a person is told in the end, if anything went wrong. -/
def report? : Ending → Option String
  | done => none
  | refused reason => if reason.isAnswer then none else some ("error: " ++ reason.message)
  | failed (.error e) => some ("Error: " ++ e.display)
  | failed reason => some ("Error: " ++ words reason)
where
  words : Halt → String
    | .error e => e.display
    | .indexOutOfRange => "an index is out of range"
    | .overflow => "a count is out of range"
    | .nameClash => "two parameters have one name"

end Ending

def version : String := Manifest.creator

def usage : List String :=
  ["Export, run and verify compiled Stable Diffusion scheduler loops",
   "",
   "Usage: sd-scheduler-aot <COMMAND>",
   "",
   "Commands:",
   "  export  Trace the scheduler loop and write its IR, weights and artifact",
   "  run     Execute a compiled artifact",
   "  help    Print this message or the help of the given subcommand(s)",
   "",
   "Options:",
   "  -h, --help     Print help",
   "  -V, --version  Print version"]

/-- Calls the tool. Help and the version are printed before the environment is looked at. -/
def run (arguments : List String) (environment : Environment) : m Ending := do
  match CommandLine.parse (A := machine) arguments with
  | .error .version => do
    host.print version
    return .refused .version
  | .error .help => do
    usage.forM host.print
    return .refused .help
  | .error reason => return .refused reason
  | .ok command =>
    match ← (executeIn host environment command).run with
    | .ok () => return .done
    | .error reason => return .failed reason

end Diffusion.Invocation
