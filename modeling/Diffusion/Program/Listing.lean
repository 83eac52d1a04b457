import Diffusion.Program

/-!
The listing of a program: one line for each parameter, input and instruction.

Inputs are named by their position and other values by the position of their instruction.
-/

namespace Diffusion

/-- Where the parameters of a listing are kept. -/
inductive ParameterStorage where
  /-- In the compiled artifact. -/
  | embedded
  /-- In a named archive that is opened when the program is loaded. -/
  | archived
deriving DecidableEq, Repr

/-- A parameter as a listing declares it. -/
structure ParameterGlobal where
  name : String
  size : Nat
deriving DecidableEq, Repr

namespace Program

variable {A : Arithmetic}

def tensorType (s : Shape) : String :=
  "tensor<" ++ String.join (s.map fun extent => toString extent ++ "x") ++ "f32>"

def valueName (numInputs value : Nat) : String :=
  if value < numInputs then s!"%arg{value}" else s!"%{value - numInputs}"

/-- A declaration of a parameter. -/
def globalLine (storage : ParameterStorage) (g : ParameterGlobal) : String :=
  let source := match storage with
    | .embedded => "dense_resource<" ++ g.name ++ ">"
    | .archived => "#stream.parameter.named<\"model\"::\"" ++ g.name ++ "\">"
  "  util.global private @" ++ g.name ++ " = " ++ source ++ s!" : tensor<{g.size}xi8>\n"

def opText (numInputs : Nat) (globals : List ParameterGlobal) (op : Op A) : String :=
  let name := valueName numInputs
  match op with
  | .scale input factor =>
    "sched.scale " ++ name input ++ ", " ++ A.text.wideExponential factor
  | .add lhs rhs => "sched.add " ++ name lhs ++ ", " ++ name rhs
  | .sub lhs rhs => "sched.sub " ++ name lhs ++ ", " ++ name rhs
  | .concat lhs rhs => "sched.concat " ++ name lhs ++ ", " ++ name rhs ++ " dim = 0"
  | .slice input half => "sched.slice " ++ name input ++ " " ++ half.text ++ " dim = 0"
  | .noise like seed => "sched.noise like " ++ name like ++ s!" seed = {seed.toNat}"
  | .unet sample conditioning timestep =>
    "sched.unet(" ++ name sample ++ ", " ++ name conditioning ++ ") \x7btimestep = " ++
      A.text.exponential timestep ++ "\x7d weights [" ++
      ", ".intercalate (globals.map fun g => "@" ++ g.name) ++ "]"

def instructionLine (numInputs : Nat) (globals : List ParameterGlobal) (i : Instruction A)
    (position : Nat) : String :=
  s!"    %{position} = " ++ opText numInputs globals i.op ++ " : " ++ tensorType i.shape ++ "\n"

/-- The type of the result; a result that is no value of the program has none. -/
def resultType (p : Program A) : String := (p.outputShape?.map tensorType).getD "none"

/-- The line that opens the function, with the types of the inputs. -/
def signatureLine (p : Program A) : String :=
  let arguments := p.inputs.toList.mapIdx fun i input => s!"%arg{i}: " ++ tensorType input.shape
  "  func.func @main(" ++ ", ".intercalate arguments ++ ") -> " ++ p.resultType ++ " \x7b\n"

/-- The listing of a program under a stage's name. -/
def listing (p : Program A) (stage : String) (globals : List ParameterGlobal)
    (storage : ParameterStorage) : String :=
  "module @compiled_scheduler attributes \x7bsched.stage = \"" ++ stage ++ "\"\x7d \x7b\n" ++
    String.join (globals.map (globalLine storage)) ++
    (if globals.isEmpty then "" else "\n") ++
    p.signatureLine ++
    String.join (p.instructions.toList.mapIdx fun position i =>
      instructionLine p.inputs.size globals i position) ++
    "    return " ++ valueName p.inputs.size p.output ++ " : " ++ p.resultType ++ "\n" ++
    "  \x7d\n\x7d\n"

end Program

end Diffusion
