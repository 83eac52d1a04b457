import Diffusion.Json.Decode
import Diffusion.Program
import Diffusion.Json.Read

/-!
Programs as JSON.

An operation is an object whose first field tells its kind. Factors and timesteps that are not
finite are written as null, and null is not read as a number.
-/

namespace Diffusion

open Json (asWord? asString? asList? asNumber?)

namespace Shape

def toJson (s : Shape) : Json := .array (s.map .nat)

def ofJson? : Json → Option Shape := asList? asWord?

end Shape

/-- A half by its name. It is read after the kind of its operation. -/
def Half.ofJson? : Json → Option Half := Json.asKeptMember? [.first, .second] Half.text

namespace Op

variable {A : Arithmetic}

/-- The fields of an operation after its kind. -/
def fieldsJson : Op A → List (String × Json)
  | scale input factor =>
    [("input", .nat input), ("factor", .ofNumeral? (A.text.wideJson? factor))]
  | add lhs rhs | sub lhs rhs | concat lhs rhs => [("lhs", .nat lhs), ("rhs", .nat rhs)]
  | slice input half => [("input", .nat input), ("half", .string half.text)]
  | noise like seed => [("like", .nat like), ("seed", .nat seed.toNat)]
  | unet sample conditioning timestep =>
    [("sample", .nat sample), ("conditioning", .nat conditioning),
     ("timestep", .ofNumeral? (A.text.json? timestep))]

def toJson (op : Op A) : Json := .object (("op", .string op.mnemonic) :: op.fieldsJson)

/-- The fields of each kind of operation. -/
def fieldNames? : String → Option (List String)
  | "scale" => some ["input", "factor"]
  | "add" | "sub" | "concat" => some ["lhs", "rhs"]
  | "slice" => some ["input", "half"]
  | "noise" => some ["like", "seed"]
  | "unet" => some ["sample", "conditioning", "timestep"]
  | _ => none

/-- The operation of a kind with the given fields. -/
def ofRecord? (kind : String) (r : Json.Record) : Option (Op A) :=
  match kind with
  | "scale" => do
    let input ← r.required? "input" asWord?
    return scale input (← r.required? "factor" (asNumber? A.text.wideOfJson?))
  | "add" => return add (← r.required? "lhs" asWord?) (← r.required? "rhs" asWord?)
  | "sub" => return sub (← r.required? "lhs" asWord?) (← r.required? "rhs" asWord?)
  | "concat" => return concat (← r.required? "lhs" asWord?) (← r.required? "rhs" asWord?)
  | "slice" => return slice (← r.required? "input" asWord?) (← r.required? "half" Half.ofJson?)
  | "noise" => do
    let like ← r.required? "like" asWord?
    return noise like (UInt64.ofNat (← r.required? "seed" asWord?))
  | "unet" => do
    let sample ← r.required? "sample" asWord?
    let conditioning ← r.required? "conditioning" asWord?
    return unet sample conditioning (← r.required? "timestep" (asNumber? A.text.ofJson?))
  | _ => none

/-- The kind of an operation and the value that holds its fields. Of an object the kind may stand
anywhere but only once; of an array it comes first. -/
def kind? : Json → Option (String × Json)
  | .object fields =>
    match fields.partition fun (name, _) => name == "op" with
    | ([(_, .string kind)], others) => some (kind, .object others)
    | _ => none
  | .array (.string kind :: items) => some (kind, .array items)
  | _ => none

/-- The operation that an object or an array stands for. Values are read before the kind is
known, so an unreadable one is refused even in a field that the kind does not have. Operations lie
in an instruction, in the row of instructions, in a program. -/
def ofJson? (j : Json) : Option (Op A) := do
  if j.isReadable (Json.maxNesting - 3) then
    let (kind, fields) ← kind? j
    ofRecord? kind (← fields.asRecord? (← fieldNames? kind))
  else none

end Op

namespace Instruction

variable {A : Arithmetic}

def toJson (i : Instruction A) : Json := .object [("op", i.op.toJson), ("shape", i.shape.toJson)]

def ofJson? (j : Json) : Option (Instruction A) := do
  let r ← j.asRecord? ["op", "shape"]
  return ⟨← r.required? "op" Op.ofJson?, ← r.required? "shape" Shape.ofJson?⟩

end Instruction

namespace ProgramInput

def toJson (input : ProgramInput) : Json :=
  .object [("name", .string input.name), ("shape", input.shape.toJson)]

def ofJson? (j : Json) : Option ProgramInput := do
  let r ← j.asRecord? ["name", "shape"]
  return ⟨← r.required? "name" asString?, ← r.required? "shape" Shape.ofJson?⟩

end ProgramInput

namespace Program

variable {A : Arithmetic}

def toJson (p : Program A) : Json :=
  .object
    [("inputs", .array (p.inputs.toList.map ProgramInput.toJson)),
     ("instructions", .array (p.instructions.toList.map Instruction.toJson)),
     ("output", .nat p.output)]

/-- The program that a value stands for. Nothing is checked but its form. -/
def ofJson? (j : Json) : Option (Program A) := do
  let r ← j.asRecord? ["inputs", "instructions", "output"]
  let inputs ← r.required? "inputs" (asList? ProgramInput.ofJson?)
  let instructions ← r.required? "instructions" (asList? Instruction.ofJson?)
  return ⟨inputs.toArray, instructions.toArray, ← r.required? "output" asWord?⟩

def encode (p : Program A) : String := p.toJson.text

def decode (text : String) : Except Error (Program A) :=
  match (Json.parse? text).bind ofJson? with
  | some p => .ok p
  | none => .error (.malformedProgram "the text is no program")

end Program

end Diffusion
