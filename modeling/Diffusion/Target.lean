import Diffusion.Json.Decode
import Diffusion.Text.Caseless

/-!
What a program is compiled for, how far compilation goes, and where the parameters of the network
are kept.
-/

namespace Diffusion

inductive Device where
  | cpu
  | cuda
  | rocm
  | metal
deriving DecidableEq, Repr

namespace Device

def all : List Device := [cpu, cuda, rocm, metal]

def text : Device → String
  | cpu => "cpu"
  | cuda => "cuda"
  | rocm => "rocm"
  | metal => "metal"

/-- The names that stand for a device, those of runtime drivers included, in small letters. -/
def names : Device → List String
  | cpu => ["cpu", "local-task", "local-sync", "llvm-cpu"]
  | cuda => ["cuda"]
  | rocm => ["rocm", "hip"]
  | metal => ["metal", "coreml"]

/-- The device of a name in any case of letters. -/
def parse? (name : String) : Option Device :=
  let plain := Text.caseless name
  all.find? fun device => device.names.contains plain

/-- What is wrong with a name that stands for no device. -/
def refusal (name : String) : String := "unknown device '" ++ name ++ "' (cpu, cuda, rocm, metal)"

/-- How many execution providers a session on a device tries: its own, then the host's. -/
def providers : Device → Nat
  | cpu => 1
  | _ => 2

def ofJson? : Json → Option Device := Json.asMember? all text

end Device

/-- The last stage of an export. -/
inductive CompileStage where
  | trace
  | lowered
  /-- The lowered program, compiled into an artifact. -/
  | binary
deriving DecidableEq, Repr

namespace CompileStage

def all : List CompileStage := [trace, lowered, binary]

def text : CompileStage → String
  | trace => "trace"
  | lowered => "lowered"
  | binary => "binary"

def ofJson? : Json → Option CompileStage := Json.asMember? all text

end CompileStage

/-- A format for parameters that are kept outside the artifact. -/
inductive WeightsFormat where
  | safetensors
deriving DecidableEq, Repr

namespace WeightsFormat

/-- The name of a format, which is also its file extension. -/
def text : WeightsFormat → String
  | safetensors => "safetensors"

def ofJson? : Json → Option WeightsFormat := Json.asMember? [safetensors] text

end WeightsFormat

/-- Where the parameters of an artifact are kept. -/
inductive WeightsMode where
  | inside
  | outside
deriving DecidableEq, Repr

namespace WeightsMode

def all : List WeightsMode := [inside, outside]

def text : WeightsMode → String
  | inside => "inline"
  | outside => "external"

def parse? (name : String) : Option WeightsMode := all.find? fun mode => mode.text == name

def ofJson? : Json → Option WeightsMode := Json.asMember? all text

@[simp] theorem parse?_text (mode : WeightsMode) : parse? mode.text = some mode := by
  cases mode <;> decide

end WeightsMode

/-- What an artifact is compiled for. -/
structure TargetSpec where
  device : Device
  /-- The architecture of the device. -/
  triple : Option String
  /-- The largest number of bytes that may be live at once. -/
  maxAllocation : Nat
deriving DecidableEq, Repr

namespace TargetSpec

/-- Four GiB. -/
def defaultAllocation : Nat := 4 * 1024 * 1024 * 1024

def default : TargetSpec := ⟨.cpu, none, defaultAllocation⟩

def toJson (t : TargetSpec) : Json :=
  .object
    [("device", .string t.device.text), ("target_triple", .ofOption .string t.triple),
     ("max_allocation", .nat t.maxAllocation)]

def ofJson? (j : Json) : Option TargetSpec := do
  let r ← j.asRecord? ["device", "target_triple", "max_allocation"]
  let device ← r.required? "device" Device.ofJson?
  let triple ← r.optional? "target_triple" Json.asString?
  return ⟨device, triple, ← r.required? "max_allocation" Json.asWord?⟩

end TargetSpec

end Diffusion
