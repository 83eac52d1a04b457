import Diffusion.Bytes.LittleEndian
import Diffusion.Container.Fault
import Diffusion.Error
import Diffusion.Json.Decode
import Diffusion.Json.Read

/-!
Tensor containers: a length, a JSON header of that length, and the bytes of all tensors.

The header tells for every tensor its element type, its shape and where its bytes are. The bytes
of the tensors lie one after another and fill the container.
-/

namespace Diffusion

/-- The types of elements that a container may hold. -/
inductive ElementType where
  | bool | u8 | i8 | f8e5m2 | f8e4m3 | i16 | u16 | f16 | bf16 | i32 | u32 | f32 | f64 | i64 | u64
deriving DecidableEq, Repr

namespace ElementType

def all : List ElementType :=
  [bool, u8, i8, f8e5m2, f8e4m3, i16, u16, f16, bf16, i32, u32, f32, f64, i64, u64]

def text : ElementType → String
  | bool => "BOOL"
  | u8 => "U8"
  | i8 => "I8"
  | f8e5m2 => "F8_E5M2"
  | f8e4m3 => "F8_E4M3"
  | i16 => "I16"
  | u16 => "U16"
  | f16 => "F16"
  | bf16 => "BF16"
  | i32 => "I32"
  | u32 => "U32"
  | f32 => "F32"
  | f64 => "F64"
  | i64 => "I64"
  | u64 => "U64"

def width : ElementType → Nat
  | bool | u8 | i8 | f8e5m2 | f8e4m3 => 1
  | i16 | u16 | f16 | bf16 => 2
  | i32 | u32 | f32 => 4
  | f64 | i64 | u64 => 8

end ElementType

/-- What a header says of one tensor. -/
structure TensorInfo where
  element : ElementType
  shape : Shape
  start : Nat
  stop : Nat
deriving DecidableEq, Repr

namespace TensorInfo

/-- The info of a row of bytes. -/
def ofBytes (start size : Nat) : TensorInfo := ⟨.u8, [size], start, start + size⟩

def toJson (i : TensorInfo) : Json :=
  .object
    [("dtype", .string i.element.text), ("shape", .array (i.shape.map .nat)),
     ("data_offsets", .array [.nat i.start, .nat i.stop])]

def asPair? : Json → Option (Nat × Nat)
  | .array [a, b] => do return (← a.asWord?, ← b.asWord?)
  | _ => none

def ofJson? (j : Json) : Option TensorInfo := do
  let r ← j.asRecord? ["dtype", "shape", "data_offsets"]
  let element ← r.required? "dtype" (Json.asKeptMember? ElementType.all ElementType.text)
  let shape ← r.required? "shape" (Json.asList? Json.asWord?)
  let (start, stop) ← r.required? "data_offsets" asPair?
  return { element, shape, start, stop }

/-- The number of bytes that the type and the shape ask for, if it is a word at every step. -/
def size? (i : TensorInfo) : Option Nat := do
  let elements ← i.shape.foldlM (fun n extent => word? (n * extent)) 1
  word? (elements * i.element.width)
where
  word? (n : Nat) : Option Nat := if n < Halt.wordLimit then some n else none

end TensorInfo

/-- A container. The tensors are in the order of their bytes. -/
structure Container where
  metadata : Option (List (String × String))
  tensors : List (String × TensorInfo)
  data : ByteArray

namespace Container

/-- The field of a header that holds texts and no tensor. -/
def metadataKey : String := "__metadata__"

/-- Lays blobs one after another, from a position on. -/
def layOut : Nat → List (String × ByteArray) → List (String × TensorInfo)
  | _, [] => []
  | start, (name, bytes) :: rest =>
    (name, .ofBytes start bytes.size) :: layOut (start + bytes.size) rest

/-- A header as JSON, the texts first. -/
def headerJson (metadata : List (String × String)) (tensors : List (String × TensorInfo)) : Json :=
  .object <|
    (metadataKey, .object (metadata.map fun (name, text) => (name, .string text))) ::
      tensors.map fun (name, info) => (name, info.toJson)

/-- Frames a header and data: the length of the header, the header, the data. -/
def frame (header data : ByteArray) : ByteArray :=
  ⟨(Bytes.littleEndian 8 header.size).toArray⟩ ++ header ++ data

/-- Headers are filled up with spaces to a multiple of this length. -/
def alignment : Nat := 8

def padded (header : ByteArray) : ByteArray :=
  let missing := (alignment - header.size % alignment) % alignment
  header ++ ⟨Array.replicate missing ' '.toNat.toUInt8⟩

/-- Writes blobs as rows of bytes, in the order of their names, which must differ. The length of the
header is a word. -/
def write (blobs : List (String × ByteArray)) (metadata : List (String × String)) :
    Except Halt ByteArray := do
  let sorted := blobs.mergeSort fun a b => decide (a.1 ≤ b.1)
  let names := blobs.map (·.1)
  if names.eraseDups.length = names.length then
    let header := padded (headerJson metadata (layOut 0 sorted)).text.toUTF8
    let _ ← Halt.checked header.size
    return frame header (sorted.foldl (fun data (_, bytes) => data ++ bytes) .empty)
  else .error .nameClash

/-- The longest header that is read. -/
def maxHeader : Nat := 100000000

def texts? : Json → Option (List (String × String))
  | .object fields => fields.mapM fun (name, j) => return (name, ← j.asString?)
  | _ => none

/-- The last of several values under one name is the one that counts. -/
def lastOnly {α : Type} : List (String × α) → List (String × α)
  | [] => []
  | (name, x) :: rest =>
    if rest.any (fun (other, _) => other == name) then lastOnly rest
    else (name, x) :: lastOnly rest

/-- A tensor of a header, whose fields may be any that are readable. -/
def headerTensor? : String × Json → Option (String × TensorInfo)
  | (name, found) =>
    if found.isReadable (Json.maxNesting - 1) then return (name, ← TensorInfo.ofJson? found)
    else none

/-- Splits a header into its texts, which may be missing, and its tensors. A tensor that another one
of its name replaces must be one all the same. -/
def ofHeader? (j : Json) :
    Option (Option (List (String × String)) × List (String × TensorInfo)) := do
  let .object fields := j | none
  let (texts, others) := fields.partition fun (name, _) => name == metadataKey
  let metadata ← match texts with
    | [] => some none
    | [(_, .null)] => some none
    | [(_, found)] => (texts? found).map some
    | _ => none
  return (metadata, lastOnly (← others.mapM headerTensor?))

/-- Whether one tensor's bytes lie before another's. -/
def isBefore (a b : String × TensorInfo) : Bool :=
  a.2.start < b.2.start || (a.2.start == b.2.start && a.2.stop ≤ b.2.stop)

/-- Checks that tensors lie one after another from a position on and have the sizes that their
shapes ask for. Answers with the end of the last. -/
def checkLayout : Nat → List (String × TensorInfo) → Except ContainerFault Nat
  | position, [] => .ok position
  | position, (name, info) :: rest =>
    if info.start ≠ position ∨ info.stop < info.start then .error (.badOffset name)
    else match info.size? with
      | none => .error .sizeOverflow
      | some size =>
        if info.stop - info.start ≠ size then .error .wrongSpan else checkLayout info.stop rest

/-- Reads a container with all checks, in this order. -/
def read (bytes : ByteArray) : Except ContainerFault Container := do
  if bytes.size < 8 then throw .headerTooSmall
  let length := Bytes.ofLittleEndian (bytes.extract 0 8).toList
  if maxHeader < length then throw .headerTooLarge
  if bytes.size < length + 8 then throw .headerBeyondEnd
  let some header := String.fromUTF8? (bytes.extract 8 (length + 8)) | throw .headerNotText
  let some (metadata, tensors) := (Json.parse? header).bind ofHeader? | throw .headerMalformed
  let tensors := tensors.mergeSort isBefore
  let stop ← checkLayout 0 tensors
  if stop + 8 + length ≠ bytes.size then throw .dataLengthWrong
  return { metadata, tensors, data := bytes.extract (length + 8) bytes.size }

/-- A text of the header. -/
def text? (metadata : List (String × String)) (name : String) : Option String :=
  (lastOnly metadata).lookup name

def tensor (c : Container) (name : String) : Except ContainerFault ByteArray :=
  match c.tensors.lookup name with
  | some info => .ok (c.data.extract info.start info.stop)
  | none => .error (.tensorMissing name)

end Container

end Diffusion
