import Diffusion.Bytes.Sha256
import Diffusion.Container

/-!
The parameters of a network: named blobs, in the order of their keys.
-/

namespace Diffusion

abbrev Blob := String × ByteArray

/-- Blobs under keys that increase strictly. -/
structure Parameters where
  blobs : List Blob
  sorted : blobs.Pairwise fun a b => a.1 < b.1

namespace Parameters

/-- The key of the network's graph. -/
def graphKey : String := "unet/model.onnx"

/-- The key of the tensors that a large graph keeps apart. -/
def tensorsKey : String := "unet/weights.pb"

/-- The keys that a network may have. They are also the paths of its files. -/
def allowedKeys : List String := [graphKey, tensorsKey]

def empty : Parameters := ⟨[], .nil⟩

/-- Puts a blob in its place among blobs, instead of one with its key. -/
def insertBlob (key : String) (bytes : ByteArray) : List Blob → List Blob
  | [] => [(key, bytes)]
  | (other, old) :: rest =>
    if key < other then (key, bytes) :: (other, old) :: rest
    else if key = other then (key, bytes) :: rest
    else (other, old) :: insertBlob key bytes rest

theorem mem_insertBlob {key : String} {bytes : ByteArray} {blobs : List Blob} {b : Blob}
    (member : b ∈ insertBlob key bytes blobs) : b = (key, bytes) ∨ b ∈ blobs := by
  induction blobs with
  | nil => simpa [insertBlob] using member
  | cons first rest ih =>
      obtain ⟨other, old⟩ := first
      simp only [insertBlob] at member
      split at member
      · simpa using member
      · split at member
        · rcases List.mem_cons.mp member with same | later
          · exact .inl same
          · exact .inr (List.mem_cons_of_mem _ later)
        · rcases List.mem_cons.mp member with same | later
          · exact .inr (same ▸ List.mem_cons_self)
          · exact (ih later).imp_right (List.mem_cons_of_mem _)

theorem sorted_insertBlob {key : String} {bytes : ByteArray} {blobs : List Blob}
    (sorted : blobs.Pairwise fun a b => a.1 < b.1) :
    (insertBlob key bytes blobs).Pairwise fun a b => a.1 < b.1 := by
  induction blobs with
  | nil => simp [insertBlob]
  | cons first rest ih =>
      obtain ⟨other, old⟩ := first
      obtain ⟨above, sortedRest⟩ := List.pairwise_cons.mp sorted
      simp only [insertBlob]
      split
      · rename_i below
        refine List.pairwise_cons.mpr ⟨fun b member => ?_, sorted⟩
        rcases List.mem_cons.mp member with same | later
        · exact same ▸ below
        · exact String.lt_trans below (above b later)
      · split
        · rename_i same
          subst same
          exact List.pairwise_cons.mpr ⟨above, sortedRest⟩
        · rename_i notBelow different
          refine List.pairwise_cons.mpr ⟨fun b member => ?_, ih sortedRest⟩
          rcases mem_insertBlob member with same | later
          · subst same
            have atMost : other ≤ key := String.not_lt.mp notBelow
            exact Decidable.byContradiction fun above =>
              different (String.le_antisymm (String.not_lt.mp above) atMost)
          · exact above b later

def insert (p : Parameters) (key : String) (bytes : ByteArray) : Parameters :=
  ⟨insertBlob key bytes p.blobs, sorted_insertBlob p.sorted⟩

/-- The parameters with the given blobs; of several under one key the last. -/
def ofList (blobs : List Blob) : Parameters :=
  blobs.foldl (fun p (key, bytes) => p.insert key bytes) empty

def get? (p : Parameters) (key : String) : Option ByteArray := p.blobs.lookup key

def totalBytes (p : Parameters) : Nat := p.blobs.foldr (fun b sum => b.2.size + sum) 0

/-- The name of a blob inside a container: underscores for dots, then dots for slashes. -/
def storageName (key : String) : String :=
  key.map fun c => if c = '.' then '_' else if c = '/' then '.' else c

end Parameters

/-- What is noted of one blob. -/
structure ParameterEntry where
  key : String
  storageName : String
  size : Nat
  /-- The fingerprint of the bytes, in hexadecimal digits. -/
  sha256 : String
deriving DecidableEq, Repr

namespace ParameterEntry

def ofBlob (b : Blob) : ParameterEntry where
  key := b.1
  storageName := Parameters.storageName b.1
  size := b.2.size
  sha256 := Bytes.fingerprint b.2

def toJson (e : ParameterEntry) : Json :=
  .object
    [("key", .string e.key), ("storage_name", .string e.storageName), ("size", .nat e.size),
     ("sha256", .string e.sha256)]

def ofJson? (j : Json) : Option ParameterEntry := do
  let r ← j.asRecord? ["key", "storage_name", "size", "sha256"]
  let key ← r.required? "key" Json.asString?
  let storageName ← r.required? "storage_name" Json.asString?
  let size ← r.required? "size" Json.asWord?
  return ⟨key, storageName, size, ← r.required? "sha256" Json.asString?⟩

/-- Entries as the text of an array. -/
def encodeAll (entries : List ParameterEntry) : String := (Json.array (entries.map toJson)).text

/-- The entries of the text of an array. -/
def decodeAll? (text : String) : Option (List ParameterEntry) :=
  (Json.parse? text).bind (Json.asList? ofJson?)

/-- Only keys that a network may have are accepted. -/
def checkKeys (entries : List ParameterEntry) : Except Error Unit :=
  match entries.find? fun e => !Parameters.allowedKeys.contains e.key with
  | some e => .error (.unexpectedKey e.key)
  | none => .ok ()

/-- Bytes must have the size and the fingerprint noted. -/
def verify (e : ParameterEntry) (bytes : ByteArray) : Except Error Unit :=
  if bytes.size ≠ e.size then .error (.parameterSize e.key bytes.size e.size)
  else
    let found := Bytes.fingerprint bytes
    if found ≠ e.sha256 then .error (.fingerprintMismatch e.key e.sha256 found) else .ok ()

end ParameterEntry

namespace Parameters

def entries (p : Parameters) : List ParameterEntry := p.blobs.map .ofBlob

/-- The blobs under the names that they have inside a container. -/
def stored (p : Parameters) : List (String × ByteArray) :=
  p.blobs.map fun (key, bytes) => (storageName key, bytes)

/-- The verified blob of an entry in a container. -/
def blobOf (c : Container) (e : ParameterEntry) : Except Error ByteArray := do
  match c.tensor e.storageName with
  | .error fault => throw (.parameterNotFound e.storageName fault)
  | .ok bytes =>
    e.verify bytes
    return bytes

/-- The blobs that entries name in a container. -/
def ofContainer (c : Container) (entries : List ParameterEntry) : Except Error Parameters := do
  ParameterEntry.checkKeys entries
  let blobs ← entries.mapM fun e => return (e.key, ← blobOf c e)
  return ofList blobs

end Parameters

end Diffusion
