import Diffusion.Container
import Diffusion.Proofs.Action
import Diffusion.Proofs.Json.Length
import Diffusion.Proofs.Json.Reading

/-!
Containers read back.

Main statement: `metadata_of_read`, by which a container that is read gives the texts that were
written into it.
-/

namespace Diffusion

namespace Bytes

theorem size_littleEndian (width n : Nat) :
    (ByteArray.mk (littleEndian width n).toArray).size = width := by
  induction width generalizing n with
  | zero => rfl
  | succ width ih =>
      have shorter := ih (n / 256)
      simp only [ByteArray.size, List.size_toArray] at shorter ⊢
      simp [littleEndian, shorter]

theorem toList_loop (bytes : ByteArray) (i : Nat) (before : List UInt8) :
    ByteArray.toList.loop bytes i before = before.reverse ++ bytes.data.toList.drop i := by
  fun_induction ByteArray.toList.loop bytes i before with
  | case1 i before inside ih =>
      have more : i < bytes.data.toList.length := by simpa using inside
      have here : bytes.get! i = bytes.data.toList[i] := getElem!_pos bytes.data i inside
      rw [ih, List.drop_eq_getElem_cons more, here, List.reverse_cons, List.append_assoc]
      rfl
  | case2 i before outside =>
      have none : bytes.data.toList.length ≤ i := by simpa using outside
      rw [List.drop_eq_nil_of_le none, List.append_nil]

theorem toList_mk (bytes : List UInt8) : (ByteArray.mk bytes.toArray).toList = bytes :=
  toList_loop _ 0 []

theorem toUTF8_spaces (n : Nat) :
    (String.ofList (List.replicate n ' ')).toUTF8 = ⟨Array.replicate n ' '.toNat.toUInt8⟩ := by
  have encoded : (List.replicate n ' ').utf8Encode = (List.replicate n 32).toByteArray := by
    induction n with
    | zero => rfl
    | succ n ih =>
        rw [List.replicate_succ, List.utf8Encode_cons, ih, List.utf8Encode_singleton,
          ← List.toByteArray_append]
        rfl
  rw [String.toUTF8_eq_toByteArray, String.toByteArray_ofList, encoded]
  apply ByteArray.ext
  rw [List.data_toByteArray]
  exact Array.toList_inj.mp Array.toList_replicate.symm

theorem fromUTF8?_toUTF8 (s : String) : String.fromUTF8? s.toUTF8 = some s :=
  dif_pos s.isValidUTF8

theorem size_toUTF8_le (s : String) : s.toUTF8.size ≤ 4 * s.length := by
  have chars : ∀ cs : List Char, cs.utf8Encode.size ≤ 4 * cs.length := by
    intro cs
    induction cs with
    | nil => simp
    | cons c cs ih =>
        have width := c.utf8Size_le_four
        rw [List.utf8Encode_cons, ByteArray.size_append, List.utf8Encode_singleton,
          List.size_toByteArray, String.length_utf8EncodeChar, List.length_cons]
        omega
  have encoded := chars s.toList
  rwa [String.length_toList, ← String.toByteArray_ofList, String.ofList_toList,
    ← String.toUTF8_eq_toByteArray] at encoded

end Bytes

namespace TensorInfo

theorem isWritable_toJson (i : TensorInfo) : i.toJson.IsWritable :=
  ⟨trivial, Json.areWritable_map fun n _ => Json.isWritable_nat n,
    ⟨Json.isWritable_nat i.start, Json.isWritable_nat i.stop, trivial⟩, trivial⟩

end TensorInfo

namespace Container

theorem isWritable_headerJson (metadata : List (String × String))
    (tensors : List (String × TensorInfo)) : (headerJson metadata tensors).IsWritable := by
  refine ⟨Json.areWritableFields_of_forall fun field member => ?_,
    Json.areWritableFields_of_forall fun field member => ?_⟩
  · obtain ⟨text, -, rfl⟩ := List.mem_map.mp member
    trivial
  · obtain ⟨tensor, -, rfl⟩ := List.mem_map.mp member
    exact tensor.2.isWritable_toJson

theorem padded_toUTF8 (header : String) :
    ∃ missing, padded header.toUTF8 =
      (header ++ String.ofList (List.replicate missing ' ')).toUTF8 := by
  refine ⟨(alignment - header.toUTF8.size % alignment) % alignment, ?_⟩
  rw [String.toUTF8_eq_toByteArray (s := header ++ _), String.toByteArray_append,
    ← String.toUTF8_eq_toByteArray (s := String.ofList _), Bytes.toUTF8_spaces]
  rfl

theorem size_padded_le (header : ByteArray) : (padded header).size ≤ header.size + 8 := by
  have missing : (alignment - header.size % alignment) % alignment < 8 := Nat.mod_lt _ (by decide)
  have filled : (ByteArray.mk (Array.replicate
      ((alignment - header.size % alignment) % alignment) ' '.toNat.toUInt8)).size =
        (alignment - header.size % alignment) % alignment := Array.size_replicate
  rw [padded, ByteArray.size_append, filled]
  omega

/-- Headers are about as long as what they hold. -/
theorem size_padded_text_le (j : Json) : (padded j.text.toUTF8).size ≤ 4 * j.lengthBound + 8 := by
  have padding := size_padded_le j.text.toUTF8
  have encoded := Bytes.size_toUTF8_le j.text
  have written := j.length_text_le
  omega

theorem lengthBound_headerJson (texts : List (String × String))
    (tensors : List (String × TensorInfo)) :
    (headerJson texts tensors).lengthBound =
      (texts.map fun field => 6 * (field.1.length + field.2.length + 1)).sum +
        (tensors.map fun tensor =>
          6 * tensor.1.length + tensor.2.toJson.lengthBound + 4).sum + 80 := by
  have key : metadataKey.length = 12 := by decide
  have each : (fun field : String × String =>
      6 * field.1.length + (Json.string field.2).lengthBound + 4) =
        fun field => 6 * (field.1.length + field.2.length + 1) := by
    funext field
    rw [Json.lengthBound]
    omega
  rw [headerJson, Json.lengthBound, Json.fieldsBound, Json.lengthBound, key, Json.fieldsBound_map,
    Json.fieldsBound_map, each]
  omega

theorem exists_parse?_padded (metadata : List (String × String))
    (tensors : List (String × TensorInfo)) :
    ∃ header, String.fromUTF8? (padded (headerJson metadata tensors).text.toUTF8) = some header ∧
      Json.parse? header = some (headerJson metadata tensors) := by
  obtain ⟨missing, padding⟩ := padded_toUTF8 (headerJson metadata tensors).text
  refine ⟨_, by rw [padding, Bytes.fromUTF8?_toUTF8], ?_⟩
  refine Json.parse?_text (isWritable_headerJson _ _) fun c member => ?_
  rw [List.eq_of_mem_replicate member]
  rfl

/-- Where the header of a container is found, and what it says. -/
theorem header_of_read {bytes : ByteArray} {c : Container} (reads : read bytes = .ok c) :
    ∃ header tensors,
      String.fromUTF8? (bytes.extract 8
        (Bytes.ofLittleEndian (bytes.extract 0 8).toList + 8)) = some header ∧
      (Json.parse? header).bind ofHeader? = some (c.metadata, tensors) := by
  unfold read at reads
  split at reads
  · cases reads
  dsimp only at reads
  split at reads
  · cases reads
  split at reads
  · cases reads
  split at reads
  · rename_i header text
    split at reads
    · rename_i metadata tensors said
      refine ⟨header, tensors, text, ?_⟩
      cases layout : checkLayout 0 (tensors.mergeSort isBefore) with
      | error fault =>
          rw [layout] at reads
          cases reads
      | ok stop =>
          rw [layout] at reads
          change ite _ _ _ = _ at reads
          split at reads
          · cases reads
          · cases reads
            exact said
    · cases reads
  · cases reads

theorem length_of_frame {header data : ByteArray} (fits : header.size < Halt.wordLimit) :
    Bytes.ofLittleEndian ((frame header data).extract 0 8).toList = header.size := by
  have eight := Bytes.size_littleEndian 8 header.size
  have word : header.size < Nat.pow 256 8 := fits
  rw [frame, ByteArray.append_assoc, ByteArray.extract_append_eq_left eight.symm, Bytes.toList_mk,
    Bytes.ofLittleEndian_littleEndian 8 _ word]

theorem header_of_frame (header data : ByteArray) :
    (frame header data).extract 8 (header.size + 8) = header := by
  have eight := Bytes.size_littleEndian 8 header.size
  have found := ByteArray.extract_append_size_add' (b := header ++ data) (i := 0)
    (j := header.size) eight.symm
  rw [Nat.add_zero, Nat.add_comm] at found
  rw [frame, ByteArray.append_assoc, found, ByteArray.extract_append_eq_left rfl]

theorem texts?_object (metadata : List (String × String)) :
    texts? (.object (metadata.map fun (name, text) => (name, .string text))) = some metadata := by
  induction metadata with
  | nil => rfl
  | cons first rest ih =>
      simp only [texts?, List.map_cons, List.mapM_cons] at ih ⊢
      rw [ih]
      rfl

/-- A header that is read gives the texts that were written. No tensor can take their place: with
two fields under their name, nothing is read. -/
theorem metadata_of_ofHeader? {metadata : List (String × String)}
    {tensors found : List (String × TensorInfo)} {texts : Option (List (String × String))}
    (reads : ofHeader? (headerJson metadata tensors) = some (texts, found)) :
    texts = some metadata := by
  simp only [ofHeader?, headerJson, List.partition_eq_filter_filter, List.filter_cons_of_pos,
    beq_self_eq_true] at reads
  split at reads
  · contradiction
  · rename_i only
    cases (List.cons.inj only).1
  · rename_i only
    cases (List.cons.inj only).1
    rw [texts?_object] at reads
    obtain ⟨_, ⟨⟩, rest⟩ := Option.bind_eq_some_iff.mp reads
    obtain ⟨_, _, same⟩ := Option.bind_eq_some_iff.mp rest
    cases same
    rfl
  · cases reads

/-- A container that is read gives the texts that were written into it. -/
theorem metadata_of_read {blobs : List (String × ByteArray)} {texts : List (String × String)}
    {bytes : ByteArray} {c : Container} (written : write blobs texts = .ok bytes)
    (reads : read bytes = .ok c) : c.metadata = some texts := by
  unfold write at written
  dsimp only at written
  split at written
  · obtain ⟨_, size, same⟩ := Halt.bind_eq_ok_iff.mp written
    obtain ⟨fits, -⟩ := Halt.checked_eq_ok_iff.mp size
    cases same
    obtain ⟨header, tensors, text, said⟩ := header_of_read reads
    rw [length_of_frame fits, header_of_frame] at text
    obtain ⟨_, textToo, parsed⟩ := exists_parse?_padded texts
      (layOut 0 (blobs.mergeSort fun a b => decide (a.1 ≤ b.1)))
    cases text.symm.trans textToo
    rw [parsed, Option.bind_some] at said
    exact metadata_of_ofHeader? said
  · cases written

end Container

end Diffusion
