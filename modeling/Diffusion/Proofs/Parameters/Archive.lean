import Diffusion.Parameters.Store
import Diffusion.Proofs.Container.Tensors
import Diffusion.Proofs.Parameters.Stored
import Mathlib.Algebra.Group.Action.Defs
import Mathlib.Algebra.Order.BigOperators.Group.List
import Mathlib.Data.List.Nodup
import Mathlib.Data.Nat.Digits.Defs

/-!
Archives of parameters.

A network has few keys, so whatever its blobs are, what an archive notes of them is short and they
are found again under their names. Main statement: `exists_archive`.
-/

namespace Diffusion

open Halt (wordLimit)

/-! ### Lengths -/

theorem Bytes.length_fingerprint (bytes : ByteArray) : (fingerprint bytes).length = 64 := by
  rw [fingerprint, toHex, sha256, String.length_ofList, toList_mk]
  simp [List.length_flatMap]

theorem Json.lengthBound_nat_le {n : Nat} (word : n < wordLimit) : (nat n).lengthBound ≤ 20 := by
  rw [nat, lengthBound, String.length_ofList]
  exact Nat.toDigits_length 10 n 20 (by decide) (Nat.lt_of_lt_of_le word (by decide))

/-- A row of elements takes little room in a header. -/
theorem TensorInfo.lengthBound_toJson_le {i : TensorInfo} (words : i.Words) {extent : Nat}
    (row : i.shape = [extent]) : i.toJson.lengthBound ≤ 500 := by
  have names : "dtype".length + "shape".length + "data_offsets".length = 22 := by decide
  have element : i.element.text.length ≤ 7 := by cases i.element <;> decide
  have extents : (Json.nat extent).lengthBound ≤ 20 :=
    Json.lengthBound_nat_le (words.extents extent (by rw [row]; exact List.mem_singleton_self _))
  have first := Json.lengthBound_nat_le words.start
  have last := Json.lengthBound_nat_le words.stop
  simp only [toJson, row, List.map_cons, List.map_nil, Json.lengthBound, Json.fieldsBound,
    Json.itemsBound]
  omega

theorem Json.itemsBound_map_le {α : Type} {xs : List α} {write : α → Json} {most : Nat}
    (each : ∀ x ∈ xs, (write x).lengthBound ≤ most) :
    itemsBound (xs.map write) ≤ xs.length * (most + 1) := by
  induction xs with
  | nil => exact Nat.zero_le _
  | cons x rest ih =>
      have here := each x List.mem_cons_self
      have later := ih fun y member => each y (List.mem_cons_of_mem x member)
      rw [List.map_cons, itemsBound, List.length_cons, Nat.add_one_mul]
      omega

namespace Parameters

variable {p : Parameters}

theorem length_storageName_le {key : String} (allowed : key ∈ allowedKeys) :
    key.length ≤ 15 ∧ (storageName key).length ≤ 15 := by
  have all : ∀ key ∈ allowedKeys, key.length ≤ 15 ∧ (storageName key).length ≤ 15 := by
    decide +kernel
  exact all key allowed

theorem lengthBound_ofBlob_le {b : Blob} (allowed : b.1 ∈ allowedKeys)
    (word : b.2.size < wordLimit) : (ParameterEntry.ofBlob b).toJson.lengthBound ≤ 1000 := by
  have names : "key".length + "storage_name".length + "size".length + "sha256".length = 25 := by
    decide
  have digits := Bytes.length_fingerprint b.2
  have size := Json.lengthBound_nat_le word
  obtain ⟨key, stored⟩ := length_storageName_le allowed
  simp only [ParameterEntry.ofBlob, ParameterEntry.toJson, Json.lengthBound, Json.fieldsBound]
  omega

theorem length_blobs_le (keys : ∀ b ∈ p.blobs, b.1 ∈ allowedKeys) : p.blobs.length ≤ 2 := by
  have distinct : (p.blobs.map (·.1)).Nodup :=
    p.sorted.map _ fun _ _ below => String.ne_of_lt below
  have among : p.blobs.map (·.1) ⊆ allowedKeys := by
    intro key member
    obtain ⟨b, found, rfl⟩ := List.mem_map.mp member
    exact keys b found
  have few := (distinct.subperm among).length_le
  rwa [List.length_map] at few

theorem totalBytes_eq_sizeOf (p : Parameters) : p.totalBytes = Container.sizeOf p.blobs := by
  rw [totalBytes, Container.sizeOf, List.sum_eq_foldr, List.foldr_map]

theorem size_le_totalBytes {b : Blob} (member : b ∈ p.blobs) : b.2.size ≤ p.totalBytes := by
  rw [totalBytes_eq_sizeOf]
  exact List.le_sum_of_mem (List.mem_map_of_mem member)

theorem sizeOf_stored (p : Parameters) : Container.sizeOf p.stored = p.totalBytes := by
  rw [totalBytes_eq_sizeOf, stored, Container.sizeOf, List.map_map]
  rfl

theorem nodup_stored (keys : ∀ b ∈ p.blobs, b.1 ∈ allowedKeys) : (p.stored.map (·.1)).Nodup := by
  have names : p.stored.map (·.1) = (p.blobs.map (·.1)).map storageName := by
    rw [stored, List.map_map, List.map_map]
    rfl
  rw [names]
  refine List.Nodup.map_on ?_ ?_
  · intro key member other memberToo same
    obtain ⟨b, found, rfl⟩ := List.mem_map.mp member
    obtain ⟨c, foundToo, rfl⟩ := List.mem_map.mp memberToo
    exact storageName_injOn (keys b found) (keys c foundToo) same
  · exact p.sorted.map _ fun _ _ below => String.ne_of_lt below

/-- What a header has to say of the blobs is short, whatever is in them. -/
theorem sum_layOut_stored_le (keys : ∀ b ∈ p.blobs, b.1 ∈ allowedKeys)
    (word : p.totalBytes < wordLimit) :
    ((Container.layOut 0 (p.stored.mergeSort fun a b => decide (a.1 ≤ b.1))).map fun tensor =>
      6 * tensor.1.length + tensor.2.toJson.lengthBound + 4).sum ≤ 2000 := by
  have perm := List.mergeSort_perm p.stored fun a b => decide (a.1 ≤ b.1)
  generalize p.stored.mergeSort (fun a b => decide (a.1 ≤ b.1)) = sorted at perm ⊢
  have small : Container.sizeOf sorted < wordLimit := by
    rwa [Container.sizeOf, (perm.map _).sum_nat, ← Container.sizeOf, sizeOf_stored]
  have few : (Container.layOut 0 sorted).length ≤ 2 := by
    rw [← List.length_map (·.1), Container.names_layOut, List.length_map, perm.length_eq, stored,
      List.length_map]
    exact length_blobs_le keys
  have each : ∀ t ∈ Container.layOut 0 sorted,
      6 * t.1.length + t.2.toJson.lengthBound + 4 ≤ 1000 := by
    intro t member
    have named : t.1 ∈ sorted.map (·.1) :=
      Container.names_layOut 0 sorted ▸ List.mem_map_of_mem member
    obtain ⟨s, among, same⟩ := List.mem_map.mp named
    obtain ⟨b, found, rfl⟩ := List.mem_map.mp (perm.mem_iff.mp among)
    have name := (length_storageName_le (keys b found)).2
    obtain ⟨-, -, -, row⟩ := Container.start_le_of_mem_layOut member
    have info := TensorInfo.lengthBound_toJson_le (Container.words_of_mem_layOut small member) row
    rw [← same]
    dsimp only
    omega
  have total := List.sum_le_card_nsmul _ 1000 (List.forall_mem_map.mpr each)
  rw [List.length_map, smul_eq_mul] at total
  omega

theorem length_encodeAll_le (keys : ∀ b ∈ p.blobs, b.1 ∈ allowedKeys)
    (word : p.totalBytes < wordLimit) : (ParameterEntry.encodeAll p.entries).length ≤ 2004 := by
  have items : Json.itemsBound (p.entries.map ParameterEntry.toJson) ≤
      p.entries.length * 1001 := by
    refine Json.itemsBound_map_le fun e member => ?_
    obtain ⟨b, found, rfl⟩ := List.mem_map.mp member
    exact lengthBound_ofBlob_le (keys b found) (Nat.lt_of_le_of_lt (size_le_totalBytes found) word)
  have few : p.entries.length ≤ 2 := by
    rw [entries, List.length_map]
    exact length_blobs_le keys
  have written := Json.length_text_le (.array (p.entries.map ParameterEntry.toJson))
  rw [Json.lengthBound] at written
  rw [ParameterEntry.encodeAll]
  omega

/-- The archive of parameters is made, and read back with all blobs under their names. -/
theorem exists_archive (keys : ∀ b ∈ p.blobs, b.1 ∈ allowedKeys)
    (word : p.totalBytes < wordLimit) :
    ∃ packed c, p.archive = .ok packed ∧ Container.read packed = .ok c ∧
      ∀ name data, (name, data) ∈ p.stored → c.tensor name = .ok data := by
  have entries := length_encodeAll_le keys word
  have short : (Container.headerOf p.stored [("format", archiveFormat),
      ("parameters", ParameterEntry.encodeAll p.entries)]).size ≤ Container.maxHeader := by
    have bound := Container.size_headerOf_le p.stored
      [("format", archiveFormat), ("parameters", ParameterEntry.encodeAll p.entries)]
    have tensors := sum_layOut_stored_le keys word
    have names : "format".length + "parameters".length + archiveFormat.length = 43 := by
      decide +kernel
    simp only [List.map_cons, List.map_nil, List.sum_cons, List.sum_nil] at bound
    rw [Container.maxHeader]
    omega
  have fits := Nat.lt_of_le_of_lt short (show Container.maxHeader < wordLimit by decide)
  have written : p.archive = .ok _ :=
    Container.write_eq_ok_iff.mpr ⟨nodup_stored keys, fits, rfl⟩
  obtain ⟨c, reads, -, tensors⟩ := Container.read_write written
    (fun b member => by
      obtain ⟨blob, found, rfl⟩ := List.mem_map.mp member
      exact storageName_ne_metadataKey (keys blob found))
    (p.sizeOf_stored ▸ word) short
  exact ⟨_, c, written, reads, tensors⟩

end Parameters

end Diffusion
