import Diffusion.Parameters
import Diffusion.Proofs.Action
import Diffusion.Proofs.Json.Reading
import Diffusion.Proofs.Json.Words

/-!
Parameters read back from where they were stored.

Main statements: `decodeAll?_encodeAll` for what is noted of the parameters, and
`ofContainer_entries` for the parameters themselves.
-/

namespace Diffusion

open Halt (wordLimit)
open Json

namespace ParameterEntry

theorem ofJson?_toJson {e : ParameterEntry} (word : e.size < wordLimit) :
    ofJson? e.toJson = some e := by
  change (some e.key).bind (fun key => (some e.storageName).bind fun name =>
    (asWord? (.nat e.size)).bind fun size => (some e.sha256).bind fun digest =>
      some (⟨key, name, size, digest⟩ : ParameterEntry)) = _
  rw [asWord?_nat word]
  rfl

theorem isWritable_toJson (e : ParameterEntry) : e.toJson.IsWritable :=
  ⟨trivial, trivial, Json.isWritable_nat e.size, trivial, trivial⟩

theorem decodeAll?_encodeAll {entries : List ParameterEntry}
    (words : ∀ e ∈ entries, e.size < wordLimit) :
    decodeAll? (encodeAll entries) = some entries := by
  have writable : (Json.array (entries.map toJson)).IsWritable :=
    areWritable_map fun e _ => e.isWritable_toJson
  have read := parse?_text writable fun _ none => absurd none List.not_mem_nil
  rw [String.ofList_nil, String.append_empty] at read
  rw [decodeAll?, encodeAll, read, Option.bind_some,
    asList?_map fun e member => ofJson?_toJson (words e member)]

theorem checkKeys_eq_ok_iff {entries : List ParameterEntry} :
    checkKeys entries = .ok () ↔ ∀ e ∈ entries, e.key ∈ Parameters.allowedKeys := by
  have foreign : (entries.find? fun e => !Parameters.allowedKeys.contains e.key) = none ↔
      ∀ e ∈ entries, e.key ∈ Parameters.allowedKeys := by
    simp [List.find?_eq_none]
  rw [← foreign, checkKeys]
  cases entries.find? fun e => !Parameters.allowedKeys.contains e.key <;> simp

/-- What an entry notes of a blob, said of bytes. -/
structure Notes (e : ParameterEntry) (bytes : ByteArray) : Prop where
  size : bytes.size = e.size
  sha256 : Bytes.fingerprint bytes = e.sha256

theorem notes_ofBlob (b : Blob) : (ofBlob b).Notes b.2 := ⟨rfl, rfl⟩

theorem verify_eq_ok_iff {e : ParameterEntry} {bytes : ByteArray} :
    e.verify bytes = .ok () ↔ e.Notes bytes := by
  constructor
  · intro verified
    unfold verify at verified
    split at verified
    · cases verified
    · rename_i size
      dsimp only at verified
      split at verified
      · cases verified
      · rename_i same
        exact ⟨not_not.mp size, not_not.mp same⟩
  · intro notes
    unfold verify
    rw [if_neg (not_not.mpr notes.size)]
    dsimp only
    rw [if_neg (not_not.mpr notes.sha256)]

end ParameterEntry

namespace Parameters

theorem insertBlob_of_lt {key : String} {bytes : ByteArray} {blobs : List Blob}
    (above : ∀ b ∈ blobs, b.1 < key) : insertBlob key bytes blobs = blobs ++ [(key, bytes)] := by
  induction blobs with
  | nil => rfl
  | cons first rest ih =>
      obtain ⟨other, old⟩ := first
      have below : other < key := above _ List.mem_cons_self
      have notBefore : ¬ key < other := String.lt_asymm below
      have different : key ≠ other := by
        rintro rfl
        exact String.lt_irrefl _ below
      rw [insertBlob, if_neg notBefore, if_neg different,
        ih fun b member => above b (List.mem_cons_of_mem _ member)]
      rfl

theorem eq_of_blobs {p q : Parameters} (same : p.blobs = q.blobs) : p = q := by
  obtain ⟨blobs, _⟩ := p
  obtain ⟨others, _⟩ := q
  cases same
  rfl

theorem blobs_foldl_insert {rest : List Blob} {done : Parameters}
    (sorted : (done.blobs ++ rest).Pairwise fun a b => a.1 < b.1) :
    (rest.foldl (fun p (key, bytes) => p.insert key bytes) done).blobs = done.blobs ++ rest := by
  induction rest generalizing done with
  | nil => exact (List.append_nil _).symm
  | cons b rest ih =>
      have above := (List.pairwise_append.mp sorted).2.2
      have put : (done.insert b.1 b.2).blobs = done.blobs ++ [b] :=
        insertBlob_of_lt fun other member => above other member b List.mem_cons_self
      have later : ((done.insert b.1 b.2).blobs ++ rest).Pairwise fun a b => a.1 < b.1 := by
        rw [put, List.append_assoc]
        exact sorted
      rw [List.foldl_cons, ih later, put, List.append_assoc]
      rfl

/-- Blobs that are put in one by one in the order of their keys stay in that order. -/
theorem ofList_blobs (p : Parameters) : ofList p.blobs = p :=
  eq_of_blobs (blobs_foldl_insert p.sorted)

theorem blobOf_eq_ok_iff {c : Container} {e : ParameterEntry} {bytes : ByteArray} :
    blobOf c e = .ok bytes ↔ c.tensor e.storageName = .ok bytes ∧ e.Notes bytes := by
  unfold blobOf
  cases c.tensor e.storageName with
  | error fault =>
      constructor
      · intro impossible
        cases impossible
      · rintro ⟨⟨⟩, -⟩
  | ok found =>
      constructor
      · intro verified
        obtain ⟨_, notes, same⟩ := Halt.bind_eq_ok_iff.mp verified
        cases same
        exact ⟨rfl, ParameterEntry.verify_eq_ok_iff.mp notes⟩
      · rintro ⟨⟨⟩, notes⟩
        exact Halt.bind_eq_ok_iff.mpr ⟨(), ParameterEntry.verify_eq_ok_iff.mpr notes, rfl⟩

/-- A container that holds the stored blobs gives the parameters back. -/
theorem ofContainer_entries {c : Container} {p : Parameters}
    (allowed : ∀ b ∈ p.blobs, b.1 ∈ allowedKeys)
    (holds : ∀ name data, (name, data) ∈ p.stored → c.tensor name = .ok data) :
    ofContainer c p.entries = .ok p := by
  have keys : ParameterEntry.checkKeys p.entries = .ok () := by
    refine ParameterEntry.checkKeys_eq_ok_iff.mpr fun e member => ?_
    obtain ⟨b, found, rfl⟩ := List.mem_map.mp member
    exact allowed b found
  have blob : ∀ b ∈ p.blobs, blobOf c (.ofBlob b) = .ok b.2 := fun b member =>
    blobOf_eq_ok_iff.mpr
      ⟨holds _ _ (List.mem_map.mpr ⟨b, member, rfl⟩), ParameterEntry.notes_ofBlob b⟩
  have blobs : ∀ bs : List Blob, (∀ b ∈ bs, blobOf c (.ofBlob b) = .ok b.2) →
      (bs.map ParameterEntry.ofBlob).mapM (fun e => do return (e.key, ← blobOf c e)) =
        (.ok bs : Except Error (List Blob)) := by
    intro bs found
    induction bs with
    | nil => rfl
    | cons b rest ih =>
        rw [List.map_cons, List.mapM_cons, found b List.mem_cons_self,
          ih fun other member => found other (List.mem_cons_of_mem b member)]
        rfl
  rw [ofContainer, keys, entries, blobs p.blobs blob, Halt.bind_ok, Halt.bind_ok, ofList_blobs]
  rfl

/-! ### Names inside a container -/

/-- No blob of a network is stored under the name of the texts. -/
theorem storageName_ne_metadataKey {key : String} (allowed : key ∈ allowedKeys) :
    storageName key ≠ Container.metadataKey := by
  have all : ∀ key ∈ allowedKeys, storageName key ≠ Container.metadataKey := by decide +kernel
  exact all key allowed

theorem storageName_injOn {key other : String} (allowed : key ∈ allowedKeys)
    (allowedToo : other ∈ allowedKeys) (same : storageName key = storageName other) :
    key = other := by
  have all : ∀ key ∈ allowedKeys, ∀ other ∈ allowedKeys,
      storageName key = storageName other → key = other := by
    decide +kernel
  exact all key allowed other allowedToo same

end Parameters

end Diffusion
