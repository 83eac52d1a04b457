import Diffusion.Proofs.Container
import Diffusion.Proofs.Distinct
import Diffusion.Proofs.Json.Words

/-!
Containers that hold tensors.

The bytes of all blobs are laid one after another, the header says where each of them is, and there
the reader finds them again. Main statement: `read_write`.
-/

namespace Diffusion

open Halt (wordLimit)
open Json

namespace TensorInfo

/-- Whether the extents and the offsets of a tensor are words. -/
structure Words (i : TensorInfo) : Prop where
  extents : ∀ n ∈ i.shape, n < wordLimit
  start : i.start < wordLimit
  stop : i.stop < wordLimit

theorem ofJson?_toJson {i : TensorInfo} (words : i.Words) : ofJson? i.toJson = some i := by
  obtain ⟨element, shape, start, stop⟩ := i
  change ((asKeptMember? ElementType.all ElementType.text (.string element.text)).bind fun e =>
    (asList? asWord? (.array (shape.map .nat))).bind fun s =>
      (do return (← asWord? (.nat start), ← asWord? (.nat stop)) : Option (Nat × Nat)).bind
        fun offsets => some (⟨e, s, offsets.1, offsets.2⟩ : TensorInfo)) = _
  rw [asList?_map fun n member => asWord?_nat (words.extents n member), asWord?_nat words.start,
    asWord?_nat words.stop]
  cases element <;> rfl

theorem isReadable_toJson {i : TensorInfo} (words : i.Words) (room : Nat) :
    i.toJson.isReadable (room + 2) = true := by
  have extents : areReadable room (i.shape.map .nat) = true :=
    areReadable_map fun n member => isReadable_nat (words.extents n member) room
  simp [toJson, isReadable, areReadableFields, areReadable, extents, isReadable_nat words.start,
    isReadable_nat words.stop]

theorem size?_ofBytes {size : Nat} (start : Nat) (word : size < wordLimit) :
    (ofBytes start size).size? = some size := by
  have one : size?.word? (1 * size) = some size := by
    rw [Nat.one_mul, size?.word?, if_pos word]
  have width : size?.word? (size * ElementType.u8.width) = some size := by
    rw [ElementType.width, Nat.mul_one, size?.word?, if_pos word]
  change ((size?.word? (1 * size)).bind fun n => some n).bind
    (fun n => size?.word? (n * ElementType.u8.width)) = _
  rw [one]
  exact width

end TensorInfo

namespace Container

/-! ### The layout -/

/-- The bytes of blobs one after another. -/
def joined (before : ByteArray) (blobs : List (String × ByteArray)) : ByteArray :=
  blobs.foldl (fun data (_, bytes) => data ++ bytes) before

def sizeOf (blobs : List (String × ByteArray)) : Nat := (blobs.map (·.2.size)).sum

theorem joined_cons (before : ByteArray) (name : String) (bytes : ByteArray)
    (rest : List (String × ByteArray)) :
    joined before ((name, bytes) :: rest) = joined (before ++ bytes) rest := rfl

theorem joined_eq (before : ByteArray) (blobs : List (String × ByteArray)) :
    joined before blobs = before ++ joined .empty blobs := by
  induction blobs generalizing before with
  | nil => exact ByteArray.append_empty.symm
  | cons first rest ih =>
      obtain ⟨name, bytes⟩ := first
      rw [joined_cons, joined_cons, ih, ih (.empty ++ bytes), ByteArray.empty_append,
        ByteArray.append_assoc]

theorem size_joined (before : ByteArray) (blobs : List (String × ByteArray)) :
    (joined before blobs).size = before.size + sizeOf blobs := by
  induction blobs generalizing before with
  | nil => rfl
  | cons first rest ih =>
      obtain ⟨name, bytes⟩ := first
      rw [joined_cons, ih, ByteArray.size_append, sizeOf, sizeOf, List.map_cons, List.sum_cons,
        Nat.add_assoc]

theorem names_layOut (start : Nat) (blobs : List (String × ByteArray)) :
    (layOut start blobs).map (·.1) = blobs.map (·.1) := by
  induction blobs generalizing start with
  | nil => rfl
  | cons first rest ih =>
      obtain ⟨name, bytes⟩ := first
      rw [layOut, List.map_cons, List.map_cons, ih]

theorem start_le_of_mem_layOut {start : Nat} {blobs : List (String × ByteArray)}
    {tensor : String × TensorInfo} (member : tensor ∈ layOut start blobs) :
    start ≤ tensor.2.start ∧ tensor.2.start ≤ tensor.2.stop ∧
      tensor.2.stop ≤ start + sizeOf blobs ∧ tensor.2.shape = [tensor.2.stop - tensor.2.start] := by
  induction blobs generalizing start with
  | nil => cases member
  | cons first rest ih =>
      obtain ⟨name, bytes⟩ := first
      have total : sizeOf ((name, bytes) :: rest) = bytes.size + sizeOf rest := by
        rw [sizeOf, List.map_cons, List.sum_cons, sizeOf]
      rcases List.mem_cons.mp member with rfl | later
      · simp only [TensorInfo.ofBytes, total]
        exact ⟨by omega, by omega, by omega, by rw [Nat.add_sub_cancel_left]⟩
      · obtain ⟨after, order, inside, shape⟩ := ih later
        exact ⟨by omega, order, by omega, shape⟩

theorem words_of_mem_layOut {blobs : List (String × ByteArray)} {tensor : String × TensorInfo}
    (small : sizeOf blobs < wordLimit) (member : tensor ∈ layOut 0 blobs) : tensor.2.Words := by
  obtain ⟨-, order, inside, shape⟩ := start_le_of_mem_layOut member
  refine ⟨?_, by omega, by omega⟩
  rw [shape]
  intro n only
  rw [List.mem_singleton] at only
  omega

/-- Tensors are laid out in the order in which the reader puts them. -/
theorem pairwise_layOut (start : Nat) (blobs : List (String × ByteArray)) :
    (layOut start blobs).Pairwise fun a b => isBefore a b = true := by
  induction blobs generalizing start with
  | nil => exact .nil
  | cons first rest ih =>
      obtain ⟨name, bytes⟩ := first
      refine List.pairwise_cons.mpr ⟨fun tensor member => ?_, ih _⟩
      obtain ⟨after, order, -, -⟩ := start_le_of_mem_layOut member
      change (decide (start < tensor.2.start) || (start == tensor.2.start &&
        decide (start + bytes.size ≤ tensor.2.stop))) = true
      rw [Bool.or_eq_true, Bool.and_eq_true, decide_eq_true_eq, decide_eq_true_eq, beq_iff_eq]
      omega

theorem checkLayout_layOut {start : Nat} {blobs : List (String × ByteArray)}
    (small : start + sizeOf blobs < wordLimit) :
    checkLayout start (layOut start blobs) = .ok (start + sizeOf blobs) := by
  induction blobs generalizing start with
  | nil => rfl
  | cons first rest ih =>
      obtain ⟨name, bytes⟩ := first
      have total : sizeOf ((name, bytes) :: rest) = bytes.size + sizeOf rest := by
        rw [sizeOf, List.map_cons, List.sum_cons, sizeOf]
      rw [total] at small ⊢
      have inOrder : ¬ ((TensorInfo.ofBytes start bytes.size).start ≠ start ∨
          (TensorInfo.ofBytes start bytes.size).stop <
            (TensorInfo.ofBytes start bytes.size).start) := by
        simp [TensorInfo.ofBytes]
      have span : ¬ (TensorInfo.ofBytes start bytes.size).stop -
          (TensorInfo.ofBytes start bytes.size).start ≠ bytes.size := by
        simp [TensorInfo.ofBytes]
      rw [layOut, checkLayout, if_neg inOrder, TensorInfo.size?_ofBytes start (by omega)]
      dsimp only
      rw [if_neg span, ← Nat.add_assoc]
      exact ih (by omega)

/-- Where the layout has the bytes of a blob, there they are. -/
theorem extract_joined (before : ByteArray) {blobs : List (String × ByteArray)}
    (distinct : (blobs.map (·.1)).Nodup) {name : String} {bytes : ByteArray}
    (member : (name, bytes) ∈ blobs) :
    ∃ info, (layOut before.size blobs).lookup name = some info ∧
      (joined before blobs).extract info.start info.stop = bytes := by
  induction blobs generalizing before with
  | nil => cases member
  | cons first rest ih =>
      obtain ⟨other, given⟩ := first
      rw [List.map_cons, List.nodup_cons] at distinct
      rw [layOut, List.lookup_cons, joined_cons]
      rcases List.mem_cons.mp member with same | later
      · obtain ⟨rfl, rfl⟩ := Prod.mk.inj same
        refine ⟨_, by rw [beq_self_eq_true], ?_⟩
        rw [joined_eq, ByteArray.append_assoc]
        have found := ByteArray.extract_append_size_add (a := before)
          (b := bytes ++ joined .empty rest) (i := 0) (j := bytes.size)
        rw [Nat.add_zero] at found
        exact found.trans (ByteArray.extract_append_eq_left rfl)
      · have different : (name == other) = false := by
          refine beq_eq_false_iff_ne.mpr ?_
          rintro rfl
          exact distinct.1 (List.mem_map.mpr ⟨(name, bytes), later, rfl⟩)
        have found := ih (before ++ given) distinct.2 later
        rw [ByteArray.size_append] at found
        rw [different]
        exact found

/-! ### The header -/

theorem lastOnly_of_nodup {α : Type} {xs : List (String × α)} (distinct : (xs.map (·.1)).Nodup) :
    lastOnly xs = xs := by
  induction xs with
  | nil => rfl
  | cons first rest ih =>
      obtain ⟨name, x⟩ := first
      rw [List.map_cons, List.nodup_cons] at distinct
      have only : ¬ (rest.any fun t => t.1 == name) = true := by
        rw [List.any_eq_true]
        intro found
        obtain ⟨t, later, same⟩ := found
        exact distinct.1 (List.mem_map.mpr ⟨t, later, eq_of_beq same⟩)
      exact (if_neg only).trans (congrArg (List.cons (name, x)) (ih distinct.2))

section

variable {tensors : List (String × TensorInfo)}

theorem filter_metadataKey_eq_nil (apart : ∀ t ∈ tensors, t.1 ≠ metadataKey) :
    (tensors.map fun (name, info) => (name, info.toJson)).filter
      (fun (name, _) => name == metadataKey) = [] := by
  rw [List.filter_eq_nil_iff]
  intro field member same
  obtain ⟨t, found, rfl⟩ := List.mem_map.mp member
  exact apart t found (eq_of_beq same)

theorem filter_not_metadataKey_eq_self (apart : ∀ t ∈ tensors, t.1 ≠ metadataKey) :
    (tensors.map fun (name, info) => (name, info.toJson)).filter
      (not ∘ fun (name, _) => name == metadataKey) =
        tensors.map fun (name, info) => (name, info.toJson) := by
  rw [List.filter_eq_self]
  intro field member
  obtain ⟨t, found, rfl⟩ := List.mem_map.mp member
  simp [apart t found]

theorem mapM_headerTensor? (words : ∀ t ∈ tensors, t.2.Words) :
    (tensors.map fun (name, info) => (name, info.toJson)).mapM headerTensor? = some tensors := by
  induction tensors with
  | nil => rfl
  | cons t rest ih =>
      have here := words t List.mem_cons_self
      have later := ih fun u member => words u (List.mem_cons_of_mem t member)
      have readable : t.2.toJson.isReadable (maxNesting - 1) = true :=
        TensorInfo.isReadable_toJson here (maxNesting - 3)
      rw [List.map_cons, List.mapM_cons, later]
      simp only [headerTensor?, if_pos readable, TensorInfo.ofJson?_toJson here]
      rfl

/-- A header is read back if its tensors have names of their own and words for numbers. -/
theorem ofHeader?_headerJson (texts : List (String × String))
    (apart : ∀ t ∈ tensors, t.1 ≠ metadataKey) (distinct : (tensors.map (·.1)).Nodup)
    (words : ∀ t ∈ tensors, t.2.Words) :
    ofHeader? (headerJson texts tensors) = some (some texts, tensors) := by
  simp only [ofHeader?, headerJson, List.partition_eq_filter_filter, List.filter_cons_of_pos,
    beq_self_eq_true, filter_metadataKey_eq_nil apart, texts?_object]
  rw [List.filter_cons_of_neg (by simp), filter_not_metadataKey_eq_self apart,
    mapM_headerTensor? words]
  simp [lastOnly_of_nodup distinct]

end

/-! ### Writing and reading -/

/-- The header that is written for blobs and texts. -/
def headerOf (blobs : List (String × ByteArray)) (texts : List (String × String)) : ByteArray :=
  padded (headerJson texts (layOut 0 (blobs.mergeSort fun a b => decide (a.1 ≤ b.1)))).text.toUTF8

theorem write_eq_ok_iff {blobs : List (String × ByteArray)} {texts : List (String × String)}
    {bytes : ByteArray} :
    write blobs texts = .ok bytes ↔
      (blobs.map (·.1)).Nodup ∧ (headerOf blobs texts).size < wordLimit ∧
        bytes = frame (headerOf blobs texts)
          (joined .empty (blobs.mergeSort fun a b => decide (a.1 ≤ b.1))) := by
  unfold write
  dsimp only
  split
  · rename_i full
    have distinct := length_eraseDups_eq_iff.mp full
    constructor
    · intro written
      obtain ⟨_, size, same⟩ := Halt.bind_eq_ok_iff.mp written
      cases same
      exact ⟨distinct, (Halt.checked_eq_ok_iff.mp size).1, rfl⟩
    · intro whole
      obtain ⟨-, fits, rfl⟩ := whole
      exact Halt.bind_eq_ok_iff.mpr ⟨_, Halt.checked_eq_ok_iff.mpr ⟨fits, rfl⟩, rfl⟩
  · rename_i clash
    constructor
    · intro written
      cases written
    · intro whole
      exact absurd (length_eraseDups_eq_iff.mpr whole.1) clash

theorem size_headerOf_le (blobs : List (String × ByteArray)) (texts : List (String × String)) :
    (headerOf blobs texts).size ≤
      4 * ((texts.map fun field => 6 * (field.1.length + field.2.length + 1)).sum +
        ((layOut 0 (blobs.mergeSort fun a b => decide (a.1 ≤ b.1))).map fun tensor =>
          6 * tensor.1.length + tensor.2.toJson.lengthBound + 4).sum) + 400 := by
  have padded := size_padded_text_le
    (headerJson texts (layOut 0 (blobs.mergeSort fun a b => decide (a.1 ≤ b.1))))
  rw [lengthBound_headerJson] at padded
  rw [headerOf]
  omega

/-- A container is read back, with its texts and all its tensors, if none of them is called like the
texts and the header is not too long. -/
theorem read_write {blobs : List (String × ByteArray)} {texts : List (String × String)}
    {bytes : ByteArray} (written : write blobs texts = .ok bytes)
    (apart : ∀ b ∈ blobs, b.1 ≠ metadataKey) (small : sizeOf blobs < wordLimit)
    (short : (headerOf blobs texts).size ≤ maxHeader) :
    ∃ c, read bytes = .ok c ∧ c.metadata = some texts ∧
      ∀ name data, (name, data) ∈ blobs → c.tensor name = .ok data := by
  obtain ⟨distinct, fits, rfl⟩ := write_eq_ok_iff.mp written
  have perm := List.mergeSort_perm blobs fun a b => decide (a.1 ≤ b.1)
  have header : headerOf blobs texts = padded (headerJson texts
      (layOut 0 (blobs.mergeSort fun a b => decide (a.1 ≤ b.1)))).text.toUTF8 := rfl
  generalize blobs.mergeSort (fun a b => decide (a.1 ≤ b.1)) = sorted at perm header ⊢
  have total : sizeOf sorted = sizeOf blobs := (perm.map _).sum_nat
  have distinctNames : ((layOut 0 sorted).map (·.1)).Nodup := by
    rw [names_layOut]
    exact (perm.map _).nodup_iff.mpr distinct
  have apartNames : ∀ t ∈ layOut 0 sorted, t.1 ≠ metadataKey := by
    intro t member
    have named : t.1 ∈ sorted.map (·.1) := names_layOut 0 sorted ▸ List.mem_map_of_mem member
    obtain ⟨b, found, same⟩ := List.mem_map.mp named
    exact same ▸ apart b (perm.mem_iff.mp found)
  have decoded := ofHeader?_headerJson texts apartNames distinctNames fun t member =>
    words_of_mem_layOut (total ▸ small) member
  have inOrder : (layOut 0 sorted).mergeSort isBefore = layOut 0 sorted :=
    List.mergeSort_of_pairwise (pairwise_layOut 0 sorted)
  have layout : checkLayout 0 (layOut 0 sorted) = .ok (sizeOf sorted) := by
    rw [checkLayout_layOut (by omega), Nat.zero_add]
  have size : (frame (headerOf blobs texts) (joined .empty sorted)).size =
      8 + (headerOf blobs texts).size + sizeOf sorted := by
    rw [frame, ByteArray.size_append, ByteArray.size_append, Bytes.size_littleEndian, size_joined,
      ByteArray.size_empty, Nat.zero_add]
  obtain ⟨text, read, parsed⟩ := exists_parse?_padded texts (layOut 0 sorted)
  rw [← header] at read
  have enough : ¬ (frame (headerOf blobs texts) (joined .empty sorted)).size < 8 := by omega
  have large : ¬ maxHeader < (headerOf blobs texts).size := by omega
  have inside : ¬ (frame (headerOf blobs texts) (joined .empty sorted)).size <
      (headerOf blobs texts).size + 8 := by omega
  have whole : ¬ sizeOf sorted + 8 + (headerOf blobs texts).size ≠
      (frame (headerOf blobs texts) (joined .empty sorted)).size := by omega
  have data : (frame (headerOf blobs texts) (joined .empty sorted)).extract
      ((headerOf blobs texts).size + 8)
      (frame (headerOf blobs texts) (joined .empty sorted)).size = joined .empty sorted := by
    have framed : ((⟨(Bytes.littleEndian 8 (headerOf blobs texts).size).toArray⟩ : ByteArray) ++
        headerOf blobs texts).size = (headerOf blobs texts).size + 8 := by
      rw [ByteArray.size_append, Bytes.size_littleEndian, Nat.add_comm]
    rw [frame]
    exact ByteArray.extract_append_eq_right framed.symm ByteArray.size_append
  refine ⟨⟨some texts, layOut 0 sorted, joined .empty sorted⟩, ?_, rfl, ?_⟩
  · unfold Container.read
    simp only [enough, length_of_frame fits, large, inside, header_of_frame, read, parsed, decoded,
      inOrder, layout, whole, data, if_false, Option.bind_some, bind, Except.bind]
    rfl
  · intro name bytes member
    obtain ⟨info, found, here⟩ := extract_joined .empty
      ((perm.map _).nodup_iff.mpr distinct) (perm.mem_iff.mpr member)
    rw [ByteArray.size_empty] at found
    simp only [tensor, found, here]

end Container

end Diffusion
