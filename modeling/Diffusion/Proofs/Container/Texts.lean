import Diffusion.Proofs.Container.Tensors

/-!
Containers that hold texts and no tensors.

They can be written and read back as long as their header is not too long. Main statement:
`read_textHeader`.
-/

namespace Diffusion.Container

/-- The header of a container without tensors. -/
def textHeader (texts : List (String × String)) : ByteArray :=
  padded (headerJson texts []).text.toUTF8

theorem headerOf_nil (texts : List (String × String)) : headerOf [] texts = textHeader texts := by
  rw [headerOf, List.mergeSort_nil]
  rfl

theorem write_nil {texts : List (String × String)}
    (fits : (textHeader texts).size < Halt.wordLimit) :
    write [] texts = .ok (frame (textHeader texts) .empty) := by
  rw [← headerOf_nil] at fits ⊢
  refine write_eq_ok_iff.mpr ⟨List.nodup_nil, fits, ?_⟩
  rw [List.mergeSort_nil]
  rfl

/-- A container without tensors is read back. -/
theorem read_textHeader {texts : List (String × String)}
    (small : (textHeader texts).size ≤ maxHeader) :
    ∃ c, read (frame (textHeader texts) .empty) = .ok c ∧ c.metadata = some texts := by
  have written := write_nil (Nat.lt_of_le_of_lt small (by decide))
  rw [← headerOf_nil] at small
  obtain ⟨c, reads, held, -⟩ := read_write written nofun (by decide) small
  exact ⟨c, reads, held⟩

end Diffusion.Container
