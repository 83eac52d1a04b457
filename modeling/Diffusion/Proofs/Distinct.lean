import Mathlib.Data.List.Perm.Subperm

/-!
Lists whose repetitions are erased.
-/

namespace Diffusion

variable {α : Type} [BEq α] [LawfulBEq α]

theorem nodup_eraseDups (xs : List α) : xs.eraseDups.Nodup := by
  induction size : xs.length using Nat.strongRecOn generalizing xs with
  | ind n ih =>
      cases xs with
      | nil => exact List.nodup_nil
      | cons x rest =>
          have shorter := List.length_filter_le (fun y => !y == x) rest
          rw [List.length_cons] at size
          rw [List.eraseDups_cons, List.nodup_cons, List.mem_eraseDups]
          exact ⟨by simp, ih _ (by omega) _ rfl⟩

/-- Exactly the lists without repetitions are not shortened. -/
theorem length_eraseDups_eq_iff {xs : List α} : xs.eraseDups.length = xs.length ↔ xs.Nodup := by
  constructor
  · intro full
    have inside := (nodup_eraseDups xs).subperm fun _ member => List.mem_eraseDups.mp member
    exact (inside.perm_of_length_le (Nat.le_of_eq full.symm)).nodup_iff.mp (nodup_eraseDups xs)
  · intro distinct
    exact ((List.perm_ext_iff_of_nodup (nodup_eraseDups xs) distinct).mpr
      fun _ => List.mem_eraseDups).length_eq

end Diffusion
